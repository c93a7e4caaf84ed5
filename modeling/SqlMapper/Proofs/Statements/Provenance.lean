import SqlMapper.Proofs.Session.Execution
import SqlMapper.Proofs.Session.Serving
import SqlMapper.Proofs.Statements.Account
import SqlMapper.Proofs.Statements.Inventory

namespace SqlMapper

open Fallible

/-- The statement was created for a run of a command with this text. -/
def Configuration.Supplies (config : Configuration) (calls : List LogEntry) (s : Statement)
    (sql : String) : Prop :=
  ∃ i, config.Invokes i ∧ i.bound.sql = sql ∧ ∃ c, ⟨.prepare c s i.form, .succeeded⟩ ∈ calls

/-- Each text was executed on a statement that had been created for it. -/
def Configuration.Supplied (config : Configuration) (calls : List LogEntry) : Prop :=
  ∀ earlier s sql o later, calls = earlier ++ ⟨.execute s sql, o⟩ :: later → o ≠ .refused →
    config.Supplies earlier s sql

/-- Since `base`, `calls` have been made, and the statements in `m` are kept for their texts. -/
structure Stocked (config : Configuration) (base : Database) (calls : List LogEntry)
    (m : NameMap Statement) (db : Database) : Prop where
  log : db.log = base.log ++ calls
  supplied : config.Supplied calls
  made : ∀ e ∈ m, e.2.index < db.statements.length
  supplies : ∀ e ∈ m, config.Supplies calls e.2 e.1
  one : ∀ e ∈ m, ∀ e' ∈ m, e'.2 = e.2 → e'.1 = e.1

/-- Between two runs of commands each kept statement has its text. -/
def Stock (config : Configuration) (base : Database) (m : NameMap Statement) (db : Database) :
    Prop :=
  ∃ calls, Stocked config base calls m db ∧ ∀ e ∈ m, db.Has e.2 e.1

/-- An execution of the statement for the invocation is one of the invocation's text. The statement
is kept for no other text; its own text need not be that yet. -/
structure Fitting (config : Configuration) (base : Database) (i : Invocation) (s : Statement)
    (calls : List LogEntry) (m : NameMap Statement) (db : Database) : Prop where
  stocked : Stocked config base calls m db
  made : s.index < db.statements.length
  supplies : config.Supplies calls s i.bound.sql
  text : (db.statement s).closed = true ∨ i.text.getD (db.statement s).sql = i.bound.sql
  own : ∀ e ∈ m, e.2 = s → e.1 = i.bound.sql
  others : ∀ e ∈ m, e.2 ≠ s → db.Has e.2 e.1

def Fits (config : Configuration) (base : Database) (i : Invocation) (s : Statement)
    (m : NameMap Statement) (db : Database) : Prop :=
  ∃ calls, Fitting config base i s calls m db

variable {config : Configuration} {base db db' : Database} {calls : List LogEntry}
  {m : NameMap Statement} {i : Invocation} {s : Statement} {sql : String}

theorem Configuration.Supplies.append (h : config.Supplies calls s sql) (later : List LogEntry) :
    config.Supplies (calls ++ later) s sql := by
  obtain ⟨i, hi, hsql, c, hc⟩ := h
  exact ⟨i, hi, hsql, c, List.mem_append_left _ hc⟩

namespace Configuration.Supplied

theorem snoc {e : LogEntry} (h : config.Supplied calls)
    (he : ∀ s sql, e.call = .execute s sql → e.outcome ≠ .refused → config.Supplies calls s sql) :
    config.Supplied (calls ++ [e]) := by
  intro earlier s sql o later hsplit ho
  obtain ⟨-, rfl, rfl⟩ | ⟨init, -, hcalls⟩ := split_snoc hsplit
  · exact he s sql rfl ho
  · exact h earlier s sql o init hcalls ho

theorem append {later : List LogEntry} (h : config.Supplied calls)
    (hlater : ∀ e ∈ later, e.executes = false) : config.Supplied (calls ++ later) := by
  induction later generalizing calls with
  | nil => rwa [List.append_nil]
  | cons e later ih =>
    rw [List.append_cons]
    refine ih (h.snoc fun s sql he => ?_) fun e' he' => hlater e' (List.mem_cons_of_mem e he')
    have hquiet := hlater e List.mem_cons_self
    rw [LogEntry.executes, he] at hquiet
    cases hquiet

end Configuration.Supplied

namespace Stocked

theorem snoc {e : LogEntry} (h : Stocked config base calls m db) (hlog : db'.log = db.log ++ [e])
    (hlength : db.statements.length ≤ db'.statements.length)
    (he : ∀ s sql, e.call = .execute s sql → e.outcome ≠ .refused →
      config.Supplies calls s sql) : Stocked config base (calls ++ [e]) m db' := by
  refine ⟨?_, h.supplied.snoc he, fun e he => ?_, fun e he => (h.supplies e he).append _, h.one⟩
  · rw [hlog, h.log, List.append_assoc]
  · exact Nat.lt_of_lt_of_le (h.made e he) hlength

theorem record (h : Stocked config base calls m db) (call : Call) (o : CallOutcome)
    (hcall : LogEntry.executes ⟨call, o⟩ = false) :
    Stocked config base (calls ++ [⟨call, o⟩]) m (db.record call o) := by
  refine h.snoc rfl (Nat.le_refl _) fun s sql he _ => ?_
  cases (he : call = .execute s sql)
  cases hcall

theorem idle (hdb : db.Idles db') (h : Stocked config base calls m db) :
    ∃ later, Stocked config base (calls ++ later) m db' := by
  obtain ⟨later, hlog, hlater⟩ := hdb.reads
  refine ⟨later, ?_, h.supplied.append hlater, fun e he => ?_, fun e he => ?_, h.one⟩
  · rw [hlog, h.log, List.append_assoc]
  · rw [hdb.length]
    exact h.made e he
  · exact (h.supplies e he).append later

end Stocked

namespace Stock

theorem idle (hdb : db.Idles db') (h : Stock config base m db) : Stock config base m db' := by
  obtain ⟨calls, hstocked, hhas⟩ := h
  obtain ⟨later, hnext⟩ := hstocked.idle hdb
  exact ⟨_, hnext, fun e he => (hhas e he).idle hdb⟩

theorem record (h : Stock config base m db) (call : Call) (o : CallOutcome)
    (hcall : LogEntry.executes ⟨call, o⟩ = false) : Stock config base m (db.record call o) := by
  obtain ⟨calls, hstocked, hhas⟩ := h
  exact ⟨_, hstocked.record call o hcall, hhas⟩

theorem fits (h : Stock config base m db) (hs : m.get? i.bound.sql = some s) :
    Fits config base i s m db := by
  obtain ⟨calls, hstocked, hhas⟩ := h
  have hmem : (i.bound.sql, s) ∈ m := NameMap.mem_of_get? hs
  refine ⟨calls, hstocked, hstocked.made _ hmem, hstocked.supplies _ hmem, ?_,
    fun e he hes => hstocked.one _ hmem e he hes, fun e he _ => hhas e he⟩
  refine (hhas _ hmem).imp_right fun hsql => ?_
  rw [hsql]
  unfold Invocation.text
  split <;> rfl

theorem adding (h : Stock config base m db) (hi : config.Invokes i) (c : Connection) :
    Stock config base m
        ((db.adding i.form.sql).record (.prepare c ⟨db.statements.length⟩ i.form) .succeeded) ∧
      Fits config base i ⟨db.statements.length⟩ m
        ((db.adding i.form.sql).record (.prepare c ⟨db.statements.length⟩ i.form) .succeeded) := by
  obtain ⟨calls, hstocked, hhas⟩ := h
  have hnext : Stocked config base
      (calls ++ [⟨.prepare c ⟨db.statements.length⟩ i.form, .succeeded⟩]) m
      ((db.adding i.form.sql).record (.prepare c ⟨db.statements.length⟩ i.form) .succeeded) :=
    hstocked.snoc rfl (by simp [Database.record]) nofun
  have hstay : ∀ e ∈ m, (db.adding i.form.sql).Has e.2 e.1 := by
    intro e he
    unfold Database.Has
    rw [Database.statement_adding (hstocked.made e he)]
    exact hhas e he
  refine ⟨⟨_, hnext, hstay⟩, _, hnext, by simp [Database.record], ?_, .inr ?_, fun e he hes => ?_,
    fun e he _ => hstay e he⟩
  · exact ⟨i, hi, rfl, c, List.mem_append_right _ List.mem_cons_self⟩
  · exact Invocation.text_of_created ⟨by simp [Database.record], db.statement_adding_new _⟩
  · -- its number is larger than that of any kept statement
    have hlt := hstocked.made e he
    rw [hes] at hlt
    exact absurd hlt (Nat.lt_irrefl _)

end Stock

namespace Fits

theorem record (call : Call) (o : CallOutcome) (hcall : LogEntry.executes ⟨call, o⟩ = false)
    (h : Fits config base i s m db) : Fits config base i s m (db.record call o) := by
  obtain ⟨calls, h⟩ := h
  exact ⟨_, h.stocked.record call o hcall, h.made, h.supplies.append _, h.text, h.own, h.others⟩

theorem insert (h : Fits config base i s m db) :
    Fits config base i s (m.insert i.bound.sql s) db := by
  obtain ⟨calls, h⟩ := h
  have hown : ∀ e ∈ m.insert i.bound.sql s, e.2 = s → e.1 = i.bound.sql := by
    intro e he hes
    obtain rfl | he := NameMap.mem_insert he
    · rfl
    · exact h.own e he hes
  refine ⟨calls, ⟨h.stocked.log, h.stocked.supplied, fun e he => ?_, fun e he => ?_, ?_⟩, h.made,
    h.supplies, h.text, hown, fun e he hes => ?_⟩
  · obtain rfl | he := NameMap.mem_insert he
    · exact h.made
    · exact h.stocked.made e he
  · obtain rfl | he := NameMap.mem_insert he
    · exact h.supplies
    · exact h.stocked.supplies e he
  · intro e he e' he' hsame
    obtain rfl | he := NameMap.mem_insert he
    · exact hown e' he' hsame
    · obtain rfl | he' := NameMap.mem_insert he'
      · exact (h.own e he hsame.symm).symm
      · exact h.stocked.one e he e' he' hsame
  · obtain rfl | he := NameMap.mem_insert he
    · exact absurd rfl hes
    · exact h.others e he hes

theorem stock (h : Fits config base i s m db) (htext : i.text = none) :
    Stock config base m db := by
  obtain ⟨calls, h⟩ := h
  refine ⟨calls, h.stocked, fun e he => ?_⟩
  by_cases hes : e.2 = s
  · have hsql := h.text
    rw [htext] at hsql
    rw [hes, h.own e he hes]
    exact hsql
  · exact h.others e he hes

theorem execute {f : StatementState → StatementState} (hf : ∀ t, (f t).sql = i.bound.sql)
    (h : Fits config base i s m db) (o : CallOutcome) :
    Stock config base m ((db.change s f).record (.execute s i.bound.sql) o) := by
  obtain ⟨calls, h⟩ := h
  refine ⟨_, h.stocked.snoc rfl (by simp [Database.record]) fun s' sql' hcall _ => ?_,
    fun e he => ?_⟩
  · cases hcall
    exact h.supplies
  · change (db.change s f).Has e.2 e.1
    unfold Database.Has
    by_cases hes : e.2 = s
    · rw [hes, Database.statement_change_self h.made, hf, h.own e he hes]
      exact .inr rfl
    · rw [Database.statement_change_of_ne hes]
      exact h.others e he hes

theorem refused (hclosed : (db.statement s).closed = true) (h : Fits config base i s m db)
    (sql : String) : Stock config base m (db.record (.execute s sql) .refused) := by
  obtain ⟨calls, h⟩ := h
  refine ⟨_, h.stocked.snoc rfl (Nat.le_refl _) fun _ _ _ ho => absurd rfl ho, fun e he => ?_⟩
  by_cases hes : e.2 = s
  · exact .inl (hes ▸ hclosed)
  · exact h.others e he hes

theorem executed : Leads (Fits config base i s m) (i.execute s)
    (fun _ => Stock config base m) (Stock config base m) := by
  have hopen : Leads (fun db => Fits config base i s m db ∧ (db.statement s).closed = false)
      (s.execute i.text) (fun _ => Stock config base m) (Stock config base m) := by
    -- a plain statement is given its text now, any other has it since its creation
    have htext : ∀ db, Fits config base i s m db → (db.statement s).closed = false →
        i.text.getD (db.statement s).sql = i.bound.sql := by
      rintro db ⟨calls, h⟩ hc
      exact h.text.resolve_left (by simp [hc])
    refine Leads.perform (fun db h hrefusal => ?_) (fun db e db' h hr => ?_)
      fun db a db' h hr => ?_
    · exact absurd (Database.closedError_of_open h.2) hrefusal
    · rw [htext db h.1 h.2] at hr ⊢
      dsimp only at hr
      split at hr <;> cases hr
      exact h.1.execute (fun _ => rfl) _
    · rw [htext db h.1 h.2] at hr ⊢
      dsimp only at hr
      split at hr <;> cases hr
      exact h.1.execute (fun _ => rfl) _
  have hrun : Leads (Fits config base i s m) (s.execute i.text)
      (fun _ => Stock config base m) (Stock config base m) := by
    intro db h
    cases hc : (db.statement s).closed with
    | false => exact hopen db ⟨h, hc⟩
    | true =>
      have hrefused : (s.execute i.text).outcome db = (.error (.statement "statement is closed"),
          db.record (.execute s (i.text.getD (db.statement s).sql)) .refused) := by
        rw [Statement.execute, outcome_of, Database.closedError, if_pos hc]
        rfl
      rw [hrefused]
      refine ⟨fun b db' hb => ?_, fun e db' he => ?_⟩
      · cases hb
      · cases he
        exact h.refused hc _
  exact hrun.discard

end Fits

namespace Stock

theorem serving (config : Configuration) (base : Database) :
    Serving config (Stock config base) (Fits config base) where
  idle := fun hdb h => h.idle hdb
  created := by
    intro m i hi timeout c
    have hcreate : Leads (Stock config base m) (c.prepare i.form)
        (fun s db => Stock config base m db ∧ Fits config base i s m db) (Stock config base m) := by
      refine Leads.perform (fun db h _ => h.record _ _ rfl)
        (fun db e db' _ hr => ?_) fun db s db' h hr => ?_ <;> cases hr
      exact h.adding hi c
    refine hcreate.bind fun s => ?_
    have hsettings : Maintains (fun db => Stock config base m db ∧ Fits config base i s m db)
        (i.applySettings config.settings timeout s) fun _ => True := i.applySettings_keeps
      (fun db call o hcall h => ⟨h.1.record call o hcall, h.2.record call o hcall⟩) _ _ _
    have hclose : Maintains (Stock config base m) s.closeQuietly fun _ => True :=
      .of_idles (fun _ => s.closeQuietly_idles) idle
    exact (hsettings.leads.orUndo (hclose.leads.weaken_pre fun _ h => h.1)).bind fun _ =>
      .pure fun _ h => h.2
  kept := fun h => h.insert
  dropped := by
    rintro m sql db ⟨calls, h, hhas⟩
    have hsub := (NameMap.erase_sublist sql m).subset
    exact ⟨calls, ⟨h.log, h.supplied, fun e he => h.made e (hsub he),
      fun e he => h.supplies e (hsub he), fun e he e' he' => h.one e (hsub he) e' (hsub he')⟩,
      fun e he => hhas e (hsub he)⟩
  again := by
    intro m i s hi hs timeout
    have hsettings : Maintains (Stock config base m) (i.applySettings config.settings timeout s)
        fun _ => True := i.applySettings_keeps
      (fun db call o hcall h => h.record call o hcall) _ _ _
    exact hsettings.leads.weaken (fun _ h => h) (fun _ _ h => h.fits hs) fun _ h => h
  given := by
    intro m i s p
    cases htext : i.text with
    | none =>
      exact (i.parameterize_keeps (fun _ call o hcall h => h.record call o hcall)
        p s).leads.weaken_error fun _ h => h.stock htext
    | some text =>
      rw [Invocation.parameterize_of_text htext]
      exact .pure fun _ h => h
  executed := Fits.executed
  emptied := by
    rintro m db ⟨calls, h, -⟩
    exact ⟨calls, ⟨h.log, h.supplied, nofun, nofun, nofun⟩, nofun⟩

end Stock

namespace Run

variable {tr : Transaction} {autoCommit : Bool} {past : List Turn} {w : World}
  {earlier later : List LogEntry} {o : CallOutcome}

theorem supplied (hr : Run config (.opened db .reuse tr autoCommit) past w) :
    config.Supplied (past.flatMap Turn.calls) := by
  have hstart : Stocked config db [] [] db :=
    ⟨(List.append_nil _).symm, fun _ _ _ _ _ h => by simp at h, nofun, nofun, nofun⟩
  obtain ⟨m, -, calls, h, -⟩ := hr.serves (Stock.serving config db) ⟨[], rfl, [], hstart, nofun⟩
  rw [← hr.calls_eq h.log]
  exact h.supplied

theorem not_refused {type : ExecutorType} (hr : Run config (.opened db type tr autoCommit) past w)
    (h : past.flatMap Turn.calls = earlier ++ ⟨.execute s sql, o⟩ :: later) : o ≠ .refused :=
  fun ho => (hr.ledger.orderly earlier _ later s h rfl).2 ho rfl

/-- Where statements are kept for their texts, a text that is executed is that of some command. If
the commands that have it agree on how their statements are created, the statement that is used was
created in the way of each of them. -/
theorem executions_formed
    (hagree : ∀ i j, config.Invokes i → config.Invokes j → i.bound.sql = sql → j.bound.sql = sql →
      i.form = j.form)
    (hr : Run config (.opened db .reuse tr autoCommit) past w)
    (h : past.flatMap Turn.calls = earlier ++ ⟨.execute s sql, o⟩ :: later) :
    (∃ i, config.Invokes i ∧ i.bound.sql = sql) ∧
    ∀ i, config.Invokes i → i.bound.sql = sql →
      ∃ c, ⟨.prepare c s i.form, .succeeded⟩ ∈ earlier := by
  obtain ⟨i, hi, hsql, c, hc⟩ := hr.supplied earlier s sql o later h (hr.not_refused h)
  refine ⟨⟨i, hi, hsql⟩, fun j hj hjsql => ⟨c, ?_⟩⟩
  rwa [hagree j i hj hi hjsql hsql]

end Run

theorem smallConfig_form {i : Invocation} (hi : smallConfig.Invokes i) :
    i.form = .prepared i.bound.sql false := by
  obtain ⟨id, command, p, bounds, hc, hi⟩ := hi
  have hprepared : command.statementKind = .prepared ∧ command.keys = .none := by
    obtain rfl | hc := Registry.found_of_insert hc
    · exact ⟨rfl, rfl⟩
    obtain rfl | hc := Registry.found_of_insert hc
    · exact ⟨rfl, rfl⟩
    obtain rfl | hc := Registry.found_of_insert hc
    · exact ⟨rfl, rfl⟩
    cases hc
  obtain ⟨bound, -, ho⟩ := ok_of_except_bind_ok hi
  cases ho
  rw [Invocation.form, hprepared.1, hprepared.2]
  rfl

def reuseWorld : World := .opened smallDatabase .reuse (.overSource false none) false

/-- The second insert runs on the statement that was created for the first. -/
theorem repeated_insert_formed :
    ∃ first second, Run smallConfig reuseWorld [first, second] second.after ∧
      second.calls = [⟨.execute ⟨0⟩ "INSERT 1", .succeeded⟩] ∧
      ∃ c, ⟨.prepare c ⟨0⟩ (.prepared "INSERT 1" false), .succeeded⟩ ∈ first.calls := by
  have hrun : Run smallConfig reuseWorld _ _ := .turn (.turn .start (insertStep "add"))
    (insertStep "add")
  have hagree : ∀ i j, smallConfig.Invokes i → smallConfig.Invokes j → i.bound.sql = "INSERT 1" →
      j.bound.sql = "INSERT 1" → i.form = j.form := by
    intro i j hi hj hsql hsql'
    rw [smallConfig_form hi, smallConfig_form hj, hsql, hsql']
  have hadd : smallConfig.Invokes
      ⟨smallCommand "add" .insert "INSERT 1", ⟨"INSERT 1", []⟩, .all⟩ :=
    ⟨"add", _, .absent, .all, rfl, rfl⟩
  have hcalls : [reuseWorld.turn smallConfig (insertStep "add"),
      (reuseWorld.turn smallConfig (insertStep "add")).after.turn smallConfig
        (insertStep "add")].flatMap Turn.calls =
      (reuseWorld.turn smallConfig (insertStep "add")).calls ++
        [⟨.execute ⟨0⟩ "INSERT 1", .succeeded⟩] := by decide
  exact ⟨_, _, hrun, by decide, (Run.executions_formed hagree hrun hcalls).2 _ hadd rfl⟩

/-- Two queries with one text, the one executed as it is and the other prepared. -/
def mixedConfig : Configuration :=
  { smallConfig with
    registry := (Registry.empty.insert
        { smallCommand "plain" .select "SELECT 1" with statementKind? := some .statement }).insert
      (smallCommand "prepared" .select "SELECT 1") }

def plainTurn : Turn := reuseWorld.turn mixedConfig (.perform (.selectList "plain" .all) .absent)

def preparedTurn : Turn :=
  plainTurn.after.turn mixedConfig (.perform (.selectList "prepared" .all) .absent)

/-- The query that is to be prepared runs on the statement that was created for the plain one, and
nothing is prepared for it. -/
theorem plain_statement_reused :
    Run mixedConfig reuseWorld [plainTurn, preparedTurn] preparedTurn.after ∧
      ⟨.execute ⟨0⟩ "SELECT 1", .succeeded⟩ ∈ preparedTurn.calls ∧
      ⟨.prepare ⟨0⟩ ⟨0⟩ .plain, .succeeded⟩ ∈ plainTurn.calls ∧
      ∃ i, mixedConfig.Invokes i ∧ i.command.id = "prepared" ∧ i.bound.sql = "SELECT 1" ∧
        ∀ c s o, ⟨.prepare c s i.form, o⟩ ∉ plainTurn.calls ++ preparedTurn.calls := by
  have hcalls : plainTurn.calls ++ preparedTurn.calls = [⟨.connect ⟨0⟩, .succeeded⟩,
      ⟨.readAutoCommit ⟨0⟩, .succeeded⟩, ⟨.setAutoCommit ⟨0⟩ false, .succeeded⟩,
      ⟨.prepare ⟨0⟩ ⟨0⟩ .plain, .succeeded⟩, ⟨.execute ⟨0⟩ "SELECT 1", .succeeded⟩,
      ⟨.nextRow ⟨0⟩, .succeeded⟩, ⟨.execute ⟨0⟩ "SELECT 1", .succeeded⟩,
      ⟨.nextRow ⟨0⟩, .succeeded⟩] := by decide
  have hprepared : mixedConfig.Invokes
      ⟨smallCommand "prepared" .select "SELECT 1", ⟨"SELECT 1", []⟩, .all⟩ :=
    ⟨"prepared", _, .absent, .all, rfl, rfl⟩
  have hform : Invocation.form ⟨smallCommand "prepared" .select "SELECT 1", ⟨"SELECT 1", []⟩,
    .all⟩ = .prepared "SELECT 1" false := rfl
  refine ⟨.turn (.turn .start _) _, by decide, by decide, _, hprepared, rfl, rfl,
    fun c s o hmem => ?_⟩
  rw [hcalls] at hmem
  simp [hform] at hmem

end SqlMapper
