import SqlMapper.Proofs.Session.Attending
import SqlMapper.Proofs.Statements.Given

namespace SqlMapper

open Fallible

/-- A statement that is kept for the runs with a text, or only for those of one command with it. -/
structure Reservation where
  statement : Statement
  command? : Option String
  sql : String

namespace Reservation

/-- What a session of the type keeps a statement for after a run of `i` on it. -/
def of (type : ExecutorType) (s : Statement) (i : Invocation) : Reservation :=
  ⟨s, if type = .batch then some i.command.id else none, i.bound.sql⟩

def Serves (r : Reservation) (j : Invocation) : Prop :=
  (∀ id ∈ r.command?, j.command.id = id) ∧ j.bound.sql = r.sql

end Reservation

def Strategy.reservations : Strategy → List Reservation
  | simple => []
  | reuse m => m.map fun e => ⟨e.2, none, e.1⟩
  | batch queue => queue.map fun q => ⟨q.statement, some q.command.id, q.sql⟩

def Database.Has (db : Database) (s : Statement) (sql : String) : Prop :=
  (db.statement s).closed = true ∨ (db.statement s).sql = sql

/-- A statement that is kept for a text alone is ready to be executed with it. -/
def Reservation.Holds (r : Reservation) (db : Database) : Prop :=
  r.command? = none → db.Has r.statement r.sql

theorem Database.Has.idle {db db' : Database} {s : Statement} {sql : String} (hdb : db.Idles db')
    (h : db.Has s sql) : db'.Has s sql :=
  h.imp (hdb.closed s) fun hs => (hdb.sql s).trans hs

section Reservations

variable {st : Strategy} {r : Reservation} {i j : Invocation}

theorem Reservation.eq_of (hr : r ∈ st.reservations) (hi : r.Serves i) :
    r = of st.executorType r.statement i := by
  cases st with
  | simple => cases hr
  | reuse m =>
    obtain ⟨e, -, rfl⟩ := List.mem_map.mp hr
    simp [of, Strategy.executorType, hi.2]
  | batch queue =>
    obtain ⟨q, -, rfl⟩ := List.mem_map.mp hr
    simp [of, Strategy.executorType, hi.2, hi.1]

theorem Reservation.of_serves_iff {type : ExecutorType} (htype : type ≠ .simple) (s : Statement) :
    (of type s i).Serves j ↔ type.Shares i j := by
  cases type <;> simp [of, Serves, ExecutorType.Shares, htype] at htype ⊢

theorem Reservation.serves_iff (hr : r ∈ st.reservations) (hi : r.Serves i) :
    r.Serves j ↔ st.executorType.Shares i j := by
  have htype : st.executorType ≠ .simple := by
    intro h
    cases st <;> cases h
    cases hr
  rw [eq_of hr hi]
  exact of_serves_iff htype _

theorem Strategy.reservations_ofType (type : ExecutorType) :
    (Strategy.ofType type).reservations = [] := by
  cases type <;> rfl

end Reservations

/-- Part of what happens in a session: the calls made before it, the database at its start, and the
runs that come in it, those that are queued among them. -/
structure Period where
  config : Configuration
  type : ExecutorType
  timeout : Option Nat
  older : List LogEntry
  start : Database
  runs : Invocation → Parameter → Prop
  queues : Invocation → Parameter → Prop
  registered : ∀ i p, runs i p → config.Invokes i

namespace Period

def Shares (P : Period) (i j : Invocation) : Prop :=
  P.config.Invokes j ∧ P.type.Shares i j

/-- An execution is one of a run of the period, and an entry of a batch one that is queued. The
statement has been made ready for it. -/
def Attends (P : Period) (calls : List LogEntry) (e : LogEntry) : Prop :=
  match e.call with
  | .execute s sql => e.outcome ≠ .refused → ∃ i p, P.runs i p ∧ i.bound.sql = sql ∧
      (s.given calls).Stems P.config.settings P.timeout (P.Shares i) ∧
      (s.given calls).Tuned P.config.settings P.timeout (P.Shares i) i ∧
      (s.given calls).Filled (P.Shares i) i p
  | .addBatch s _ => e.outcome ≠ .refused → ∃ i p, P.queues i p ∧
      (s.given calls).Filled (P.Shares i) i p
  | _ => True

def Attended (P : Period) (calls : List LogEntry) : Prop :=
  ∀ earlier e later, calls = earlier ++ e :: later → P.Attends (P.older ++ earlier) e

/-- After `calls` in the period, what is in force on a kept statement comes from runs that it is
kept for. No statement is kept twice. -/
structure Inventory (P : Period) (calls : List LogEntry) (st : Strategy) (db : Database) :
    Prop where
  type : st.executorType = P.type
  log : db.log = P.start.log ++ calls
  attended : P.Attended calls
  made : ∀ r ∈ st.reservations, r.statement.index < db.statements.length
  stems : ∀ r ∈ st.reservations, (r.statement.given (P.older ++ calls)).Stems P.config.settings
    P.timeout fun j => P.config.Invokes j ∧ r.Serves j
  one : ∀ r ∈ st.reservations, ∀ r' ∈ st.reservations, r'.statement = r.statement → r' = r

def Between (P : Period) (st : Strategy) (db : Database) : Prop :=
  ∃ calls, P.Inventory calls st db ∧ ∀ r ∈ st.reservations, r.Holds db

/-- A statement is used for a run of `i`. It may be one that is kept, then it is kept for runs like
this one. -/
structure Uses (P : Period) (i : Invocation) (s : Statement) (calls : List LogEntry)
    (st : Strategy) (db : Database) : Prop where
  inventory : P.Inventory calls st db
  invokes : P.config.Invokes i
  made : s.index < db.statements.length
  stems : (s.given (P.older ++ calls)).Stems P.config.settings P.timeout (P.Shares i)
  own : ∀ r ∈ st.reservations, r.statement = s → r.Serves i
  others : ∀ r ∈ st.reservations, r.statement ≠ s → r.Holds db

/-- An execution of the statement for the invocation is one of the invocation's text. -/
def Texts (i : Invocation) (s : Statement) (db : Database) : Prop :=
  (db.statement s).closed = true ∨ i.text.getD (db.statement s).sql = i.bound.sql

def Taken (P : Period) (i : Invocation) (s : Statement) (st : Strategy) (db : Database) : Prop :=
  ∃ calls, P.Uses i s calls st db ∧ Texts i s db ∧ ∀ r ∈ st.reservations, r.Holds db

def Tuned (P : Period) (i : Invocation) (s : Statement) (st : Strategy) (db : Database) : Prop :=
  ∃ calls, P.Uses i s calls st db ∧ Texts i s db ∧
    (s.given (P.older ++ calls)).Tuned P.config.settings P.timeout (P.Shares i) i

def Ready (P : Period) (i : Invocation) (p : Parameter) (s : Statement) (st : Strategy)
    (db : Database) : Prop :=
  ∃ calls, P.Uses i s calls st db ∧ Texts i s db ∧
    (s.given (P.older ++ calls)).Tuned P.config.settings P.timeout (P.Shares i) i ∧
    (s.given (P.older ++ calls)).Filled (P.Shares i) i p ∧ P.runs i p

variable {P : Period} {calls later : List LogEntry} {e : LogEntry} {st st' : Strategy}
  {db db' : Database} {i : Invocation} {p : Parameter} {s : Statement}

theorem shares_self (h : P.config.Invokes i) : P.Shares i i := ⟨h, .refl _ _⟩

theorem Attended.snoc (h : P.Attended calls) (he : P.Attends (P.older ++ calls) e) :
    P.Attended (calls ++ [e]) := by
  intro earlier e' later hsplit
  obtain ⟨-, rfl, rfl⟩ | ⟨init, -, hcalls⟩ := split_snoc hsplit
  · exact he
  · exact h earlier e' init hcalls

theorem stems_snoc {S : Invocation → Prop} {settings : Settings} {timeout : Option Nat}
    (h : (s.given calls).Stems settings timeout S)
    (he : e.outcome = .succeeded → e.call.receiver? = some s →
      ∃ j, S j ∧ j.Gives settings timeout s e.call) :
    (s.given (calls ++ [e])).Stems settings timeout S := by
  by_cases hown : e.outcome = .succeeded ∧ e.call.receiver? = some s
  · obtain ⟨j, hj, hgives⟩ := he hown.1 hown.2
    rw [Statement.given_snoc_of_own hown.1 hown.2]
    exact h.gives hj hgives
  · rwa [Statement.given_append_of_other fun e' he' ho hs => ?_]
    cases List.mem_singleton.mp he'
    exact hown ⟨ho, hs⟩

namespace Inventory

theorem snoc (h : P.Inventory calls st db) (hlog : db'.log = db.log ++ [e])
    (hlength : db.statements.length ≤ db'.statements.length) (he : P.Attends (P.older ++ calls) e)
    (hgives : ∀ r ∈ st.reservations, e.outcome = .succeeded →
      e.call.receiver? = some r.statement →
        ∃ j, (P.config.Invokes j ∧ r.Serves j) ∧
          j.Gives P.config.settings P.timeout r.statement e.call) :
    P.Inventory (calls ++ [e]) st db' where
  type := h.type
  log := by rw [hlog, h.log, List.append_assoc]
  attended := h.attended.snoc he
  made r hr := Nat.lt_of_lt_of_le (h.made r hr) hlength
  stems r hr := by
    rw [← List.append_assoc]
    exact stems_snoc (h.stems r hr) (hgives r hr)
  one := h.one

theorem silent (h : P.Inventory calls st db) (hlog : db'.log = db.log ++ [e])
    (hlength : db.statements.length ≤ db'.statements.length) (he : P.Attends (P.older ++ calls) e)
    (hsilent : e.outcome = .succeeded → e.call.receiver? = none) :
    P.Inventory (calls ++ [e]) st db' := by
  apply h.snoc hlog hlength he
  intro r _ ho hr
  rw [hsilent ho] at hr
  cases hr

theorem attends_of_idle (he : e.idle = true) : P.Attends calls e := by
  obtain ⟨call, o⟩ := e
  cases call <;> trivial

theorem append (h : P.Inventory calls st db) (hlog : db'.log = db.log ++ later)
    (hlength : db.statements.length ≤ db'.statements.length) (hidle : ∀ e ∈ later, e.idle = true) :
    P.Inventory (calls ++ later) st db' := by
  have hattended : ∀ older, P.Attended older → P.Attended (older ++ later) := by
    clear hlog
    induction later with
    | nil =>
      intro older hold
      rwa [List.append_nil]
    | cons e later ih =>
      intro older hold
      rw [List.append_cons]
      exact ih (fun e' he' => hidle e' (List.mem_cons_of_mem e he')) _
        (hold.snoc (attends_of_idle (hidle e List.mem_cons_self)))
  refine ⟨h.type, ?_, hattended calls h.attended, fun r hr => ?_, fun r hr => ?_, h.one⟩
  · rw [hlog, h.log, List.append_assoc]
  · exact Nat.lt_of_lt_of_le (h.made r hr) hlength
  · rw [← List.append_assoc, Statement.given_append_of_other]
    · exact h.stems r hr
    · intro e he _ hs
      rw [LogEntry.receiver?_of_idle (hidle e he)] at hs
      cases hs

end Inventory

namespace Between

theorem idle (hdb : db.Idles db') (h : P.Between st db) : P.Between st db' := by
  obtain ⟨calls, hinventory, hholds⟩ := h
  obtain ⟨later, hlog, hidle⟩ := hdb.log
  exact ⟨_, hinventory.append hlog hdb.length.ge hidle, fun r hr hnone => (hholds r hr hnone).idle hdb⟩

theorem fewer (h : P.Between st db) (htype : st'.executorType = P.type)
    (hsub : st'.reservations ⊆ st.reservations) : P.Between st' db := by
  obtain ⟨calls, hinventory, hholds⟩ := h
  exact ⟨calls, ⟨htype, hinventory.log, hinventory.attended, fun r hr => hinventory.made r (hsub hr),
    fun r hr => hinventory.stems r (hsub hr), fun r hr r' hr' =>
      hinventory.one r (hsub hr) r' (hsub hr')⟩, fun r hr => hholds r (hsub hr)⟩

theorem emptied (h : P.Between st db) : P.Between (.ofType P.type) db := by
  have htype : (Strategy.ofType P.type).executorType = P.type := by cases P.type <;> rfl
  refine h.fewer htype ?_
  rw [Strategy.reservations_ofType]
  exact List.nil_subset _

theorem dropped {m : NameMap Statement} (h : P.Between (.reuse m) db) (sql : String) :
    P.Between (.reuse (m.erase sql)) db := by
  obtain ⟨_, hinventory, hholds⟩ := h
  exact fewer ⟨_, hinventory, hholds⟩ hinventory.type ((NameMap.erase_sublist sql m).map _).subset

theorem uses {r : Reservation} (h : P.Inventory calls st db) (hi : P.config.Invokes i)
    (hr : r ∈ st.reservations) (hserves : r.Serves i) (hholds : ∀ r ∈ st.reservations, r.Holds db) :
    P.Uses i r.statement calls st db where
  inventory := h
  invokes := hi
  made := h.made r hr
  stems := by
    refine (h.stems r hr).mono fun j hj => ⟨hj.1, ?_⟩
    rw [← h.type]
    exact (Reservation.serves_iff hr hserves).mp hj.2
  own r' hr' hsame := by rwa [h.one r hr r' hr' hsame]
  others r' hr' _ := hholds r' hr'

end Between

namespace Uses

theorem gives {call : Call} (h : P.Uses i s calls st db)
    (hcall : i.Gives P.config.settings P.timeout s call) (o : CallOutcome) :
    P.Uses i s (calls ++ [⟨call, o⟩]) st (db.record call o) := by
  have hreceiver : call.receiver? = some s := by cases hcall <;> rfl
  have hattends : ∀ older, P.Attends older ⟨call, o⟩ := by
    intro older
    cases hcall <;> trivial
  refine ⟨h.inventory.snoc rfl (Nat.le_refl _) (hattends _) fun r hr _ hown => ?_, h.invokes, h.made,
    ?_, h.own, h.others⟩
  · have hs : r.statement = s := Option.some.inj (hown.symm.trans hreceiver)
    rw [hs]
    exact ⟨i, ⟨h.invokes, h.own r hr hs⟩, hcall⟩
  · rw [← List.append_assoc]
    exact stems_snoc h.stems fun _ _ => ⟨i, shares_self h.invokes, hcall⟩

theorem silent {call : Call} {o : CallOutcome} (h : P.Uses i s calls st db)
    (hlog : db'.log = db.log ++ [⟨call, o⟩])
    (hlength : db.statements.length ≤ db'.statements.length)
    (he : P.Attends (P.older ++ calls) ⟨call, o⟩) (hsilent : call.receiver? = none)
    (hothers : ∀ t, t ≠ s → db'.statement t = db.statement t) :
    P.Uses i s (calls ++ [⟨call, o⟩]) st db' := by
  refine ⟨h.inventory.silent hlog hlength he fun _ => hsilent, h.invokes,
    Nat.lt_of_lt_of_le h.made hlength, ?_, h.own, fun r hr hne hnone => ?_⟩
  · rw [← List.append_assoc, Statement.given_append_of_other]
    · exact h.stems
    · intro e he _ hs
      cases List.mem_singleton.mp he
      rw [hsilent] at hs
      cases hs
  · rw [Database.Has, hothers _ hne]
    exact h.others r hr hne hnone

theorem reserve (h : P.Uses i s calls st db) (htype : st'.executorType = P.type)
    (hne : P.type ≠ .simple)
    (hst : ∀ r ∈ st'.reservations, r = .of P.type s i ∨ r ∈ st.reservations) :
    P.Inventory calls st' db := by
  have hown : ∀ r ∈ st'.reservations, r.statement = s → r = .of P.type s i := by
    intro r hr hs
    obtain rfl | hr := hst r hr
    · rfl
    · rw [Reservation.eq_of hr (h.own r hr hs), h.inventory.type, hs]
  refine ⟨htype, h.inventory.log, h.inventory.attended, fun r hr => ?_, fun r hr => ?_,
    fun r hr r' hr' hsame => ?_⟩
  · obtain rfl | hr := hst r hr
    · exact h.made
    · exact h.inventory.made r hr
  · obtain rfl | hr := hst r hr
    · exact h.stems.mono fun j hj => ⟨hj.1, (Reservation.of_serves_iff hne s).mpr hj.2⟩
    · exact h.inventory.stems r hr
  · obtain heq | hold := hst r hr
    · rw [heq] at hsame ⊢
      exact hown r' hr' hsame
    · obtain heq' | hold' := hst r' hr'
      · rw [heq'] at hsame ⊢
        exact (hown r hr hsame.symm).symm
      · exact h.inventory.one r hold r' hold' hsame

theorem between (h : P.Uses i s calls st db) (htext : db.Has s i.bound.sql) : P.Between st db := by
  refine ⟨calls, h.inventory, fun r hr => ?_⟩
  by_cases hs : r.statement = s
  · intro _
    rwa [hs, ← (h.own r hr hs).2]
  · exact h.others r hr hs

end Uses

theorem holds_of_batch {queue : List QueuedStatement} {r : Reservation}
    (hr : r ∈ (Strategy.batch queue).reservations) : r.Holds db := by
  obtain ⟨q, -, rfl⟩ := List.mem_map.mp hr
  nofun

namespace Taken

theorem of_kept {m : NameMap Statement} (h : P.Between (.reuse m) db) (hi : P.config.Invokes i)
    (hs : m.get? i.bound.sql = some s) : P.Taken i s (.reuse m) db := by
  obtain ⟨calls, hinventory, hholds⟩ := h
  have hr : ⟨s, none, i.bound.sql⟩ ∈ (Strategy.reuse m).reservations :=
    List.mem_map.mpr ⟨_, NameMap.mem_of_get? hs, rfl⟩
  refine ⟨calls, Between.uses hinventory hi hr ⟨nofun, rfl⟩ hholds, ?_, hholds⟩
  refine (hholds _ hr rfl).imp_right fun hsql => ?_
  rw [hsql]
  unfold Invocation.text
  split <;> rfl

theorem of_created (h : P.Between st db) (hi : P.config.Invokes i) (c : Connection) :
    P.Taken i ⟨db.statements.length⟩ st
      ((db.adding i.form.sql).record (.prepare c ⟨db.statements.length⟩ i.form) .succeeded) := by
  obtain ⟨calls, hinventory, hholds⟩ := h
  have hnew : ∀ r ∈ st.reservations, r.statement ≠ ⟨db.statements.length⟩ := by
    intro r hr hs
    have hlt := hinventory.made r hr
    rw [hs] at hlt
    exact Nat.lt_irrefl _ hlt
  have hstay : ∀ r ∈ st.reservations, r.Holds (db.adding i.form.sql) := by
    intro r hr hnone
    rw [Database.Has, Database.statement_adding (hinventory.made r hr)]
    exact hholds r hr hnone
  refine ⟨_, ⟨hinventory.snoc rfl (by simp [Database.record]) trivial fun r hr _ hs => ?_, hi,
    by simp [Database.record], ?_, fun r hr hs => absurd hs (hnew r hr), fun r hr _ => hstay r hr⟩,
    .inr ?_, hstay⟩
  · exact absurd (Option.some.inj hs).symm (hnew r hr)
  · rw [← List.append_assoc, Statement.given_snoc_of_own rfl rfl]
    exact Given.Stems.created (shares_self hi)
  · exact Invocation.text_of_created ⟨by simp [Database.record], db.statement_adding_new _⟩

theorem between (h : P.Taken i s st db) : P.Between st db := by
  obtain ⟨calls, huses, -, hholds⟩ := h
  exact ⟨calls, huses.inventory, hholds⟩

theorem settings_leads :
    Leads (P.Taken i s st) (i.applySettings P.config.settings P.timeout s)
      (fun _ => P.Tuned i s st) (P.Taken i s st) := by
  have hkeeps : Maintains (P.Taken i s st) (i.applySettings P.config.settings P.timeout s)
      fun _ => True := by
    apply Invocation.applySettings_gives
    rintro db call o hcall ⟨calls, huses, htexts, hholds⟩
    exact ⟨_, huses.gives hcall o, htexts, hholds⟩
  rintro db ⟨calls, huses, htexts, hholds⟩
  refine ⟨fun _ db' hx => ?_, fun e db' hx => kept hx hkeeps ⟨calls, huses, htexts, hholds⟩⟩
  obtain ⟨calls', huses', htexts', -⟩ := kept hx hkeeps ⟨calls, huses, htexts, hholds⟩
  have hcalls : calls' = calls ++ i.settingCalls P.config.settings P.timeout s := by
    have hlog := Invocation.applySettings_log hx
    rw [huses.inventory.log, huses'.inventory.log, List.append_assoc] at hlog
    exact List.append_cancel_left hlog
  refine ⟨calls', huses', htexts', ?_⟩
  rw [hcalls, ← List.append_assoc]
  exact Invocation.tuned_of_settings huses.stems

end Taken

theorem tuned_snoc {S : Invocation → Prop} {settings : Settings} {timeout : Option Nat}
    {call : Call} (h : (s.given calls).Tuned settings timeout S i)
    (hcall : i.Gives settings timeout s call) (o : CallOutcome) :
    (s.given (calls ++ [⟨call, o⟩])).Tuned settings timeout S i := by
  have hreceiver : call.receiver? = some s := by cases hcall <;> rfl
  by_cases ho : o = .succeeded
  · rw [Statement.given_snoc_of_own ho hreceiver]
    exact h.gives hcall
  · rwa [Statement.given_append_of_other fun e he ho' _ => ?_]
    cases List.mem_singleton.mp he
    exact ho ho'

theorem Uses.parameterize {r : Except Error Unit} (h : P.Uses i s calls st db)
    (hx : (i.parameterize p s).outcome db = (r, db')) :
    ∃ calls', P.Uses i s calls' st db' ∧ db'.statements = db.statements ∧
      ((s.given (P.older ++ calls)).Tuned P.config.settings P.timeout (P.Shares i) i →
        (s.given (P.older ++ calls')).Tuned P.config.settings P.timeout (P.Shares i) i) ∧
      (r = .ok () → (s.given (P.older ++ calls')).Filled (P.Shares i) i p) := by
  have hkeeps : Maintains (fun d => ∃ calls', P.Uses i s calls' st d ∧
      d.statements = db.statements ∧
      ((s.given (P.older ++ calls)).Tuned P.config.settings P.timeout (P.Shares i) i →
        (s.given (P.older ++ calls')).Tuned P.config.settings P.timeout (P.Shares i) i))
      (i.parameterize p s) fun _ => True := by
    apply Invocation.parameterize_gives
    rintro d call o hcall ⟨calls', huses, hsame, htuned⟩
    refine ⟨_, huses.gives hcall o, hsame, fun ht => ?_⟩
    rw [← List.append_assoc]
    exact tuned_snoc (htuned ht) hcall o
  obtain ⟨calls', huses, hsame, htuned⟩ := kept hx hkeeps ⟨calls, h, rfl, fun ht => ht⟩
  refine ⟨calls', huses, hsame, htuned, fun hr => ?_⟩
  subst hr
  obtain ⟨bindings, hbindings, hlog⟩ := Invocation.parameterize_log hx
  have hcalls : calls' = calls ++ bindings := by
    rw [huses.inventory.log, h.inventory.log, List.append_assoc] at hlog
    exact List.append_cancel_left hlog
  have hstems := huses.stems
  rw [hcalls, ← List.append_assoc] at hstems ⊢
  exact hbindings.filled hstems

theorem Texts.same (hsame : db'.statements = db.statements) (h : Texts i s db) :
    Texts i s db' := by
  unfold Texts Database.statement at h ⊢
  rwa [hsame]

theorem Tuned.given (hrun : P.runs i p) :
    Leads (P.Tuned i s st) (i.parameterize p s) (fun _ => P.Ready i p s st) (P.Between st) := by
  rintro db ⟨calls, huses, htexts, htuned⟩
  refine ⟨fun _ db' hx => ?_, fun e db' hx => ?_⟩ <;>
    obtain ⟨calls', huses', hsame, htuned', hfilled⟩ := huses.parameterize hx
  · exact ⟨calls', huses', htexts.same hsame, htuned' htuned, hfilled rfl, hrun⟩
  · cases htext : i.text with
    | some text =>
      rw [Invocation.parameterize_of_text htext] at hx
      cases hx
    | none =>
      have hsql := htexts.same hsame
      rw [Texts, htext] at hsql
      exact huses'.between hsql

theorem Ready.executed :
    Leads (P.Ready i p s st) (i.execute s) (fun _ => P.Between st) (P.Between st) := by
  have hopen : Leads (fun db => P.Ready i p s st db ∧ (db.statement s).closed = false)
      (s.execute i.text) (fun _ => P.Between st) (P.Between st) := by
    have htext : ∀ db, P.Ready i p s st db → (db.statement s).closed = false →
        i.text.getD (db.statement s).sql = i.bound.sql := by
      rintro db ⟨calls, -, htexts, -⟩ hc
      exact htexts.resolve_left (by simp [hc])
    have hdone : ∀ (db : Database) (f : StatementState → StatementState) (o : CallOutcome),
        (∀ t, (f t).sql = i.bound.sql) → P.Ready i p s st db →
          P.Between st ((db.change s f).record (.execute s i.bound.sql) o) := by
      rintro db f o hf ⟨calls, huses, -, htuned, hfilled, hrun⟩
      have hnext : P.Uses i s (calls ++ [⟨.execute s i.bound.sql, o⟩]) st
          ((db.change s f).record (.execute s i.bound.sql) o) := huses.silent rfl
        (by simp [Database.record]) (fun _ => ⟨i, p, hrun, rfl, huses.stems, htuned, hfilled⟩) rfl
        fun t ht => Database.statement_change_of_ne ht f
      refine hnext.between (.inr ?_)
      change ((db.change s f).statement s).sql = _
      rw [Database.statement_change_self huses.made, hf]
    refine Leads.perform (fun db h hrefusal => ?_) (fun db e db' h hr => ?_)
      fun db a db' h hr => ?_
    · exact absurd (Database.closedError_of_open h.2) hrefusal
    · rw [htext db h.1 h.2] at hr ⊢
      dsimp only at hr
      split at hr <;> cases hr
      exact hdone db _ _ (fun _ => rfl) h.1
    · rw [htext db h.1 h.2] at hr ⊢
      dsimp only at hr
      split at hr <;> cases hr
      exact hdone db _ _ (fun _ => rfl) h.1
  have hrun : Leads (P.Ready i p s st) (s.execute i.text) (fun _ => P.Between st)
      (P.Between st) := by
    intro db h
    cases hc : (db.statement s).closed with
    | false => exact hopen db ⟨h, hc⟩
    | true =>
      have hrefused : (s.execute i.text).outcome db = (.error (.statement "statement is closed"),
          db.record (.execute s (i.text.getD (db.statement s).sql)) .refused) := by
        rw [Statement.execute, outcome_of, Database.closedError, if_pos hc]
        rfl
      obtain ⟨calls, huses, -⟩ := h
      have hnext : P.Uses i s
          (calls ++ [⟨.execute s (i.text.getD (db.statement s).sql), .refused⟩]) st
          (db.record (.execute s (i.text.getD (db.statement s).sql)) .refused) :=
        huses.silent rfl (Nat.le_refl _) (fun ho => absurd rfl ho) rfl fun _ _ => rfl
      rw [hrefused]
      refine ⟨fun b db' hb => ?_, fun e db' he => ?_⟩
      · cases hb
      · cases he
        exact hnext.between (.inl hc)
  exact hrun.discard

section Queueing

variable {queue : List QueuedStatement}

theorem Uses.between_batch (h : P.Uses i s calls (.batch queue) db) :
    P.Between (.batch queue) db :=
  ⟨calls, h.inventory, fun _ hr => holds_of_batch hr⟩

theorem addBatch_leads (hqueue : P.queues i p) :
    Leads (fun db => ∃ calls, P.Uses i s calls (.batch queue) db ∧
        (s.given (P.older ++ calls)).Filled (P.Shares i) i p)
      (i.addBatch s) (fun _ db => ∃ calls, P.Uses i s calls (.batch queue) db)
      (P.Between (.batch queue)) := by
  unfold Invocation.addBatch Statement.addBatch
  refine Leads.perform ?_ ?_ ?_
  · rintro db ⟨calls, huses, -⟩ -
    have hnext : P.Uses i s
        (calls ++ [⟨.addBatch s (i.text.getD (db.statement s).sql), .refused⟩]) (.batch queue)
        (db.record (.addBatch s (i.text.getD (db.statement s).sql)) .refused) :=
      huses.silent rfl (Nat.le_refl _) (fun ho => absurd rfl ho) rfl fun _ _ => rfl
    exact hnext.between_batch
  · rintro db e db' - hr
    cases hr
  · rintro db a db' ⟨calls, huses, hfilled⟩ hr
    cases hr
    exact ⟨_, huses.silent rfl (by simp [Database.record])
      (fun _ => ⟨i, p, hqueue, hfilled⟩) rfl fun t ht => Database.statement_change_of_ne ht _⟩

end Queueing

/-- What is kept, and what is in force on it, in a period. -/
theorem attending (P : Period) :
    Attending P.config P.type P.timeout P.runs P.queues P.Between P.Tuned P.Ready where
  idle hdb h := h.idle hdb
  created {st i p} _ hrun c := by
    have hi := P.registered i p hrun
    have hcreate : Leads (P.Between st) (c.prepare i.form) (fun s => P.Taken i s st)
        (P.Between st) := by
      refine Leads.perform ?_ ?_ ?_
      · rintro db ⟨calls, hinventory, hholds⟩ -
        exact ⟨_, hinventory.silent rfl (Nat.le_refl _) trivial nofun, hholds⟩
      · rintro db e db' - hr
        cases hr
      · rintro db s db' h hr
        cases hr
        exact .of_created h hi c
    refine hcreate.bind fun s => ?_
    have hclose : Leads (P.Taken i s st) s.closeQuietly (fun _ => P.Between st) (P.Between st) :=
      (Maintains.of_idles (fun _ => s.closeQuietly_idles) fun hdb h =>
        Between.idle hdb h).leads.weaken_pre fun _ h => h.between
    exact (Taken.settings_leads.orUndo hclose).bind fun _ => .pure fun _ h => h
  again _ hrun hs := Taken.settings_leads.weaken
    (fun _ h => .of_kept h (P.registered _ _ hrun) hs) (fun _ _ h => h) fun _ h => h.between
  kept := by
    rintro m i s db ⟨calls, huses, htexts, htuned⟩
    have htype : P.type = .reuse := huses.inventory.type.symm
    have hsub : ∀ r ∈ (Strategy.reuse (m.insert i.bound.sql s)).reservations,
        r = .of P.type s i ∨ r ∈ (Strategy.reuse m).reservations := by
      intro r hr
      obtain ⟨e, he, rfl⟩ := List.mem_map.mp hr
      obtain rfl | he := NameMap.mem_insert he
      · exact .inl (by simp [Reservation.of, htype])
      · exact .inr (List.mem_map_of_mem he)
    refine ⟨calls, ⟨huses.reserve htype.symm (by simp [htype]) hsub, huses.invokes, huses.made,
      huses.stems, fun r hr hs => ?_, fun r hr hne => ?_⟩, htexts, htuned⟩
    · obtain rfl | hr := hsub r hr
      · exact (Reservation.of_serves_iff (by simp [htype]) s).mpr (.refl _ _)
      · exact huses.own r hr hs
    · obtain rfl | hr := hsub r hr
      · exact absurd rfl hne
      · exact huses.others r hr hne
  dropped h := h.dropped _
  given hrun := Tuned.given hrun
  executed := Ready.executed
  joined {init last i p} htype hrun hqueue hj := by
    have hr : ⟨last.statement, some last.command.id, last.sql⟩ ∈
        (Strategy.batch (init ++ [last])).reservations := by
      simp [Strategy.reservations]
    have hsame : (Strategy.batch (init ++ [Batch.addParameter last p])).reservations =
        (Strategy.batch (init ++ [last])).reservations := by
      simp [Strategy.reservations, Batch.addParameter]
    have hparameterize : Leads (P.Between (.batch (init ++ [last])))
        (i.parameterize p last.statement)
        (fun _ db => ∃ calls, P.Uses i last.statement calls (.batch (init ++ [last])) db ∧
          (last.statement.given (P.older ++ calls)).Filled (P.Shares i) i p)
        (P.Between (.batch (init ++ [last]))) := by
      rintro db ⟨calls, hinventory, hholds⟩
      have huses := Between.uses hinventory (P.registered i p hrun) hr
        ⟨by simpa using hj.1.symm, hj.2.symm⟩ hholds
      refine ⟨fun _ db' hx => ?_, fun e db' hx => ?_⟩ <;>
        obtain ⟨calls', huses', -, -, hfilled⟩ := huses.parameterize hx
      · exact ⟨calls', huses', hfilled rfl⟩
      · exact huses'.between_batch
    refine hparameterize.bind fun _ => (addBatch_leads hqueue).weaken (fun _ h => h) ?_ fun _ h => h
    rintro _ db ⟨calls, huses⟩
    refine ⟨calls, ?_, fun _ hr => holds_of_batch hr⟩
    exact huses.reserve htype.symm (by simp [htype]) fun r hr => .inr (hsame ▸ hr)
  queued {queue i p s} htype hqueue := by
    refine (addBatch_leads hqueue).weaken ?_ ?_ fun _ h => h
    · rintro db ⟨calls, huses, -, -, hfilled, -⟩
      exact ⟨calls, huses, hfilled⟩
    · rintro _ db ⟨calls, huses⟩
      refine ⟨calls, ?_, fun _ hr => holds_of_batch hr⟩
      refine huses.reserve htype.symm (by simp [htype]) fun r hr => ?_
      obtain ⟨q, hq, rfl⟩ := List.mem_map.mp hr
      obtain hq | hq := List.mem_append.mp hq
      · exact .inr (List.mem_map_of_mem hq)
      · cases List.mem_singleton.mp hq
        exact .inl (by simp [Reservation.of, htype])
  sent {queue s} htype := by
    have hdone : ∀ (db db' : Database) (call : Call) (o : CallOutcome),
        db'.log = db.log ++ [⟨call, o⟩] → db.statements.length ≤ db'.statements.length →
          (∀ older, P.Attends older ⟨call, o⟩) → call.receiver? = none →
            P.Between (.batch queue) db → P.Between (.batch queue) db' := by
      rintro db db' call o hlog hlength hattends hsilent ⟨calls, hinventory, -⟩
      exact ⟨_, hinventory.silent hlog hlength (hattends _) fun _ => hsilent,
        fun _ hr => holds_of_batch hr⟩
    refine Leads.maintains (Leads.perform ?_ ?_ ?_)
    · intro db h _
      exact hdone db _ _ _ rfl (Nat.le_refl _) (fun _ => trivial) rfl h
    · intro db e db' h hr
      dsimp only at hr
      split at hr <;> cases hr
      exact hdone db _ _ _ rfl (by simp [Database.record]) (fun _ => trivial) rfl h
    · intro db a db' h hr
      dsimp only at hr
      split at hr <;> cases hr
      exact hdone db _ _ _ rfl (by simp [Database.record]) (fun _ => trivial) rfl h
  emptied h := h.emptied

theorem Between.attended (h : P.Between st db) (hlog : db.log = P.start.log ++ calls) :
    P.Attended calls := by
  obtain ⟨calls', hinventory, -⟩ := h
  have hcalls : calls = calls' := List.append_cancel_left (hlog.symm.trans hinventory.log)
  rw [hcalls]
  exact hinventory.attended

theorem Between.next {P' : Period} (hconfig : P'.config = P.config) (htype : P'.type = P.type)
    (htimeout : P'.timeout = P.timeout) (holder : P'.older = P.older ++ calls)
    (hstart : P'.start = db) (hlog : db.log = P.start.log ++ calls) (h : P.Between st db) :
    P'.Between st db := by
  obtain ⟨calls', hinventory, hholds⟩ := h
  have hcalls : calls = calls' := List.append_cancel_left (hlog.symm.trans hinventory.log)
  refine ⟨[], ⟨hinventory.type.trans htype.symm, by simp [hstart], fun _ _ _ hsplit => by
    simp at hsplit, hinventory.made, fun r hr => ?_, hinventory.one⟩, hholds⟩
  rw [List.append_nil, holder, hcalls, hconfig, htimeout]
  exact hinventory.stems r hr

end Period

namespace Turn

def Invokes (config : Configuration) (t : Turn) (i : Invocation) (p : Parameter) : Prop :=
  ∃ op q, t.step = .perform op q ∧ Session.Invokes config (t.before.scope q) op i p

def period (config : Configuration) (type : ExecutorType) (timeout : Option Nat)
    (older : List LogEntry) (t : Turn) : Period where
  config := config
  type := type
  timeout := timeout
  older := older
  start := t.before.database
  runs := t.Invokes config
  queues i p := t.submission? config = some ⟨i, p⟩
  registered := by
    rintro i p ⟨op, q, -, h⟩
    exact h.invokes

end Turn

section Runs

open Scope

variable {config : Configuration} {type : ExecutorType} {tr : Transaction} {autoCommit : Bool}
  {db : Database} {past older newer : List Turn} {t : Turn} {w : World} {calls : List LogEntry}

variable (w) in
theorem World.calls_log (step : Step) :
    (w.turn config step).after.database.log =
      (w.turn config step).before.database.log ++ (w.turn config step).calls := by
  rw [turn_before, turn_log]

theorem World.turn_between {step : Step}
    (h : (w.scope .absent).Rests type tr.timeout
      ((w.turn config step).period config type tr.timeout calls).Between) :
    ((w.turn config step).after.scope .absent).Rests type tr.timeout
      ((w.turn config step).period config type tr.timeout calls).Between := by
  refine turn_rests ((w.turn config step).period config type tr.timeout calls).attending ?_ ?_ h
  · intro op p i q hstep hi
    refine ⟨op, p, (turn_step step).trans hstep, ?_⟩
    rwa [turn_before]
  · exact fun x hx => hx

/-- Whatever the next step is, it finds what is kept in order. -/
theorem Run.between (hr : Run config (.opened db type tr autoCommit) past w) (step : Step) :
    (w.scope .absent).Rests type tr.timeout ((w.turn config step).period config type tr.timeout
      (past.flatMap Turn.calls)).Between := by
  induction hr generalizing step with
  | start =>
    have htype : (Strategy.ofType type).executorType = type := by cases type <;> rfl
    refine ⟨htype, rfl, [], ⟨htype, ?_, fun _ _ _ h => by simp at h, ?_, ?_, ?_⟩, ?_⟩
    · simp [Turn.period, World.scope, World.opened]
    all_goals
      change ∀ r ∈ (Strategy.ofType type).reservations, _
      rw [Strategy.reservations_ofType]
      nofun
  | @turn past w _ last ih =>
    have hafter := World.turn_between (ih last)
    refine ⟨hafter.type, hafter.timeout, Period.Between.next
      (P := (w.turn config last).period config type tr.timeout (past.flatMap Turn.calls))
      rfl rfl rfl ?_ ?_ (w.calls_log last) hafter.kept⟩
    · simp [Turn.period]
    · exact congrArg World.database (World.turn_before step)

theorem Run.attended (hr : Run config (.opened db type tr autoCommit) past w)
    (h : past = older ++ t :: newer) :
    (t.period config type tr.timeout (older.flatMap Turn.calls)).Attended t.calls := by
  obtain ⟨w', step, hr', rfl⟩ := hr.split h
  exact (World.turn_between (hr'.between step)).kept.attended (w'.calls_log step)

end Runs

end SqlMapper
