import SqlMapper.Proofs.Session.Balance

namespace SqlMapper

open Fallible

/-- The statement has been created, and nobody has tried to close it. -/
structure Statement.InUse (s : Statement) (calls : List LogEntry) : Prop where
  created : ∃ c form, ⟨.prepare c s form, .succeeded⟩ ∈ calls
  unclosed : ∀ sql o, ⟨.closeStatement s sql, o⟩ ∉ calls

/-- A call on a statement comes after the creation of the statement and before any closing of it.
It is refused only if a fault is planned for calls of its kind. -/
def Orderly (calls : List LogEntry) : Prop :=
  ∀ earlier e later s, calls = earlier ++ e :: later → e.call.on? = some s →
    s.InUse earlier ∧ (e.outcome = .refused → e.call.faultPoint? ≠ none)

/-- The statement was to be closed and is open all the same. -/
def LogEntry.leavesOpen : LogEntry → Bool
  | ⟨.closeStatement _ _, .refused⟩ => true
  | _ => false

theorem Statement.inUse_snoc {s : Statement} {calls : List LogEntry} {e : LogEntry}
    (hcreate : ∀ c form, e ≠ ⟨.prepare c s form, .succeeded⟩)
    (hclose : ∀ sql, e.call ≠ .closeStatement s sql) : s.InUse (calls ++ [e]) ↔ s.InUse calls := by
  have hold : ∀ {x : LogEntry}, x ≠ e → (x ∈ calls ++ [e] ↔ x ∈ calls) := by
    intro x hx
    rw [List.mem_append, List.mem_singleton, or_iff_left hx]
  have hcreated : ∀ c form, (⟨.prepare c s form, .succeeded⟩ : LogEntry) ≠ e :=
    fun c form he => hcreate c form he.symm
  have hclosed : ∀ sql o, (⟨.closeStatement s sql, o⟩ : LogEntry) ≠ e :=
    fun sql o he => hclose sql (congrArg LogEntry.call he.symm)
  constructor
  · rintro ⟨⟨c, form, hmem⟩, hun⟩
    exact ⟨⟨c, form, (hold (hcreated c form)).mp hmem⟩,
      fun sql o hm => hun sql o ((hold (hclosed sql o)).mpr hm)⟩
  · rintro ⟨⟨c, form, hmem⟩, hun⟩
    exact ⟨⟨c, form, (hold (hcreated c form)).mpr hmem⟩,
      fun sql o hm => hun sql o ((hold (hclosed sql o)).mp hm)⟩

theorem Orderly.snoc {calls : List LogEntry} {e : LogEntry} (h : Orderly calls)
    (he : ∀ s, e.call.on? = some s →
      s.InUse calls ∧ (e.outcome = .refused → e.call.faultPoint? ≠ none)) :
    Orderly (calls ++ [e]) := by
  intro earlier e' later s hsplit hon
  obtain ⟨-, rfl, rfl⟩ | ⟨init, -, hcalls⟩ := split_snoc hsplit
  · exact he s hon
  · exact h earlier e' init s hcalls hon

namespace Database

variable {db : Database} {s : Statement}

theorem openStatements_eq (db : Database) :
    db.openStatements = (db.statements.map StatementState.closed).countP (!·) := by
  rw [openStatements, List.countP_map]
  rfl

theorem openStatements_change {f : StatementState → StatementState}
    (hf : ∀ x, (f x).closed = x.closed) : (db.change s f).openStatements = db.openStatements := by
  have hmap : ∀ (l : List StatementState) (i : Nat),
      (l.modify i f).map StatementState.closed = l.map StatementState.closed := by
    intro l i
    apply List.ext_getElem?
    intro j
    rw [List.getElem?_map, List.getElem?_map, List.getElem?_modify]
    rcases l[j]? with _ | x
    · rfl
    · by_cases hj : i = j <;> simp [hj, hf]
  rw [openStatements_eq, openStatements_eq]
  exact congrArg _ (hmap db.statements s.index)

theorem openStatements_adding (sql : String) :
    (db.adding sql).openStatements = db.openStatements + 1 := by
  simp [openStatements, adding, StatementState.created]

theorem openStatements_shut (h : (db.statement s).closed = false) :
    (db.change s .shut).openStatements + 1 = db.openStatements := by
  have hlt := index_lt_of_open h
  have hopen : db.statements[s.index].closed = false := by
    rw [statement, List.getElem?_eq_getElem hlt] at h
    exact h
  have hsplit : db.statements =
      db.statements.take s.index ++ db.statements[s.index] :: db.statements.drop (s.index + 1) := by
    rw [← List.drop_eq_getElem_cons hlt, List.take_append_drop]
  have hbefore : db.openStatements = (db.statements.take s.index).countP (!·.closed) +
      ((db.statements.drop (s.index + 1)).countP (!·.closed) + 1) := by
    conv => lhs; rw [openStatements, hsplit]
    rw [List.countP_append, List.countP_cons_of_pos (by simpa using hopen)]
  have hafter : (db.change s .shut).openStatements = (db.statements.take s.index).countP
      (!·.closed) + (db.statements.drop (s.index + 1)).countP (!·.closed) := by
    rw [openStatements, change, List.modify_eq_take_cons_drop hlt, List.countP_append,
      List.countP_cons_of_neg (by simp [StatementState.shut])]
  omega

end Database

/-- Since `base`, `calls` have been made, and `held` are the statements in use after them. -/
structure Ledger (base : Database) (calls : List LogEntry) (held : List Statement)
    (db : Database) : Prop where
  log : db.log = base.log ++ calls
  orderly : Orderly calls
  made : ∀ c s form, ⟨.prepare c s form, .succeeded⟩ ∈ calls → s.index < db.statements.length
  inUse : ∀ s, s.InUse calls ↔ s ∈ held
  openStatements : db.openStatements =
    base.openStatements + held.length + calls.countP LogEntry.leavesOpen

def Tallied (base : Database) (held : List Statement) (db : Database) : Prop :=
  ∃ calls, Ledger base calls held db

namespace Ledger

variable {α : Type} {base db : Database} {calls : List LogEntry} {held : List Statement}
  {s : Statement}

theorem start (db : Database) : Ledger db [] [] db where
  log := (List.append_nil _).symm
  orderly := fun earlier e later s h => by simp at h
  made := nofun
  inUse := fun s => ⟨fun h => by simpa using h.created, nofun⟩
  openStatements := rfl

theorem snoc {db' : Database} {e : LogEntry} (h : Ledger base calls held db)
    (hlog : db'.log = db.log ++ [e]) (hlength : db'.statements.length = db.statements.length)
    (hopen : db'.openStatements = db.openStatements)
    (hon : ∀ s, e.call.on? = some s → s ∈ held ∧ (e.outcome = .refused → e.call.faultPoint? ≠ none))
    (hclose : ∀ s sql, e.call ≠ .closeStatement s sql)
    (hcreate : ∀ c s form, e ≠ ⟨.prepare c s form, .succeeded⟩) :
    Ledger base (calls ++ [e]) held db' where
  log := by rw [hlog, h.log, List.append_assoc]
  orderly := h.orderly.snoc fun s hs => ⟨(h.inUse s).mpr (hon s hs).1, (hon s hs).2⟩
  made := by
    intro c s form hm
    obtain hm | hm := List.mem_append.mp hm
    · rw [hlength]
      exact h.made c s form hm
    · exact absurd (List.mem_singleton.mp hm).symm (hcreate c s form)
  inUse := fun s => (Statement.inUse_snoc (fun c form => hcreate c s form) (hclose s)).trans
    (h.inUse s)
  openStatements := by
    have hstays : e.leavesOpen = false := by
      unfold LogEntry.leavesOpen
      split
      · exact absurd rfl (hclose _ _)
      · rfl
    rw [hopen, h.openStatements, List.countP_append, List.countP_singleton, hstays]
    rfl

theorem snoc_connection {db' : Database} {e : LogEntry} (h : Ledger base calls held db)
    (hlog : db'.log = db.log ++ [e]) (hsame : db'.statements = db.statements)
    (hon : e.call.on? = none) (hcreate : ∀ c s form, e ≠ ⟨.prepare c s form, .succeeded⟩) :
    Ledger base (calls ++ [e]) held db' := by
  refine h.snoc hlog (by rw [hsame]) ?_ (fun s hs => ?_) (fun s sql hc => ?_) hcreate
  · rw [Database.openStatements, hsame]
    rfl
  · rw [hon] at hs
    cases hs
  · rw [hc] at hon
    cases hon

theorem created (h : Ledger base calls held db) (c : Connection) (form : StatementForm) :
    Ledger base (calls ++ [⟨.prepare c ⟨db.statements.length⟩ form, .succeeded⟩])
      (⟨db.statements.length⟩ :: held)
      ((db.adding form.sql).record (.prepare c ⟨db.statements.length⟩ form) .succeeded) where
  log := by
    change db.log ++ _ = _
    rw [h.log, List.append_assoc]
  orderly := h.orderly.snoc fun s' hs' => by cases hs'
  made := by
    intro c' s' form' hm
    change s'.index < (db.adding form.sql).statements.length
    rw [Database.length_adding]
    obtain hm | hm := List.mem_append.mp hm
    · exact Nat.lt_succ_of_lt (h.made c' s' form' hm)
    · cases List.mem_singleton.mp hm
      exact Nat.lt_succ_self _
  inUse := by
    intro s'
    by_cases hnew : s' = ⟨db.statements.length⟩
    · subst hnew
      refine iff_of_true ⟨⟨c, form, by simp⟩, fun sql o hm => ?_⟩ List.mem_cons_self
      obtain hm | hm := List.mem_append.mp hm
      · -- what was closed before had been created before, with a smaller number
        obtain ⟨earlier, later, hsplit⟩ := List.append_of_mem hm
        obtain ⟨⟨c', form', hmade⟩, -⟩ := (h.orderly earlier _ later _ hsplit rfl).1
        have hmem : ⟨.prepare c' ⟨db.statements.length⟩ form', .succeeded⟩ ∈ calls :=
          hsplit ▸ List.mem_append_left _ hmade
        exact Nat.lt_irrefl _ (h.made _ _ _ hmem)
      · cases List.mem_singleton.mp hm
    · rw [List.mem_cons, or_iff_right hnew, ← h.inUse s']
      refine Statement.inUse_snoc (fun c' form' he => ?_) fun sql he => ?_
      · cases he
        exact hnew rfl
      · cases he
  openStatements := by
    change (db.adding form.sql).openStatements = _
    rw [Database.openStatements_adding, h.openStatements, List.countP_append, List.countP_singleton]
    simp only [List.length_cons, LogEntry.leavesOpen, Bool.false_eq_true, if_false]
    omega

theorem gone {db' : Database} {o : CallOutcome} {sql : String}
    (h : Ledger base calls (s :: held) db) (hs : s ∉ held)
    (hlog : db'.log = db.log ++ [⟨.closeStatement s sql, o⟩])
    (hlength : db'.statements.length = db.statements.length)
    (hopen : db'.openStatements + 1 =
      db.openStatements + if o = .refused then 1 else 0) :
    Ledger base (calls ++ [⟨.closeStatement s sql, o⟩]) held db' where
  log := by rw [hlog, h.log, List.append_assoc]
  orderly := by
    refine h.orderly.snoc fun s' hs' => ?_
    cases hs'
    exact ⟨(h.inUse s).mpr List.mem_cons_self, fun _ => nofun⟩
  made := by
    intro c s' form hm
    obtain hm | hm := List.mem_append.mp hm
    · rw [hlength]
      exact h.made c s' form hm
    · cases List.mem_singleton.mp hm
  inUse := by
    intro s'
    by_cases hsame : s' = s
    · subst hsame
      exact iff_of_false (fun hin => hin.unclosed sql o (by simp)) hs
    · refine (Statement.inUse_snoc (fun c form he => ?_) fun sql' he => ?_).trans ?_
      · cases congrArg LogEntry.call he
      · cases he
        exact hsame rfl
      · rw [h.inUse s', List.mem_cons, or_iff_right hsame]
  openStatements := by
    have hcount := h.openStatements
    rw [List.length_cons] at hcount
    rw [List.countP_append, List.countP_singleton]
    cases o <;> simp [LogEntry.leavesOpen] at hopen ⊢ <;> omega

theorem perform_tallied {call : Database → Call} {refusal : Database → Option Error}
    {act : Database → Database → Except Error α × Database}
    (hon : ∀ db, (call db).on? = none) (hcreate : ∀ db c s form, call db ≠ .prepare c s form)
    (hact : ∀ db, (act db db).2.statements = db.statements ∧ (act db db).2.log = db.log) :
    Maintains (Tallied base held) (.of fun db => Database.perform (call db) (refusal db) (act db) db)
      fun _ => True := by
  rintro db ⟨calls, h⟩
  refine ⟨?_, fun _ _ => trivial⟩
  obtain ⟨hsame, hlog⟩ := hact db
  rw [outcome_of]
  unfold Database.perform
  split
  · refine ⟨_, h.snoc_connection rfl rfl (hon db) fun c s form he => ?_⟩
    cases congrArg LogEntry.outcome he
  · rcases hr : act db db with ⟨e | a, db'⟩ <;> rw [hr] at hsame hlog
    · refine ⟨_, h.snoc_connection (congrArg (· ++ _) hlog) hsame (hon db) fun c s form he => ?_⟩
      cases congrArg LogEntry.outcome he
    · refine ⟨_, h.snoc_connection (congrArg (· ++ _) hlog) hsame (hon db) fun c s form he => ?_⟩
      exact hcreate db c s form (congrArg LogEntry.call he)

theorem connect_tallied : Maintains (Tallied base held) connect fun _ => True :=
  perform_tallied (fun _ => rfl) (fun _ _ _ _ => nofun) fun _ => ⟨rfl, rfl⟩

theorem autoCommit_tallied (c : Connection) :
    Maintains (Tallied base held) c.autoCommit fun _ => True :=
  perform_tallied (fun _ => rfl) (fun _ _ _ _ => nofun) fun _ => ⟨rfl, rfl⟩

theorem setAutoCommit_tallied (c : Connection) (mode : Bool) :
    Maintains (Tallied base held) (c.setAutoCommit mode) fun _ => True :=
  perform_tallied (fun _ => rfl) (fun _ _ _ _ => nofun) fun _ => ⟨rfl, rfl⟩

/-- The ledger is kept by all that is done with statements in hand. -/
theorem custody (base : Database) : Custody fun _ => Tallied base where
  perm := by
    rintro _ held held' db hperm ⟨calls, h⟩
    refine ⟨calls, h.log, h.orderly, h.made, fun s => (h.inUse s).trans hperm.mem_iff, ?_⟩
    rw [h.openStatements, hperm.length_eq]
  used := by
    rintro _ held db s call o f hs hcall ho hf ⟨calls, h⟩
    refine ⟨_, h.snoc (e := ⟨call, o⟩) rfl ?_ (Database.openStatements_change hf) (fun s' hs' => ?_)
      (fun s' sql he => ?_) fun c s' form he => ?_⟩
    · simp [Database.record, Database.change]
    · have hsame : s = s' := Option.some.inj (hcall.on.symm.trans hs')
      exact ⟨hsame ▸ hs, ho⟩
    · have hsame : s = s' := Option.some.inj (hcall.on.symm.trans (congrArg Call.on? he))
      exact hcall.keeps sql (hsame ▸ he)
    · have hon := hcall.on
      rw [show call = .prepare c s' form from congrArg LogEntry.call he] at hon
      cases hon
  created := fun _ form ⟨_, h⟩ => ⟨_, h.created _ form⟩
  uncreated := fun _ _ _ ⟨_, h⟩ => ⟨_, h.snoc_connection rfl rfl rfl nofun⟩
  closed := by
    rintro _ held db s hin sql ⟨calls, h⟩
    refine ⟨_, h.gone (o := .succeeded) hin.not_mem rfl ?_ ?_⟩
    · simp [Database.record, Database.change]
    · exact Database.openStatements_shut (hin.isOpen s List.mem_cons_self)
  unclosed := by
    rintro _ held db s hin sql ⟨calls, h⟩
    exact ⟨_, h.gone (o := .refused) hin.not_mem rfl rfl rfl⟩
  opened := fun _ _ => (Transaction.openConnection_maintains _ connect_tallied autoCommit_tallied
    setAutoCommit_tallied).leads

theorem lasting (base : Database) : Lasting fun _ => Tallied base where
  toCustody := custody base
  decided := by
    rintro _ held db c call - hcall o ⟨calls, h⟩
    exact ⟨_, h.snoc_connection rfl rfl (by cases hcall <;> rfl) (by cases hcall <;> exact nofun)⟩
  released := fun _ _ ⟨_, h⟩ => ⟨_, h.snoc_connection rfl rfl rfl nofun⟩
  rescripted := fun _ _ ⟨calls, h⟩ =>
    ⟨calls, h.log, h.orderly, h.made, h.inUse, h.openStatements⟩

end Ledger

end SqlMapper
