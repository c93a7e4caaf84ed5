import SqlMapper.Proofs.Database.Apart
import SqlMapper.Proofs.Leads
import SqlMapper.Transaction

namespace SqlMapper

open Fallible

namespace Call

/-- The statement a call is made on. Creating a statement is no call on it. -/
def on? : Call → Option Statement
  | connect _ | readAutoCommit _ | setAutoCommit _ _ | commit _ | rollback _ | closeConnection _
  | prepare _ _ _ => none
  | setTimeout s _ | setFetchSize s _ | bind s _ _ | registerOut s _ | execute s _ | nextRow s
  | generatedKeys s | outParameter s _ | addBatch s _ | executeBatch s _ _ | clearParameters s
  | closeStatement s _ => some s

def faultPoint? : Call → Option FaultPoint
  | connect _ => some .connect
  | readAutoCommit _ => some .readAutoCommit
  | setAutoCommit _ _ => some .setAutoCommit
  | commit _ => some .commit
  | rollback _ => some .rollback
  | closeConnection _ => some .closeConnection
  | setTimeout _ _ => some .setTimeout
  | setFetchSize _ _ => some .setFetchSize
  | bind _ _ _ => some .bind
  | registerOut _ _ => some .registerOut
  | generatedKeys _ => some .generatedKeys
  | addBatch _ _ => some .addBatch
  | closeStatement _ _ => some .closeStatement
  | prepare _ _ _ | execute _ _ | nextRow _ | outParameter _ _ | executeBatch _ _ _
  | clearParameters _ => none

/-- The call works with a statement, which stays as open as it was. -/
structure Uses (call : Call) (s : Statement) : Prop where
  on : call.on? = some s
  keeps : ∀ sql, call ≠ .closeStatement s sql

end Call

def StatementState.shut (t : StatementState) : StatementState := { t with closed := true }

namespace Database

variable {α : Type} {db : Database} {s t : Statement} {held : List Statement}

def adding (db : Database) (sql : String) : Database :=
  { db with statements := db.statements ++ [.created sql] }

theorem statement_adding {sql : String} (h : t.index < db.statements.length) :
    (db.adding sql).statement t = db.statement t := by
  simp only [statement, adding, List.getElem?_append_left h]

theorem statement_adding_new (db : Database) (sql : String) :
    (db.adding sql).statement ⟨db.statements.length⟩ = .created sql := by
  simp [statement, adding]

@[simp] theorem length_adding (db : Database) (sql : String) :
    (db.adding sql).statements.length = db.statements.length + 1 := by
  simp [adding]

@[simp] theorem change_id (db : Database) (s : Statement) : db.change s id = db := by
  simp [change]

theorem closed_change {f : StatementState → StatementState} (h : ∀ x, (f x).closed = x.closed) :
    ((db.change s f).statement t).closed = (db.statement t).closed := by
  unfold statement change
  rw [List.getElem?_modify]
  rcases db.statements[t.index]? with _ | x
  · rfl
  · by_cases he : s.index = t.index <;> simp [he, h]

/-- Statements that are open, no two of them the same. -/
structure InHand (held : List Statement) (db : Database) : Prop where
  nodup : held.Nodup
  isOpen : ∀ s ∈ held, (db.statement s).closed = false

theorem index_lt_of_open (h : (db.statement s).closed = false) :
    s.index < db.statements.length := by
  refine Decidable.byContradiction fun hge => ?_
  rw [statement, List.getElem?_eq_none (Nat.le_of_not_lt hge)] at h
  cases h

namespace InHand

theorem perm {held' : List Statement} (h : held.Perm held') (hh : InHand held db) :
    InHand held' db :=
  ⟨h.nodup_iff.mp hh.nodup, fun s hs => hh.isOpen s (h.mem_iff.mpr hs)⟩

theorem record (h : InHand held db) (call : Call) (o : CallOutcome) :
    InHand held (db.record call o) := ⟨h.nodup, h.isOpen⟩

theorem change {f : StatementState → StatementState} (hf : ∀ x, (f x).closed = x.closed)
    (h : InHand held db) (s : Statement) : InHand held (db.change s f) :=
  ⟨h.nodup, fun t ht => (closed_change hf).trans (h.isOpen t ht)⟩

theorem adding (h : InHand held db) (sql : String) :
    InHand (⟨db.statements.length⟩ :: held) (db.adding sql) := by
  refine ⟨List.nodup_cons.mpr ⟨fun hmem => ?_, h.nodup⟩, fun t ht => ?_⟩
  · exact Nat.lt_irrefl _ (index_lt_of_open (h.isOpen _ hmem))
  · obtain rfl | ht := List.mem_cons.mp ht
    · simp [statement, Database.adding, StatementState.created]
    · rw [statement_adding (index_lt_of_open (h.isOpen t ht))]
      exact h.isOpen t ht

theorem tail (h : InHand (s :: held) db) : InHand held db :=
  ⟨h.nodup.of_cons, fun t ht => h.isOpen t (List.mem_cons_of_mem s ht)⟩

theorem left {others : List Statement} (h : InHand (held ++ others) db) : InHand held db :=
  ⟨(List.nodup_append.mp h.nodup).1, fun t ht => h.isOpen t (List.mem_append_left _ ht)⟩

theorem not_mem (h : InHand (s :: held) db) : s ∉ held := (List.nodup_cons.mp h.nodup).1

theorem shut (h : InHand (s :: held) db) : InHand held (db.change s .shut) := by
  refine ⟨h.tail.nodup, fun t ht => ?_⟩
  have hne : t ≠ s := fun he => h.not_mem (he ▸ ht)
  rw [statement_change_of_ne hne]
  exact h.tail.isOpen t ht

end InHand

end Database

/-- What a call leads to, if it is refused, fails, or goes well. -/
theorem Fallible.Leads.perform {α : Type} {P E : Database → Prop} {Q : α → Database → Prop}
    {call : Database → Call} {refusal : Database → Option Error}
    {act : Database → Database → Except Error α × Database}
    (hrefused : ∀ db, P db → refusal db ≠ none → E (db.record (call db) .refused))
    (hfailed : ∀ db e db', P db → act db db = (.error e, db') → E (db'.record (call db) .failed))
    (hok : ∀ db a db', P db → act db db = (.ok a, db') → Q a (db'.record (call db) .succeeded)) :
    Leads P (.of fun db => Database.perform (call db) (refusal db) (act db) db) Q E := by
  refine .of_outcome fun db h => ?_
  rw [outcome_of]
  unfold Database.perform
  split
  · next hr => exact ⟨_, _, rfl, nofun, fun _ _ => hrefused db h (by rw [hr]; nofun)⟩
  · rcases hr : act db db with ⟨e | a, db'⟩
    · exact ⟨_, _, rfl, nofun, fun _ _ => hfailed db e db' h hr⟩
    · refine ⟨_, _, rfl, fun b hb => ?_, nofun⟩
      cases hb
      exact hok db a db' h hr

/-- What `H` says of a transaction, of statements in hand and of a database goes on to hold whatever
is done with these statements, and when the transaction opens its connection. -/
structure Custody (H : Transaction → List Statement → Database → Prop) : Prop where
  perm {tr : Transaction} {held held' : List Statement} {db : Database} (hperm : held.Perm held')
    (h : H tr held db) : H tr held' db
  used {tr : Transaction} {held : List Statement} {db : Database} {s : Statement} {call : Call}
    {o : CallOutcome} {f : StatementState → StatementState} (hs : s ∈ held) (hcall : call.Uses s)
    (ho : o = .refused → call.faultPoint? ≠ none) (hf : ∀ x, (f x).closed = x.closed)
    (h : H tr held db) : H tr held ((db.change s f).record call o)
  created {tr : Transaction} {held : List Statement} {db : Database} {c : Connection}
    (hc : tr.connection? = some c) (form : StatementForm) (h : H tr held db) :
    H tr (⟨db.statements.length⟩ :: held)
      ((db.adding form.sql).record (.prepare c ⟨db.statements.length⟩ form) .succeeded)
  uncreated {tr : Transaction} {held : List Statement} {db : Database} {c : Connection}
    (hc : tr.connection? = some c) (s : Statement) (form : StatementForm) (h : H tr held db) :
    H tr held (db.record (.prepare c s form) .refused)
  closed {tr : Transaction} {held : List Statement} {db : Database} {s : Statement}
    (hin : db.InHand (s :: held)) (sql : String) (h : H tr (s :: held) db) :
    H tr held ((db.change s .shut).record (.closeStatement s sql) .succeeded)
  unclosed {tr : Transaction} {held : List Statement} {db : Database} {s : Statement}
    (hin : db.InHand (s :: held)) (sql : String) (h : H tr (s :: held) db) :
    H tr held (db.record (.closeStatement s sql) .refused)
  opened {tr : Transaction} (hnone : tr.connection? = none) (held : List Statement) :
    Leads (H tr held) tr.openConnection
      (fun c => H { tr with connection? := some c } held) (H tr held)

structure Holding (H : Transaction → List Statement → Database → Prop) (tr : Transaction)
    (held : List Statement) (db : Database) : Prop where
  inHand : db.InHand held
  holds : H tr held db

variable {α : Type} {H : Transaction → List Statement → Database → Prop} {tr : Transaction}
  {held : List Statement} {s : Statement}

namespace Holding

theorem perm (hH : Custody H) {held' : List Statement} {db : Database} (hperm : held.Perm held')
    (h : Holding H tr held db) : Holding H tr held' db :=
  ⟨h.inHand.perm hperm, hH.perm hperm h.holds⟩

theorem perform (hH : Custody H) {call : Call} {refusal : Option Error}
    {act : Database → Except Error α × Database} {db : Database} (hs : s ∈ held)
    (hcall : call.Uses s)
    (hrefusal : (db.statement s).closed = false → refusal ≠ none → call.faultPoint? ≠ none)
    (hact : ∃ f, (act db).2 = db.change s f ∧ ∀ x, (f x).closed = x.closed)
    (h : Holding H tr held db) : Holding H tr held (Database.perform call refusal act db).2 := by
  have hrecord : ∀ (o : CallOutcome) (f : StatementState → StatementState),
      (o = .refused → call.faultPoint? ≠ none) → (∀ x, (f x).closed = x.closed) →
      Holding H tr held ((db.change s f).record call o) := fun o f ho hf =>
    ⟨(h.inHand.change hf s).record call o, hH.used hs hcall ho hf h.holds⟩
  unfold Database.perform
  split
  · next e =>
    rw [← db.change_id s]
    exact hrecord .refused id (fun _ => hrefusal (h.inHand.isOpen s hs) nofun) fun _ => rfl
  · obtain ⟨f, hf, hclosed⟩ := hact
    rcases hr : act db with ⟨e | a, db'⟩ <;> rw [hr] at hf <;> subst hf
    · exact hrecord .failed f nofun hclosed
    · exact hrecord .succeeded f nofun hclosed

theorem maintains (hH : Custody H) {call : Database → Call} {refusal : Database → Option Error}
    {act : Database → Database → Except Error α × Database} (hs : s ∈ held)
    (hcall : ∀ db, (call db).Uses s)
    (hrefusal : ∀ db, (db.statement s).closed = false → refusal db ≠ none →
      (call db).faultPoint? ≠ none)
    (hact : ∀ db, ∃ f, (act db db).2 = db.change s f ∧ ∀ x, (f x).closed = x.closed) :
    Maintains (Holding H tr held)
      (.of fun db => Database.perform (call db) (refusal db) (act db) db) fun _ => True :=
  fun db h => ⟨h.perform hH hs (hcall db) (hrefusal db) (hact db), fun _ _ => trivial⟩

theorem maintains_quiet (hH : Custody H) {call : Call} {refusal : Database → Option Error}
    {r : Database → Except Error α} (hs : s ∈ held) (hcall : call.Uses s)
    (hpoint : call.faultPoint? ≠ none) :
    Maintains (Holding H tr held)
      (.of fun db => Database.perform call (refusal db) (fun db => (r db, db)) db) fun _ => True :=
  maintains hH hs (fun _ => hcall) (fun _ _ _ => hpoint) fun db =>
    ⟨id, (db.change_id s).symm, fun _ => rfl⟩

end Holding

theorem Database.closedError_of_open {db : Database} (h : (db.statement s).closed = false) :
    db.closedError s = none := by
  simp [closedError, h]

open Holding

namespace Statement

theorem setTimeout_holding (hH : Custody H) (hs : s ∈ held) (seconds : Nat) :
    Maintains (Holding H tr held) (s.setTimeout seconds) fun _ => True :=
  maintains_quiet hH hs ⟨rfl, nofun⟩ nofun

theorem setFetchSize_holding (hH : Custody H) (hs : s ∈ held) (rows : Nat) :
    Maintains (Holding H tr held) (s.setFetchSize rows) fun _ => True :=
  maintains_quiet hH hs ⟨rfl, nofun⟩ nofun

theorem bind_holding (hH : Custody H) (hs : s ∈ held) (index : Nat) (value : Value) :
    Maintains (Holding H tr held) (s.bind index value) fun _ => True :=
  maintains_quiet hH hs ⟨rfl, nofun⟩ nofun

theorem registerOut_holding (hH : Custody H) (hs : s ∈ held) (index : Nat) :
    Maintains (Holding H tr held) (s.registerOut index) fun _ => True :=
  maintains_quiet hH hs ⟨rfl, nofun⟩ nofun

theorem generatedKeys_holding (hH : Custody H) (hs : s ∈ held) :
    Maintains (Holding H tr held) s.generatedKeys fun _ => True :=
  maintains_quiet hH hs ⟨rfl, nofun⟩ nofun

theorem outParameter_holding (hH : Custody H) (hs : s ∈ held) (index : Nat) :
    Maintains (Holding H tr held) (s.outParameter index) fun _ => True := by
  refine maintains hH hs (fun _ => ⟨rfl, nofun⟩) (fun _ _ hr => absurd rfl hr) fun db => ?_
  refine ⟨id, ?_, fun _ => rfl⟩
  rw [db.change_id]
  split <;> rfl

theorem execute_holding (hH : Custody H) (hs : s ∈ held) (text : Option String) :
    Maintains (Holding H tr held) (s.execute text) fun _ => True := by
  refine maintains hH hs (fun _ => ⟨rfl, nofun⟩) (fun _ hopen hr => absurd
    (Database.closedError_of_open hopen) hr) fun db => ?_
  dsimp only
  split <;> exact ⟨_, rfl, fun _ => rfl⟩

theorem nextRow_holding (hH : Custody H) (hs : s ∈ held) :
    Maintains (Holding H tr held) s.nextRow fun _ => True := by
  refine maintains hH hs (fun _ => ⟨rfl, nofun⟩) (fun _ hopen hr => absurd
    (Database.closedError_of_open hopen) hr) fun db => ?_
  have hsame : ∃ f, db = db.change s f ∧ ∀ x, (f x).closed = x.closed :=
    ⟨id, (db.change_id s).symm, fun _ => rfl⟩
  dsimp only
  split
  · exact hsame
  · split
    · exact hsame
    · exact ⟨_, rfl, fun _ => rfl⟩

theorem addBatch_holding (hH : Custody H) (hs : s ∈ held) (text : Option String) :
    Maintains (Holding H tr held) (s.addBatch text) fun _ => True :=
  maintains hH hs (fun _ => ⟨rfl, nofun⟩) (fun _ _ _ => nofun) fun _ => ⟨_, rfl, fun _ => rfl⟩

theorem executeBatch_holding (hH : Custody H) (hs : s ∈ held) :
    Maintains (Holding H tr held) s.executeBatch fun _ => True := by
  refine maintains hH hs (fun _ => ⟨rfl, nofun⟩) (fun _ hopen hr => absurd
    (Database.closedError_of_open hopen) hr) fun db => ?_
  dsimp only
  split <;> exact ⟨_, rfl, fun _ => rfl⟩

/-- A statement that is closed, or was to be, is out of hand. -/
theorem closeQuietly_holding (hH : Custody H) (s : Statement) (held : List Statement)
    (E : Database → Prop) :
    Leads (Holding H tr (s :: held)) s.closeQuietly (fun _ => Holding H tr held) E := by
  intro db h
  have hopen := h.inHand.isOpen s (List.mem_cons_self)
  have hclosed : s.isClosed.outcome db = (.ok false, db) := by rw [← hopen]; rfl
  have hout : s.closeQuietly.outcome db = (.ok (), (s.close.outcome db).2) := by
    rw [closeQuietly, outcome_bind_of_ok hclosed]
    exact outcome_quietly s.close db
  rw [hout]
  refine ⟨fun a db' he => ?_, nofun⟩
  cases he
  rw [close, outcome_of]
  dsimp only
  split
  · rw [hopen]
    exact ⟨h.inHand.shut.record _ _, hH.closed h.inHand _ h.holds⟩
  · exact ⟨h.inHand.tail.record _ _, hH.unclosed h.inHand _ h.holds⟩

end Statement

theorem Connection.prepare_holding (hH : Custody H) {c : Connection} (hc : tr.connection? = some c)
    (held : List Statement) (form : StatementForm) :
    Leads (Holding H tr held) (c.prepare form) (fun s => Holding H tr (s :: held))
      (Holding H tr held) := by
  intro db h
  rw [prepare, outcome_of]
  dsimp only
  unfold Database.perform
  split
  · refine ⟨nofun, fun e db' he => ?_⟩
    cases he
    exact ⟨h.inHand.record _ _, hH.uncreated hc _ form h.holds⟩
  · refine ⟨fun s db' he => ?_, nofun⟩
    cases he
    exact ⟨(h.inHand.adding form.sql).record _ _, hH.created hc form h.holds⟩

theorem Statement.closeAll_holding {γ : Type} (hH : Custody H) (f : γ → Statement) (l : List γ)
    (E : Database → Prop) :
    Leads (Holding H tr (l.map f ++ held)) (l.forM fun c => (f c).closeQuietly)
      (fun _ => Holding H tr held) E := by
  induction l with
  | nil => exact .pure fun _ h => h
  | cons c l ih => exact ((f c).closeQuietly_holding hH (l.map f ++ held) E).bind fun _ => ih

end SqlMapper
