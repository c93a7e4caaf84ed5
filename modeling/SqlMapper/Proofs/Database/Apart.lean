import SqlMapper.Database.Connection
import SqlMapper.Database.Statement
import SqlMapper.Proofs.Maintains

namespace SqlMapper

/-- What a call did for queued mutations: it gave a statement an entry, it was to have the entries
of one executed, or to end a transaction for good. -/
inductive Mark where
  | added (s : Statement)
  | sent (s : Statement) (entries : Nat) (outcome : CallOutcome)
  | committed
  deriving DecidableEq

/-- An entry counts once it is there, the others count however they went. -/
def LogEntry.mark? (e : LogEntry) : Option Mark :=
  match e.call with
  | .addBatch s _ => if e.outcome = .succeeded then some (.added s) else none
  | .executeBatch s _ entries => some (.sent s entries e.outcome)
  | .commit _ => some .committed
  | _ => none

namespace Database

open Fallible

variable {α : Type} {V : α → Prop} {kept : List Statement} {db₀ db db' : Database} {s t : Statement}

/-- `db` comes from `db₀` by calls that left the statements in `kept` alone and left no mark. -/
structure Apart (kept : List Statement) (db₀ db : Database) : Prop where
  made : ∀ s ∈ kept, s.index < db.statements.length
  same : ∀ s ∈ kept, db.statement s = db₀.statement s
  length_le : db₀.statements.length ≤ db.statements.length
  log : ∃ calls, db.log = db₀.log ++ calls ∧ calls.filterMap LogEntry.mark? = []

theorem statement_change_of_ne (h : t ≠ s) (f : StatementState → StatementState) :
    (db.change s f).statement t = db.statement t := by
  have hi : s.index ≠ t.index := fun he => h (by cases s; cases t; cases he; rfl)
  rw [statement, statement, change, List.getElem?_modify_ne _ _ hi]

theorem statement_change_self (h : s.index < db.statements.length)
    (f : StatementState → StatementState) :
    (db.change s f).statement s = f (db.statement s) := by
  simp [statement, change, h]

@[simp] theorem length_change (f : StatementState → StatementState) :
    (db.change s f).statements.length = db.statements.length := by
  simp [change]

theorem perform_eq_ok {call : Call} {refusal : Option Error}
    {act : Database → Except Error α × Database} {a : α}
    (h : perform call refusal act db = (.ok a, db')) :
    refusal = none ∧ ∃ db₁, act db = (.ok a, db₁) ∧ db' = db₁.record call .succeeded := by
  unfold perform at h
  split at h
  · cases h
  · split at h
    · next hact =>
      cases h
      exact ⟨rfl, _, hact, rfl⟩
    · cases h

namespace Apart

theorem refl (h : ∀ s ∈ kept, s.index < db.statements.length) : Apart kept db db :=
  ⟨h, fun _ _ => rfl, Nat.le_refl _, [], by simp, rfl⟩

theorem self (db : Database) : Apart [] db db := refl nofun

theorem trans {db'' : Database} (h : Apart kept db db') (h' : Apart kept db' db'') :
    Apart kept db db'' where
  made := h'.made
  same s hs := (h'.same s hs).trans (h.same s hs)
  length_le := Nat.le_trans h.length_le h'.length_le
  log := by
    obtain ⟨calls, hc, hn⟩ := h.log
    obtain ⟨calls', hc', hn'⟩ := h'.log
    exact ⟨calls ++ calls', by rw [hc', hc, List.append_assoc], by simp [hn, hn']⟩

theorem prefix_log (h : Apart kept db db') : db.log <+: db'.log := by
  obtain ⟨calls, hc, -⟩ := h.log
  exact ⟨calls, hc.symm⟩

theorem record {call : Call} {o : CallOutcome} (h : Apart kept db₀ db)
    (hcall : LogEntry.mark? ⟨call, o⟩ = none) : Apart kept db₀ (db.record call o) where
  made := h.made
  same := h.same
  length_le := h.length_le
  log := by
    obtain ⟨calls, hc, hn⟩ := h.log
    exact ⟨calls ++ [⟨call, o⟩], by simp [Database.record, hc], by simp [hn, hcall]⟩

theorem change (h : Apart kept db₀ db) (hs : s ∉ kept) (f : StatementState → StatementState) :
    Apart kept db₀ (db.change s f) where
  made t ht := by simpa using h.made t ht
  same t ht := by
    have hne : t ≠ s := fun he => hs (he ▸ ht)
    rw [statement_change_of_ne hne]
    exact h.same t ht
  length_le := by simpa using h.length_le
  log := h.log

theorem perform {call : Call} {refusal : Option Error} {act : Database → Except Error α × Database}
    (h : Apart kept db₀ db) (hcall : ∀ o, LogEntry.mark? ⟨call, o⟩ = none)
    (hact : Apart kept db₀ (act db).2) (hV : ∀ a, (act db).1 = .ok a → V a) :
    Apart kept db₀ (perform call refusal act db).2 ∧
      ∀ a, (Database.perform call refusal act db).1 = .ok a → V a := by
  unfold Database.perform
  split
  · exact ⟨h.record (hcall _), nofun⟩
  · rcases hr : act db with ⟨e | a, db₁⟩
    · rw [hr] at hact
      exact ⟨hact.record (hcall _), nofun⟩
    · rw [hr] at hact hV
      exact ⟨hact.record (hcall _), hV⟩

theorem maintains {call : Database → Call} {refusal : Database → Option Error}
    {act : Database → Database → Except Error α × Database}
    (hcall : ∀ db o, LogEntry.mark? ⟨call db, o⟩ = none)
    (hact : ∀ db, Apart kept db₀ db →
      Apart kept db₀ (act db db).2 ∧ ∀ a, (act db db).1 = .ok a → V a) :
    Maintains (Apart kept db₀)
      (.of fun db => Database.perform (call db) (refusal db) (act db) db) V :=
  fun db h => h.perform (hcall db) (hact db h).1 (hact db h).2

theorem maintains_quiet {call : Call} {refusal : Database → Option Error}
    {r : Database → Except Error α} (hcall : ∀ o, LogEntry.mark? ⟨call, o⟩ = none) :
    Maintains (Apart kept db₀)
      (.of fun db => Database.perform call (refusal db) (fun db => (r db, db)) db) fun _ => True :=
  maintains (fun _ => hcall) fun _ h => ⟨h, fun _ _ => trivial⟩

end Apart

end Database

open Fallible Database

section Calls

variable {kept : List Statement} {db₀ : Database}

theorem connect_apart : Maintains (Apart kept db₀) connect fun _ => True :=
  Apart.maintains (fun _ _ => rfl) fun _ h =>
    ⟨⟨h.made, h.same, h.length_le, h.log⟩, fun _ _ => trivial⟩

namespace Connection

theorem autoCommit_apart (c : Connection) : Maintains (Apart kept db₀) c.autoCommit fun _ => True :=
  Apart.maintains_quiet fun _ => rfl

theorem setAutoCommit_apart (c : Connection) (mode : Bool) :
    Maintains (Apart kept db₀) (c.setAutoCommit mode) fun _ => True :=
  Apart.maintains (fun _ _ => rfl) fun _ h =>
    ⟨⟨h.made, h.same, h.length_le, h.log⟩, fun _ _ => trivial⟩

theorem rollback_apart (c : Connection) : Maintains (Apart kept db₀) c.rollback fun _ => True :=
  Apart.maintains_quiet fun _ => rfl

theorem close_apart (c : Connection) : Maintains (Apart kept db₀) c.close fun _ => True :=
  Apart.maintains_quiet fun _ => rfl

theorem prepare_apart (c : Connection) (form : StatementForm) :
    Maintains (Apart kept db₀) (c.prepare form) fun s => s ∉ kept := by
  refine Apart.maintains (fun _ _ => rfl) fun db h => ⟨?_, ?_⟩
  · have hold : ∀ s ∈ kept, (db.statements ++ [StatementState.created form.sql])[s.index]? =
        db.statements[s.index]? := fun s hs => List.getElem?_append_left (h.made s hs)
    refine ⟨fun s hs => ?_, fun s hs => ?_, ?_, h.log⟩
    · simpa using Nat.lt_succ_of_lt (h.made s hs)
    · simpa only [statement, hold s hs] using h.same s hs
    · simpa using Nat.le_succ_of_le h.length_le
  · intro s hs hk
    cases hs
    exact Nat.lt_irrefl _ (h.made _ hk)

end Connection

namespace Statement

variable {s : Statement}

theorem setTimeout_apart (s : Statement) (seconds : Nat) :
    Maintains (Apart kept db₀) (s.setTimeout seconds) fun _ => True :=
  Apart.maintains_quiet fun _ => rfl

theorem setFetchSize_apart (s : Statement) (rows : Nat) :
    Maintains (Apart kept db₀) (s.setFetchSize rows) fun _ => True :=
  Apart.maintains_quiet fun _ => rfl

theorem bind_apart (s : Statement) (index : Nat) (value : Value) :
    Maintains (Apart kept db₀) (s.bind index value) fun _ => True :=
  Apart.maintains_quiet fun _ => rfl

theorem registerOut_apart (s : Statement) (index : Nat) :
    Maintains (Apart kept db₀) (s.registerOut index) fun _ => True :=
  Apart.maintains_quiet fun _ => rfl

theorem generatedKeys_apart (s : Statement) :
    Maintains (Apart kept db₀) s.generatedKeys fun _ => True :=
  Apart.maintains_quiet fun _ => rfl

theorem outParameter_apart (s : Statement) (index : Nat) :
    Maintains (Apart kept db₀) (s.outParameter index) fun _ => True := by
  refine Apart.maintains (fun _ _ => rfl) fun db h => ⟨?_, fun _ _ => trivial⟩
  split <;> exact h

theorem updateCount_apart (s : Statement) :
    Maintains (Apart kept db₀) s.updateCount fun _ => True :=
  fun _ h => ⟨h, fun _ _ => trivial⟩

theorem isClosed_apart (s : Statement) : Maintains (Apart kept db₀) s.isClosed fun _ => True :=
  fun _ h => ⟨h, fun _ _ => trivial⟩

theorem execute_apart (hs : s ∉ kept) (text : Option String) :
    Maintains (Apart kept db₀) (s.execute text) fun _ => True := by
  refine Apart.maintains (fun _ _ => rfl) fun db h => ⟨?_, fun _ _ => trivial⟩
  dsimp only
  split <;> exact h.change hs _

theorem nextRow_apart (hs : s ∉ kept) : Maintains (Apart kept db₀) s.nextRow fun _ => True := by
  refine Apart.maintains (fun _ _ => rfl) fun db h => ⟨?_, fun _ _ => trivial⟩
  dsimp only
  split
  · exact h
  · split
    · exact h
    · exact h.change hs _

theorem close_apart (hs : s ∉ kept) : Maintains (Apart kept db₀) s.close fun _ => True := by
  intro db h
  rw [close, outcome_of]
  dsimp only
  split
  · split
    · exact ⟨h, fun _ _ => trivial⟩
    · exact h.perform (fun _ => rfl) (h.change hs _) fun _ _ => trivial
  · exact h.perform (fun _ => rfl) h fun _ _ => trivial

theorem closeQuietly_apart (hs : s ∉ kept) :
    Maintains (Apart kept db₀) s.closeQuietly fun _ => True := by
  refine (isClosed_apart s).bind fun closed _ => ?_
  cases closed
  · exact (close_apart hs).quietly
  · exact .pure trivial

end Statement

end Calls

end SqlMapper
