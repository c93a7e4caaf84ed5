import SqlMapper.Proofs.Database.Apart
import SqlMapper.Transaction

namespace SqlMapper

open Fallible

variable {α : Type}

/-- The call has the text of a statement executed, or its batch. -/
def LogEntry.executes (e : LogEntry) : Bool :=
  match e.call with
  | .execute _ _ | .executeBatch _ _ _ => true
  | _ => false

/-- The call gives no statement anything and has nothing executed. -/
def LogEntry.idle (e : LogEntry) : Bool :=
  match e.call with
  | .connect _ | .readAutoCommit _ | .setAutoCommit _ _ | .commit _ | .rollback _
  | .closeConnection _ | .nextRow _ | .generatedKeys _ | .outParameter _ _
  | .closeStatement _ _ => true
  | _ => false

theorem LogEntry.executes_of_idle {e : LogEntry} (h : e.idle = true) : e.executes = false := by
  obtain ⟨call, o⟩ := e
  cases call <;> first | rfl | cases h

def Database.Reads (db db' : Database) : Prop :=
  ∃ calls, db'.log = db.log ++ calls ∧ ∀ e ∈ calls, e.executes = false

/-- `db'` comes from `db` by idle calls. Statements have the texts they had, and none that was closed
is open. -/
structure Database.Idles (db db' : Database) : Prop where
  log : ∃ calls, db'.log = db.log ++ calls ∧ ∀ e ∈ calls, e.idle = true
  length : db'.statements.length = db.statements.length
  sql : ∀ s, (db'.statement s).sql = (db.statement s).sql
  closed : ∀ s, (db.statement s).closed = true → (db'.statement s).closed = true

/-- A change of what a statement has to give, or its end. -/
def StatementState.Rests (f : StatementState → StatementState) : Prop :=
  ∀ t, (f t).sql = t.sql ∧ (t.closed = true → (f t).closed = true)

namespace Database

variable {db₀ db : Database} {s : Statement}

theorem statement_change (f : StatementState → StatementState) (t : Statement) :
    (db.change s f).statement t = db.statement t ∨
      (db.change s f).statement t = f (db.statement t) := by
  by_cases h : t = s ∧ s.index < db.statements.length
  · obtain ⟨rfl, hlt⟩ := h
    exact .inr (statement_change_self hlt f)
  · refine .inl ?_
    obtain hne | hge := Decidable.not_and_iff_or_not.mp h
    · exact statement_change_of_ne hne f
    · rw [statement, statement, change, List.modify_eq_self (Nat.le_of_not_lt hge)]

namespace Idles

theorem refl (db : Database) : db.Idles db :=
  ⟨⟨[], by simp, nofun⟩, rfl, fun _ => rfl, fun _ h => h⟩

theorem reads {db' : Database} (h : db.Idles db') : db.Reads db' := by
  obtain ⟨calls, hlog, hidle⟩ := h.log
  exact ⟨calls, hlog, fun e he => LogEntry.executes_of_idle (hidle e he)⟩

theorem record {call : Call} {o : CallOutcome} (h : db₀.Idles db)
    (hcall : LogEntry.idle ⟨call, o⟩ = true) : db₀.Idles (db.record call o) := by
  refine ⟨?_, h.length, h.sql, h.closed⟩
  obtain ⟨calls, hlog, hidle⟩ := h.log
  refine ⟨calls ++ [⟨call, o⟩], by rw [Database.record, hlog, List.append_assoc], fun e he => ?_⟩
  obtain he | he := List.mem_append.mp he
  · exact hidle e he
  · cases List.mem_singleton.mp he
    exact hcall

theorem change {f : StatementState → StatementState} (h : db₀.Idles db)
    (hf : StatementState.Rests f) (s : Statement) : db₀.Idles (db.change s f) := by
  refine ⟨h.log, by rw [length_change, h.length], fun t => ?_, fun t ht => ?_⟩ <;>
    obtain hsame | hchanged := db.statement_change (s := s) f t
  · rw [hsame, h.sql]
  · rw [hchanged, (hf _).1, h.sql]
  · rw [hsame]
    exact h.closed t ht
  · rw [hchanged]
    exact (hf _).2 (h.closed t ht)

theorem perform {call : Call} {refusal : Option Error} {act : Database → Except Error α × Database}
    (h : db₀.Idles db) (hcall : ∀ o, LogEntry.idle ⟨call, o⟩ = true)
    (hact : db₀.Idles (act db).2) : db₀.Idles (Database.perform call refusal act db).2 := by
  unfold Database.perform
  split
  · exact h.record (hcall _)
  · rcases hr : act db with ⟨e | a, db'⟩ <;> rw [hr] at hact <;> exact hact.record (hcall _)

theorem maintains {call : Database → Call} {refusal : Database → Option Error}
    {act : Database → Database → Except Error α × Database}
    (hcall : ∀ db o, LogEntry.idle ⟨call db, o⟩ = true)
    (hact : ∀ db, db₀.Idles db → db₀.Idles (act db db).2) :
    Maintains db₀.Idles (.of fun db => Database.perform (call db) (refusal db) (act db) db)
      fun _ => True :=
  fun db h => ⟨h.perform (hcall db) (hact db h), fun _ _ => trivial⟩

theorem maintains_quiet {call : Call} {refusal : Database → Option Error}
    {r : Database → Except Error α} (hcall : ∀ o, LogEntry.idle ⟨call, o⟩ = true) :
    Maintains db₀.Idles
      (.of fun db => Database.perform call (refusal db) (fun db => (r db, db)) db) fun _ => True :=
  maintains (fun _ => hcall) fun _ h => h

end Idles

end Database

/-- What idle calls do not affect is kept by a computation that makes no others. -/
theorem Fallible.Maintains.of_idles {x : DriverM α} {V : α → Prop} {I : Database → Prop}
    (h : ∀ db₀ : Database, Maintains db₀.Idles x V)
    (hI : ∀ {db db' : Database}, db.Idles db' → I db → I db') : Maintains I x V := by
  intro db hdb
  obtain ⟨hidle, hV⟩ := h db db (.refl db)
  exact ⟨hI hidle hdb, hV⟩

open Database

section Calls

variable {db₀ : Database}

theorem connect_idles : Maintains db₀.Idles connect fun _ => True :=
  Idles.maintains (fun _ _ => rfl) fun _ h => ⟨h.log, h.length, h.sql, h.closed⟩

namespace Connection

variable (c : Connection)

theorem autoCommit_idles : Maintains db₀.Idles c.autoCommit fun _ => True :=
  Idles.maintains_quiet fun _ => rfl

theorem setAutoCommit_idles (mode : Bool) :
    Maintains db₀.Idles (c.setAutoCommit mode) fun _ => True :=
  Idles.maintains (fun _ _ => rfl) fun _ h => ⟨h.log, h.length, h.sql, h.closed⟩

theorem commit_idles : Maintains db₀.Idles c.commit fun _ => True :=
  Idles.maintains_quiet fun _ => rfl

theorem rollback_idles : Maintains db₀.Idles c.rollback fun _ => True :=
  Idles.maintains_quiet fun _ => rfl

theorem close_idles : Maintains db₀.Idles c.close fun _ => True :=
  Idles.maintains_quiet fun _ => rfl

end Connection

namespace Statement

variable (s : Statement)

theorem nextRow_idles : Maintains db₀.Idles s.nextRow fun _ => True := by
  refine Idles.maintains (fun _ _ => rfl) fun db h => ?_
  dsimp only
  split
  · exact h
  · split
    · exact h
    · refine h.change ?_ s
      exact fun _ => ⟨rfl, fun hc => hc⟩

theorem generatedKeys_idles : Maintains db₀.Idles s.generatedKeys fun _ => True :=
  Idles.maintains_quiet fun _ => rfl

theorem outParameter_idles (index : Nat) :
    Maintains db₀.Idles (s.outParameter index) fun _ => True := by
  refine Idles.maintains (fun _ _ => rfl) fun db h => ?_
  split <;> exact h

theorem close_idles : Maintains db₀.Idles s.close fun _ => True := by
  intro db h
  rw [close, outcome_of]
  dsimp only
  split
  · split
    · exact ⟨h, fun _ _ => trivial⟩
    · refine ⟨h.perform (fun _ => rfl) (h.change ?_ s), fun _ _ => trivial⟩
      exact fun _ => ⟨rfl, fun _ => rfl⟩
  · exact ⟨h.perform (fun _ => rfl) h, fun _ _ => trivial⟩

theorem closeQuietly_idles : Maintains db₀.Idles s.closeQuietly fun _ => True := by
  refine Maintains.bind (V := fun _ => True) (fun _ h => ⟨h, fun _ _ => trivial⟩) fun closed _ => ?_
  cases closed
  · exact s.close_idles.quietly
  · exact .pure trivial

end Statement

end Calls

end SqlMapper
