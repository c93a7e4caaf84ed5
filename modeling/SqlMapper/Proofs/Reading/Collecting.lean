import SqlMapper.Proofs.Database.Batch
import SqlMapper.Proofs.Database.Custody
import SqlMapper.Proofs.Session.Command
import SqlMapper.Session.Reading

namespace SqlMapper

open Fallible Database

/-- The values that have been read, in order, and the failure that ended the reading, if one did. -/
structure Collected where
  values : List Value
  failure : Option Error
  deriving DecidableEq

namespace Collected

/-- What the reading answers. After a failure the values are lost. -/
def answer (c : Collected) : Except Error (List Value) :=
  match c.failure with
  | none => .ok c.values
  | some e => .error e

def cons (v : Value) (c : Collected) : Collected := { c with values := v :: c.values }

/-- One by one: the values and then the failure. -/
def items (c : Collected) : List (Except Error Value) :=
  c.values.map .ok ++ c.failure.toList.map .error

theorem items_drop {c : Collected} {k : Nat} (h : k ≤ c.values.length) :
    items ⟨c.values.drop k, c.failure⟩ = c.items.drop k := by
  rw [items, items, List.drop_append_of_le_length (by simpa using h), List.map_drop]

theorem items_length_le (c : Collected) : c.items.length ≤ c.values.length + 1 := by
  cases hf : c.failure <;> simp [items, hf]

end Collected

namespace Reading

def taking (s : Statement) (read : Row → Except Error Value) : DriverM (Option Value) := do
  match ← s.nextRow with
  | none => return none
  | some row => return some (← Fallible.ending (read row))

/-- `collect` with what it has collected when it fails. -/
def collecting (s : Statement) (read : Row → Except Error Value) : Nat → DriverM Collected
  | 0 => return ⟨[], none⟩
  | n + 1 => do
    match ← (taking s read).attempt with
    | .ok (some value) => return (← collecting s read n).cons value
    | .ok none => return ⟨[], none⟩
    | .error e => return ⟨[], some e⟩

def collected (s : Statement) (read : Row → Except Error Value) (bounds : RowBounds) :
    DriverM Collected := do
  match ← (skipOffset s bounds).attempt with
  | .ok true => collecting s read (← steps s bounds.limit)
  | .ok false => return ⟨[], none⟩
  | .error e => return ⟨[], some e⟩

section Loop

variable {s : Statement} {read : Row → Except Error Value} {n : Nat} {db db' : Database}

theorem steps_outcome (s : Statement) (n : Nat) (db : Database) :
    (steps s n).outcome db = (.ok (min n ((db.statement s).rows.length + 1)), db) := rfl

theorem collecting_of_value {value : Value}
    (h : (taking s read).outcome db = (.ok (some value), db')) :
    (collecting s read (n + 1)).outcome db =
      (((collecting s read n).outcome db').1.map (·.cons value),
        ((collecting s read n).outcome db').2) := by
  rw [collecting, outcome_bind, outcome_attempt, h]
  exact outcome_bind_pure _ _ _

theorem collecting_of_end (h : (taking s read).outcome db = (.ok none, db')) :
    (collecting s read (n + 1)).outcome db = (.ok ⟨[], none⟩, db') := by
  rw [collecting, outcome_bind, outcome_attempt, h]
  rfl

theorem collecting_of_error {e : Error} (h : (taking s read).outcome db = (.error e, db')) :
    (collecting s read (n + 1)).outcome db = (.ok ⟨[], some e⟩, db') := by
  rw [collecting, outcome_bind, outcome_attempt, h]
  rfl

theorem collect_succ (n : Nat) :
    collect s read (n + 1) = (do
      match ← taking s read with
      | some value => return value :: (← collect s read n)
      | none => return []) := by
  rw [collect, taking, bind_assoc]
  congr 1
  funext row
  cases row with
  | none => rfl
  | some row =>
    change _ = (ending (read row) >>= fun v => pure (some v)) >>= _
    rw [bind_assoc]
    rfl

theorem collect_of_value {value : Value}
    (h : (taking s read).outcome db = (.ok (some value), db')) :
    (collect s read (n + 1)).outcome db =
      (((collect s read n).outcome db').1.map (value :: ·), ((collect s read n).outcome db').2) := by
  rw [collect_succ, outcome_bind, h]
  exact outcome_bind_pure _ _ _

/-- Reading to the end never fails when the failure is part of the answer. -/
theorem exists_collecting (s : Statement) (read : Row → Except Error Value) (n : Nat)
    (db : Database) :
    ∃ c db', (collecting s read n).outcome db = (.ok c, db') ∧
      (collect s read n).outcome db = (c.answer, db') := by
  induction n generalizing db with
  | zero => exact ⟨⟨[], none⟩, db, rfl, rfl⟩
  | succ n ih =>
    rcases htake : (taking s read).outcome db with ⟨e | _ | value, db₁⟩
    · exact ⟨⟨[], some e⟩, db₁, collecting_of_error htake, by
        rw [collect_succ, outcome_bind_of_error htake]; rfl⟩
    · exact ⟨⟨[], none⟩, db₁, collecting_of_end htake, by
        rw [collect_succ, outcome_bind_of_ok htake]; rfl⟩
    · obtain ⟨⟨values, failure⟩, db', hc, hcollect⟩ := ih db₁
      refine ⟨⟨value :: values, failure⟩, db', ?_, ?_⟩
      · rw [collecting_of_value htake, hc]
        rfl
      · rw [collect_of_value htake, hcollect]
        cases failure <;> rfl

theorem exists_collected (s : Statement) (read : Row → Except Error Value) (bounds : RowBounds)
    (u : Scope) :
    ∃ c db, (collected s read bounds).outcome u.database = (.ok c, db) ∧
      (window s read bounds none).outcome u = (c.answer, { u with database := db }) := by
  rw [window, SessionM.outcome_lift_bind, collected, outcome_bind, outcome_attempt]
  rcases (skipOffset s bounds).outcome u.database with ⟨e | enough, db₁⟩
  · exact ⟨⟨[], some e⟩, db₁, rfl, rfl⟩
  · cases enough with
    | false => exact ⟨⟨[], none⟩, db₁, rfl, rfl⟩
    | true =>
      obtain ⟨c, db, hc, hcollect⟩ := exists_collecting s read
        (min bounds.limit ((db₁.statement s).rows.length + 1)) db₁
      refine ⟨c, db, hc, ?_⟩
      dsimp only
      rw [if_pos rfl, SessionM.outcome_lift_bind, steps_outcome]
      dsimp only
      rw [SessionM.outcome_lift, hcollect]

end Loop

end Reading

/-- How many rows a statement has been asked for, those included that it did not have. -/
def Database.asked (s : Statement) (db : Database) : Nat :=
  db.log.countP fun e => e.call = .nextRow s

/-- `db'` comes from `db` by asking the statement for at most `n` rows. -/
structure Database.Asks (s : Statement) (n : Nat) (db db' : Database) : Prop where
  asked : db'.asked s ≤ db.asked s + n
  faults : db'.faults = db.faults
  closed : (db'.statement s).closed = (db.statement s).closed

namespace Database.Asks

variable {s : Statement} {m n : Nat} {db db' db'' : Database}

theorem refl (s : Statement) (db : Database) : Asks s 0 db db := ⟨Nat.le_refl _, rfl, rfl⟩

theorem trans (h : Asks s m db db') (h' : Asks s n db' db'') : Asks s (m + n) db db'' where
  asked := by
    have := h.asked
    have := h'.asked
    omega
  faults := h'.faults.trans h.faults
  closed := h'.closed.trans h.closed

theorem mono (h : Asks s m db db') (hle : m ≤ n) : Asks s n db db' :=
  ⟨Nat.le_trans h.asked (Nat.add_le_add_left hle _), h.faults, h.closed⟩

end Database.Asks

section Asking

variable {s : Statement} {db : Database}

@[simp] theorem Database.asked_record (call : Call) (o : CallOutcome) :
    (db.record call o).asked s = db.asked s + if call = .nextRow s then 1 else 0 := by
  simp [asked, record, List.countP_append, List.countP_cons]

@[simp] theorem Database.asked_change (t : Statement) (f : StatementState → StatementState) :
    (db.change t f).asked s = db.asked s := rfl

theorem Statement.nextRow_asks (h : (db.statement s).closed = false) :
    ∃ r db', s.nextRow.outcome db = (r, db') ∧ Asks s 1 db db' ∧
      ∀ row, r = .ok (some row) →
        (db'.statement s).rows.length + 1 = (db.statement s).rows.length := by
  rw [nextRow, outcome_of, closedError, h, if_neg (by simp), perform_none]
  dsimp only
  split
  · exact ⟨_, _, rfl, ⟨by simp, rfl, rfl⟩, by simp⟩
  · split
    · exact ⟨_, _, rfl, ⟨by simp, rfl, rfl⟩, by simp⟩
    · next row rest hrows =>
      have hself := statement_change_self (index_lt_of_open h)
        fun t => { t with rows := rest, rowsRead := (db.statement s).rowsRead + 1 }
      have hclosed := congrArg StatementState.closed hself
      have hrest := congrArg (·.rows.length + 1) hself
      refine ⟨_, _, rfl, ⟨by simp, rfl, hclosed⟩, fun _ _ => ?_⟩
      rw [hrows]
      exact hrest

namespace Reading

theorem taking_asks (read : Row → Except Error Value) (h : (db.statement s).closed = false) :
    ∃ r db', (taking s read).outcome db = (r, db') ∧ Asks s 1 db db' ∧
      ∀ value, r = .ok (some value) →
        (db'.statement s).rows.length + 1 = (db.statement s).rows.length := by
  obtain ⟨r, db', hrow, hasks, hleft⟩ := Statement.nextRow_asks h
  rcases r with e | _ | row
  · exact ⟨_, _, outcome_bind_of_error hrow, hasks, nofun⟩
  · exact ⟨_, _, outcome_bind_of_ok hrow, hasks, nofun⟩
  · exact ⟨_, _, (outcome_bind_of_ok hrow).trans (outcome_bind_pure _ _ _), hasks,
      fun _ _ => hleft row rfl⟩

theorem skip_asks (n : Nat) (h : (db.statement s).closed = false) :
    ∃ r db', (skip s n).outcome db = (r, db') ∧ Asks s n db db' := by
  induction n generalizing db with
  | zero => exact ⟨_, _, rfl, .refl s db⟩
  | succ n ih =>
    obtain ⟨r, db₁, hrow, hasks, -⟩ := Statement.nextRow_asks h
    rcases r with e | _ | row
    · exact ⟨_, _, outcome_bind_of_error hrow, hasks.mono (by omega)⟩
    · exact ⟨_, _, outcome_bind_of_ok hrow, hasks.mono (by omega)⟩
    · obtain ⟨r, db₂, hrest, hasks'⟩ := ih (hasks.closed.trans h)
      exact ⟨r, db₂, (outcome_bind_of_ok hrow).trans hrest, (hasks.trans hasks').mono (by omega)⟩

theorem skipOffset_asks (bounds : RowBounds) (h : (db.statement s).closed = false) :
    ∃ r db', (skipOffset s bounds).outcome db = (r, db') ∧ Asks s bounds.offset db db' := by
  obtain ⟨r, db', hskip, hasks⟩ :=
    skip_asks (min bounds.offset ((db.statement s).rows.length + 1)) h
  exact ⟨r, db', (outcome_bind_of_ok (steps_outcome s _ db)).trans hskip,
    hasks.mono (Nat.min_le_left _ _)⟩

end Reading

theorem Statement.closeQuietly_asked (s : Statement) (db : Database) :
    (s.closeQuietly.outcome db).2.asked s = db.asked s := by
  have hclosed : s.isClosed.outcome db = (.ok (db.statement s).closed, db) := rfl
  rw [closeQuietly, outcome_bind_of_ok hclosed]
  split
  · rfl
  · rw [outcome_quietly, close, outcome_of]
    dsimp only
    split
    · split
      · rfl
      · simp [perform_none]
    · simp [perform]

theorem Statement.closeQuietly_faults (s : Statement) (db : Database) :
    (s.closeQuietly.outcome db).2.faults = db.faults := by
  have hclosed : s.isClosed.outcome db = (.ok (db.statement s).closed, db) := rfl
  rw [closeQuietly, outcome_bind_of_ok hclosed]
  split
  · rfl
  · rw [outcome_quietly, close, outcome_of]
    dsimp only
    split
    · split <;> rfl
    · rfl

theorem Statement.closeQuietly_closed (h : (db.statement s).closed = false)
    (hfault : db.fault .closeStatement = none) :
    ((s.closeQuietly.outcome db).2.statement s).closed = true := by
  have hclosed : s.isClosed.outcome db = (.ok (db.statement s).closed, db) := rfl
  rw [closeQuietly, outcome_bind_of_ok hclosed, h]
  change (((quietly s.close).outcome db).2.statement s).closed = true
  rw [outcome_quietly, close, outcome_of, hfault]
  dsimp only
  rw [h, if_neg (by simp), perform_none]
  exact congrArg StatementState.closed (statement_change_self (index_lt_of_open h) _)

end Asking

end SqlMapper
