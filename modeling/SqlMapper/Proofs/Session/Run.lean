import SqlMapper.Session.Operation

namespace SqlMapper

open Fallible

/-- What there is between two steps: the database, the session, and the cursors it has given out. -/
structure World where
  database : Database
  session : Session
  cursors : List Cursor

/-- A step is an operation of the session with its parameter object, work on a cursor, named by its
position, or a change of mind of the database about what it is going to answer and to refuse. -/
inductive Step where
  | perform (op : Session.Operation) (parameter : Parameter)
  | fetch (cursor : Nat)
  | closeCursor (cursor : Nat)
  | rescript (script : Script) (faults : FaultPlan)

def Session.Answer.cursors : Session.Answer → List Cursor
  | .cursor c => [c]
  | _ => []

namespace World

/-- A session just opened; the database may have seen other work before. -/
def opened (db : Database) (type : ExecutorType) (t : Transaction) (autoCommit : Bool) : World :=
  ⟨db, .new type t autoCommit, []⟩

def scope (w : World) (p : Parameter) : Scope := ⟨w.database, w.session, p, []⟩

def following (w : World) (r : Except Error Session.Answer) (s : Scope) : World :=
  ⟨s.database, s.session, w.cursors ++ match r with
    | .ok a => a.cursors
    | .error _ => []⟩

def onCursor (w : World) (i : Nat) (work : Cursor → DriverM Cursor) : World :=
  match w.cursors[i]? with
  | none => w
  | some c =>
    match (work c).outcome w.database with
    | (.ok c', db) => { w with database := db, cursors := w.cursors.set i c' }
    | (.error _, db) => { w with database := db }

end World

/-- A step that was taken, and how it ended if it was an operation. -/
structure Turn where
  before : World
  step : Step
  result : Option (Except Error Session.Answer)
  after : World

def World.turn (config : Configuration) (w : World) (step : Step) : Turn :=
  match step with
  | .perform op p =>
    let (r, s) := (op.perform config).outcome (w.scope p)
    ⟨w, step, some r, w.following r s⟩
  | .fetch i => ⟨w, step, none, w.onCursor i fun c => return (← c.next).2⟩
  | .closeCursor i => ⟨w, step, none, w.onCursor i Cursor.close⟩
  | .rescript script faults =>
    ⟨w, step, none, { w with database := { w.database with script := script, faults := faults } }⟩

/-- The calls made on the database in a turn. -/
def Turn.calls (t : Turn) : List LogEntry :=
  t.after.database.log.drop t.before.database.log.length

/-- `past` is what has happened since `start`, in this order, and `w` is what came of it. -/
inductive Run (config : Configuration) (start : World) : List Turn → World → Prop where
  | start : Run config start [] start
  | turn {past : List Turn} {w : World} (run : Run config start past w) (step : Step) :
    Run config start (past ++ [w.turn config step]) (w.turn config step).after

section Turns

variable {config : Configuration} {w : World}

@[simp] theorem World.turn_before (step : Step) : (w.turn config step).before = w := by
  cases step <;> rfl

@[simp] theorem World.turn_step (step : Step) : (w.turn config step).step = step := by
  cases step <;> rfl

theorem World.turn_perform (op : Session.Operation) (p : Parameter) :
    w.turn config (.perform op p) = ⟨w, .perform op p,
      some ((op.perform config).outcome (w.scope p)).1,
      w.following ((op.perform config).outcome (w.scope p)).1
        ((op.perform config).outcome (w.scope p)).2⟩ := rfl

theorem World.calls_of_log {step : Step} {calls : List LogEntry}
    (h : (w.turn config step).after.database.log = w.database.log ++ calls) :
    (w.turn config step).calls = calls := by
  rw [Turn.calls, h, turn_before, List.drop_left]

theorem World.onCursor_session (i : Nat) (work : Cursor → DriverM Cursor) :
    (w.onCursor i work).session = w.session := by
  unfold onCursor
  split
  · rfl
  · split <;> rfl

variable (config) in
theorem World.turn_result {step : Step} (h : ∀ op p, step ≠ .perform op p) :
    (w.turn config step).result = none := by
  cases step with
  | perform op p => exact absurd rfl (h op p)
  | _ => rfl

variable (config) in
theorem World.turn_session {step : Step} (h : ∀ op p, step ≠ .perform op p) :
    (w.turn config step).after.session = w.session := by
  cases step with
  | perform op p => exact absurd rfl (h op p)
  | fetch i => exact w.onCursor_session i _
  | closeCursor i => exact w.onCursor_session i _
  | rescript => rfl

theorem split_snoc {α : Type} {past older newer : List α} {last e : α}
    (h : past ++ [last] = older ++ e :: newer) :
    (newer = [] ∧ past = older ∧ last = e) ∨
      ∃ init, newer = init ++ [last] ∧ past = older ++ e :: init := by
  obtain rfl | ⟨init, d, rfl⟩ := List.eq_nil_or_concat newer
  · obtain ⟨hpast, hlast⟩ := List.append_inj' h rfl
    exact .inl ⟨rfl, hpast, List.singleton_inj.mp hlast⟩
  · rw [List.concat_eq_append, ← List.cons_append, ← List.append_assoc] at h
    obtain ⟨hpast, hlast⟩ := List.append_inj' h rfl
    rw [List.concat_eq_append, List.singleton_inj.mp hlast]
    exact .inr ⟨init, rfl, hpast⟩

/-- Every turn of a run comes after a run of its own. -/
theorem Run.split {start : World} {past older newer : List Turn} {e : Turn}
    (hr : Run config start past w) (h : past = older ++ e :: newer) :
    ∃ w' step, Run config start older w' ∧ e = w'.turn config step := by
  induction hr generalizing newer with
  | start => simp at h
  | @turn past w run step ih =>
    obtain ⟨rfl, rfl, rfl⟩ | ⟨init, rfl, hpast⟩ := split_snoc h
    · exact ⟨w, step, run, rfl⟩
    · exact ih hpast

end Turns

end SqlMapper
