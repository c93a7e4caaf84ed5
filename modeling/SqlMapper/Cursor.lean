import SqlMapper.Session.Reading

namespace SqlMapper

inductive CursorState where
  | isOpen | consumed | closed
  deriving DecidableEq

/-- `index` counts the rows handed out, `skipped` says that the rows before the window are past. -/
structure Cursor where
  statement : Option Statement
  read : Row → Except Error Value
  bounds : RowBounds
  skipped : Bool
  index : Nat
  state : CursorState

namespace Cursor

def ofStatement (s : Statement) (read : Row → Except Error Value) (bounds : RowBounds) : Cursor :=
  ⟨some s, read, bounds, false, 0, .isOpen⟩

def release (c : Cursor) : DriverM Cursor := do
  if let some s := c.statement then s.closeQuietly
  return { c with statement := none }

def close (c : Cursor) : DriverM Cursor := do
  let c ← c.release
  return if c.state = .isOpen then { c with state := .closed } else c

/-- Passes over the rows before the window the first time, and answers whether there were that
many. -/
def skipOffset (c : Cursor) (s : Statement) : DriverM Bool :=
  if c.skipped then return true else Reading.skipOffset s c.bounds

def fetch (c : Cursor) (s : Statement) : DriverM (Option Value) := do
  if ← c.skipOffset s then
    if c.index < c.bounds.limit then
      match ← s.nextRow with
      | none => return none
      | some row => return some (← Fallible.ending (c.read row))
    else return none
  else return none

/-- One step: a row, the end, or an error, and the cursor after it. Only a row leaves it open. -/
def next (c : Cursor) : DriverM (Option (Except Error Value) × Cursor) := do
  match c.state, c.statement with
  | .isOpen, some s =>
    match ← (c.fetch s).attempt with
    | .ok (some value) => return (some (.ok value), { c with skipped := true, index := c.index + 1 })
    | .ok none => return (none, { ← c.release with state := .consumed })
    | .error e => return (some (.error e), ← c.close)
  | .isOpen, none => return (none, { c with state := .consumed })
  | _, _ => return (none, c)

end Cursor

end SqlMapper
