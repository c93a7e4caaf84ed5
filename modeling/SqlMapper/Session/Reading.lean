import SqlMapper.Session.State

namespace SqlMapper.Reading

def skip (s : Statement) : Nat → DriverM Bool
  | 0 => return true
  | n + 1 => do
    match ← s.nextRow with
    | none => return false
    | some _ => skip s n

/-- How often to ask for a row when at most `n` are wanted: the last asking may find none. -/
def steps (s : Statement) (n : Nat) : DriverM Nat :=
  return min n ((← s.rowsLeft) + 1)

def skipOffset (s : Statement) (bounds : RowBounds) : DriverM Bool := do
  skip s (← steps s bounds.offset)

/-- The values of the next rows, in order, with `n` askings. -/
def collect (s : Statement) (read : Row → Except Error Value) : Nat → DriverM (List Value)
  | 0 => return []
  | n + 1 => do
    match ← s.nextRow with
    | none => return []
    | some row =>
      let value ← Fallible.ending (read row)
      return value :: (← collect s read n)

def hand (h : RowHandler) (context : ResultContext) (value : Value) : SessionM ResultContext := do
  let handling := h.handle (← Fallible.state).handled (context.next value)
  Fallible.change fun t => { t with handled := t.handled ++ [handling] }
  return handling.left

def deliver (s : Statement) (read : Row → Except Error Value) (h : RowHandler) :
    ResultContext → Nat → SessionM Unit
  | _, 0 => return
  | context, n + 1 => do
    match ← s.nextRow with
    | none => return
    | some row =>
      let value ← Fallible.ending (read row)
      let left ← hand h context value
      unless left.stopped do deliver s read h left n

/-- Reads the rows of the window. With a callback they all go to it and none is answered. -/
def window (s : Statement) (read : Row → Except Error Value) (bounds : RowBounds)
    (handler : Option RowHandler) : SessionM (List Value) := do
  if ← skipOffset s bounds then
    let n ← steps s bounds.limit
    match handler with
    | none => collect s read n
    | some h =>
      deliver s read h .initial n
      return []
  else return []

end SqlMapper.Reading
