import SqlMapper.Value.Basic

namespace SqlMapper

/-- What a callback sees: the current row and how many rows it has been handed, this one included. -/
structure ResultContext where
  result : Value
  count : Nat
  stopped : Bool
  deriving DecidableEq

namespace ResultContext

def initial : ResultContext := ⟨.null, 0, false⟩

def next (c : ResultContext) (row : Value) : ResultContext :=
  { c with result := row, count := c.count + 1 }

def taken (c : ResultContext) : ResultContext := { c with result := .null }

def stop (c : ResultContext) : ResultContext := { c with stopped := true }

end ResultContext

structure Reaction where
  takes : Bool
  stops : Bool
  deriving DecidableEq

/-- One call of a callback: the context it was handed and the context it left behind. -/
structure Handling where
  given : ResultContext
  left : ResultContext
  deriving DecidableEq

/-- A callback. What it does with a row depends on its earlier calls, oldest first. -/
structure RowHandler where
  react : List Handling → ResultContext → Reaction

namespace RowHandler

def handle (h : RowHandler) (past : List Handling) (c : ResultContext) : Handling :=
  let reaction := h.react past c
  let c' := if reaction.takes then c.taken else c
  ⟨c, if reaction.stops then c'.stop else c'⟩

end RowHandler

end SqlMapper
