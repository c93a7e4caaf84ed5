import SqlMapper.Parameter.Property

namespace SqlMapper

inductive ParameterMode where
  | input | output | inOut
  deriving DecidableEq

namespace ParameterMode

def isInput : ParameterMode → Bool
  | output => false
  | _ => true

def isOutput : ParameterMode → Bool
  | input => false
  | _ => true

end ParameterMode

structure Placeholder where
  property : String
  mode : ParameterMode
  deriving DecidableEq

/-- SQL text in which the `n`-th `?` stands for the `n`-th placeholder. -/
structure BoundSql where
  sql : String
  placeholders : List Placeholder
  deriving DecidableEq

namespace BoundSql

/-- The placeholders with their positions, which count from one. -/
def numbered (b : BoundSql) : List (Nat × Placeholder) :=
  b.placeholders.zipIdx 1 |>.map fun (p, i) => (i, p)

def inputs (b : BoundSql) : List (Nat × String) :=
  (b.numbered.filter (·.2.mode.isInput)).map fun (i, p) => (i, p.property)

def outputs (b : BoundSql) : List (Nat × String) :=
  (b.numbered.filter (·.2.mode.isOutput)).map fun (i, p) => (i, p.property)

end BoundSql

/-- Where a command's SQL comes from: a compiled template, or a text made for each call. -/
inductive SqlSource where
  | template (bound : BoundSql)
  | dynamic (build : Parameter → Except Error BoundSql)

def SqlSource.bind (parameter : Parameter) : SqlSource → Except Error BoundSql
  | template bound => .ok bound
  | dynamic build => build parameter

end SqlMapper
