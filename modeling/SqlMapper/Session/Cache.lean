import SqlMapper.Command

namespace SqlMapper

/-- What makes two queries the same: the command, the window of rows, the text, and the values of
the input placeholders in order. -/
structure CacheKey where
  command : String
  bounds : RowBounds
  sql : String
  inputs : List Value
  deriving DecidableEq

def CacheKey.of (command : Command) (bounds : RowBounds) (bound : BoundSql)
    (parameter : Parameter) : Except Error CacheKey := do
  let inputs ← bound.inputs.mapM fun (_, property) => parameter.lookup property
  return ⟨command.id, bounds, bound.sql, inputs⟩

/-- Remembered rows, the latest first. -/
structure LocalCache where
  entries : List (CacheKey × List Value)

namespace LocalCache

def empty : LocalCache := ⟨[]⟩

def find? (c : LocalCache) (key : CacheKey) : Option (List Value) := c.entries.lookup key

def put (c : LocalCache) (key : CacheKey) (rows : List Value) : LocalCache :=
  ⟨(key, rows) :: c.entries⟩

end LocalCache

end SqlMapper
