import SqlMapper.Value.Basic

namespace SqlMapper

/-- The parameter object of one call: nothing, a lone argument as it is, or arguments by name. -/
inductive Parameter where
  | absent
  | single (value : Value)
  | named (arguments : List (String × Value))
  deriving DecidableEq, Inhabited

namespace Parameter

/-- A lone array becomes reachable under the two names that stand for it. -/
def wrapCollection : Parameter → Parameter
  | single (.array items) => named (NameMap.ofList [("collection", .array items), ("list", .array items)])
  | other => other

def namedValue? (name : String) : Parameter → Option Value
  | named arguments => NameMap.get? name arguments
  | _ => none

end Parameter

end SqlMapper
