import SqlMapper.Value.Basic

namespace SqlMapper

/-- A JSON document, with members in name order. Its numbers are the integers and the finite floats. -/
inductive Json where
  | null
  | bool (b : Bool)
  | integer (n : Int)
  | float (x : Binary64.Finite)
  | string (s : String)
  | array (items : List Json)
  | object (members : List (String × Json))
  deriving Inhabited

/-- An integer as a value: a float when it needs more than 64 bits. -/
def Value.ofInteger (n : Int) : Value :=
  if Int64.minValue.toInt ≤ n ∧ n ≤ Int64.maxValue.toInt then .int (.ofInt n)
  else .float (.ofInt n)

namespace Json

mutual

def toValue : Json → Value
  | null => .null
  | bool b => .bool b
  | integer n => .ofInteger n
  | float x => .float x.val
  | string s => .string s
  | array items => .array (itemsToValues items)
  | object members => .object (membersToFields members)

def itemsToValues : List Json → List Value
  | [] => []
  | j :: js => j.toValue :: itemsToValues js

def membersToFields : List (String × Json) → List (String × Value)
  | [] => []
  | (n, j) :: js => (n, j.toValue) :: membersToFields js

end

mutual

/-- JSON has neither non-finite numbers nor bytes: they become null and an array of integers. -/
def ofValue : Value → Json
  | .null => null
  | .bool b => bool b
  | .int n => integer n.toInt
  | .float x => if h : x.isFinite then float ⟨x, h⟩ else null
  | .string s => string s
  | .bytes octets => array (octets.map fun o => integer o.toNat)
  | .array items => array (itemsOfValues items)
  | .object fields => object (membersOfFields fields)

def itemsOfValues : List Value → List Json
  | [] => []
  | v :: vs => ofValue v :: itemsOfValues vs

def membersOfFields : List (String × Value) → List (String × Json)
  | [] => []
  | (n, v) :: vs => (n, ofValue v) :: membersOfFields vs

end

end Json

end SqlMapper
