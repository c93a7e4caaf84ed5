import SqlMapper.NameMap
import SqlMapper.Value.Binary64

namespace SqlMapper

/-- The fields of an object are in the order of their names. -/
inductive Value where
  | null
  | bool (b : Bool)
  | int (n : Int64)
  | float (x : Binary64)
  | string (s : String)
  | bytes (octets : List UInt8)
  | array (items : List Value)
  | object (fields : List (String × Value))
  deriving Inhabited

namespace Value

def typeName : Value → String
  | null => "Null"
  | bool _ => "Bool"
  | int _ => "Int"
  | float _ => "Float"
  | string _ => "String"
  | bytes _ => "Bytes"
  | array _ => "Array"
  | object _ => "Object"

def isNull : Value → Bool
  | null => true
  | _ => false

def isArray : Value → Bool
  | array _ => true
  | _ => false

def isObject : Value → Bool
  | object _ => true
  | _ => false

def bool? : Value → Option Bool
  | bool b => some b
  | _ => none

def int? : Value → Option Int64
  | int n => some n
  | _ => none

def float? : Value → Option Binary64
  | float x => some x
  | _ => none

def string? : Value → Option String
  | string s => some s
  | _ => none

def items? : Value → Option (List Value)
  | array items => some items
  | _ => none

def fields? : Value → Option (NameMap Value)
  | object fields => some fields
  | _ => none

/-- An object of these fields; of fields with one name the last counts. -/
def ofFields (fields : List (String × Value)) : Value :=
  object (NameMap.ofList fields)

mutual

/-- Equality as callers see it: values of two types are never equal and floats compare as numbers,
so a value that holds a NaN does not equal itself. -/
def equals : Value → Value → Bool
  | null, null => true
  | bool a, bool b => a == b
  | int a, int b => a == b
  | float a, float b => a.equals b
  | string a, string b => a == b
  | bytes a, bytes b => a == b
  | array a, array b => equalItems a b
  | object a, object b => equalFields a b
  | _, _ => false

def equalItems : List Value → List Value → Bool
  | [], [] => true
  | a :: as, b :: bs => a.equals b && equalItems as bs
  | _, _ => false

def equalFields : List (String × Value) → List (String × Value) → Bool
  | [], [] => true
  | (m, a) :: as, (n, b) :: bs => m == n && a.equals b && equalFields as bs
  | _, _ => false

end

mutual

/-- Whether two values are one and the same, a NaN being the same as itself and the zeros two. -/
def identical : Value → Value → Bool
  | null, null => true
  | bool a, bool b => a == b
  | int a, int b => a == b
  | float a, float b => a == b
  | string a, string b => a == b
  | bytes a, bytes b => a == b
  | array a, array b => identicalItems a b
  | object a, object b => identicalFields a b
  | _, _ => false

def identicalItems : List Value → List Value → Bool
  | [], [] => true
  | a :: as, b :: bs => a.identical b && identicalItems as bs
  | _, _ => false

def identicalFields : List (String × Value) → List (String × Value) → Bool
  | [], [] => true
  | (m, a) :: as, (n, b) :: bs => m == n && a.identical b && identicalFields as bs
  | _, _ => false

end

mutual

theorem identical_iff : ∀ v w : Value, v.identical w = true ↔ v = w
  | null, w => by cases w <;> simp [identical]
  | bool a, w => by cases w <;> simp [identical]
  | int a, w => by cases w <;> simp [identical]
  | float a, w => by cases w <;> simp [identical]
  | string a, w => by cases w <;> simp [identical]
  | bytes a, w => by cases w <;> simp [identical]
  | array a, w => by cases w <;> simp [identical, identicalItems_iff a]
  | object a, w => by cases w <;> simp [identical, identicalFields_iff a]

theorem identicalItems_iff : ∀ v w : List Value, identicalItems v w = true ↔ v = w
  | [], w => by cases w <;> simp [identicalItems]
  | a :: as, w => by
    cases w with
    | nil => simp [identicalItems]
    | cons b bs => simp [identicalItems, identical_iff a b, identicalItems_iff as bs]

theorem identicalFields_iff :
    ∀ v w : List (String × Value), identicalFields v w = true ↔ v = w
  | [], w => by cases w <;> simp [identicalFields]
  | (m, a) :: as, w => by
    cases w with
    | nil => simp [identicalFields]
    | cons b bs =>
      simp [identicalFields, identical_iff a b.2, identicalFields_iff as bs, Prod.ext_iff]

end

instance : DecidableEq Value := fun v w =>
  if h : v.identical w then .isTrue ((identical_iff v w).1 h)
  else .isFalse fun e => h ((identical_iff v w).2 e)

end Value

end SqlMapper
