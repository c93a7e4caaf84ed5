import SqlMapper.Text.Split
import SqlMapper.Value.Basic

namespace SqlMapper

/-- The names along a dotted path; the empty path is the one empty name. -/
def segments (path : String) : List String :=
  (Text.split '.' path.toList).map String.ofList

namespace Value

def get? : Value → List String → Option Value
  | v, [] => some v
  | object fields, name :: rest => (NameMap.get? name fields).bind (·.get? rest)
  | _, _ :: _ => none

/-- Replaces what the names reach; all but the last of them have to be there already. -/
def set? : Value → List String → Value → Option Value
  | object fields, [name], x => some (object (NameMap.insert name x fields))
  | object fields, name :: rest, x =>
    match NameMap.get? name fields with
    | none => none
    | some child => (child.set? rest x).map fun c => object (NameMap.insert name c fields)
  | _, _, _ => none

def property (v : Value) (path : String) : Option Value :=
  v.get? (segments path)

def setProperty (v : Value) (path : String) (x : Value) : Option Value :=
  v.set? (segments path) x

@[simp] theorem get?_nil (v : Value) : v.get? [] = some v := by
  cases v <;> rfl

@[simp] theorem get?_object_cons (fields : NameMap Value) (name : String) (rest : List String) :
    (object fields).get? (name :: rest) = (NameMap.get? name fields).bind (·.get? rest) := rfl

@[simp] theorem set?_nil (v x : Value) : v.set? [] x = none := by
  cases v <;> rfl

end Value

end SqlMapper
