import SqlMapper.Fallible
import SqlMapper.Value.Path

namespace SqlMapper

def NameMap.argument (arguments : NameMap Value) (name : String) : Except Error Value :=
  match arguments.get? name with
  | some value => .ok value
  | none => .error (.parameterNotFound name arguments.names)

/-- The first segment of a property and, after a dot, the rest of it. -/
def splitHead (property : String) : String × Option String :=
  let (head, tail) := Text.splitOnce '.' property.toList
  (String.ofList head, tail.map String.ofList)

namespace Parameter

/-- The value that a property stands for. No parameter answers null and a lone value that is no
object answers itself, whatever the property; named arguments answer by the first segment. -/
def lookup (property : String) : Parameter → Except Error Value
  | absent => .ok .null
  | single (.object fields) =>
    match (Value.object fields).property property with
    | some value => .ok value
    | none => .error (.noSuchProperty property (Value.object fields).typeName)
  | single value => .ok value
  | named arguments =>
    match splitHead property with
    | (head, none) => NameMap.argument arguments head
    | (head, some path) => do
      let value ← NameMap.argument arguments head
      match value.property path with
      | some found => .ok found
      | none => .error (.noSuchProperty property value.typeName)

/-- Writes a property, creating its last segment at most. A bare name binds an argument. -/
def assign (property : String) (x : Value) : Parameter → Except Error Parameter
  | absent => .error (.noSuchProperty property "null")
  | single target =>
    match target.setProperty property x with
    | some updated => .ok (single updated)
    | none => .error (.noSuchProperty property target.typeName)
  | named arguments =>
    match splitHead property with
    | (head, none) => .ok (named (NameMap.insert head x arguments))
    | (head, some path) => do
      let target ← NameMap.argument arguments head
      match target.setProperty path x with
      | some updated => .ok (named (NameMap.insert head updated arguments))
      | none => .error (.noSuchProperty property target.typeName)

/-- Assigns in place; a failed assignment changes nothing. -/
def write (property : String) (x : Value) : Fallible Parameter Unit := fun p =>
  match p.assign property x with
  | .ok updated => (.ok (), updated)
  | .error e => (.error e, p)

end Parameter

end SqlMapper
