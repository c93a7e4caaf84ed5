import SqlMapper.Contract.Basic
import SqlMapper.Result.Handler

namespace SqlMapper

inductive Argument where
  | value (v : Value)
  | bounds (b : RowBounds)
  | handler (h : RowHandler)

/-- The positions and names of the value parameters of a method, and whether one has an alias. -/
structure ParameterNames where
  names : List (Nat × String)
  hasAlias : Bool
  deriving DecidableEq

namespace ParameterNames

def valueParameters (m : Method) : List (Nat × ParameterDecl) :=
  (m.parameters.zipIdx.filter fun (p, _) => p.form != .bounds && p.form != .handler).map
    fun (p, i) => (i, p)

/-- A value parameter goes by its alias, else by its declared name or its position among the value
parameters. -/
def ofMethod (m : Method) (usesDeclaredNames : Bool) : ParameterNames where
  names := (valueParameters m).zipIdx.map fun ((i, p), n) =>
    (i, p.givenName.getD (if usesDeclaredNames then p.name else Nat.repr n))
  hasAlias := (valueParameters m).any (·.2.givenName.isSome)

def valueAt (arguments : List Argument) (index : Nat) : Except Error Value :=
  match arguments[index]? with
  | some (.value v) => .ok v
  | _ => .error (.binding (.valueExpected index))

/-- The name that the `n`-th value parameter, counted from zero, has besides its own. -/
def genericName (n : Nat) : String := "param" ++ Nat.repr (n + 1)

/-- Binds the parameters from the `n`-th on by name, and by generic name if that is no parameter's
own. -/
def bindFrom (p : ParameterNames) (arguments : List Argument) :
    Nat → List (Nat × String) → NameMap Value → Except Error (NameMap Value)
  | _, [], m => .ok m
  | n, (index, name) :: rest, m => do
    let v ← valueAt arguments index
    let m := m.insert name v
    let m := if p.names.any (·.2 == genericName n) then m else m.insert (genericName n) v
    bindFrom p arguments (n + 1) rest m

/-- The parameter object of a call. A lone value without an alias is passed as it is. -/
def pack (p : ParameterNames) (arguments : List Argument) : Except Error Parameter :=
  match p.names, p.hasAlias with
  | [], _ => .ok .absent
  | [(index, _)], false => return .single (← valueAt arguments index)
  | names, _ => return .named (← bindFrom p arguments 0 names [])

def packedValue (parameter : Parameter) (name : String) : Option Value :=
  match parameter with
  | .single v => some v
  | other => other.namedValue? name

/-- Puts a value into an argument that is one, unless it holds an equal value. -/
def update (v : Value) : Argument → Argument
  | .value old => if old.equals v then .value old else .value v
  | other => other

def writeBack (p : ParameterNames) (parameter : Parameter) (arguments : List Argument) :
    List Argument :=
  p.names.foldl (fun arguments (index, name) =>
    match packedValue parameter name with
    | some v => arguments.modify index (update v)
    | none => arguments) arguments

end ParameterNames

end SqlMapper
