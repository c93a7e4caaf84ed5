import SqlMapper.Configuration.Registry
import SqlMapper.DeclaredType

namespace SqlMapper

inductive ParameterForm where
  | value (type : DeclaredType)
  | bounds
  | handler
  deriving DecidableEq

def ParameterForm.text : ParameterForm → String
  | value type => type.text
  | bounds => "RowBounds"
  | handler => "RowHandler"

structure ParameterDecl where
  name : String
  givenName : Option String
  form : ParameterForm
  deriving DecidableEq

structure Method where
  name : String
  returns : DeclaredType
  parameters : List ParameterDecl
  /-- The property that groups a result of map type. -/
  mapKey : Option String
  /-- Sends what is queued if there is no command for the method. -/
  flushes : Bool
  deriving DecidableEq

/-- A contract with its parents, each with the type arguments supplied to it. -/
inductive Contract where
  | mk (name : String) (typeParams : List String)
      (parents : List (Contract × List DeclaredType)) (methods : List Method)

abbrev Extension := Contract × List DeclaredType

namespace Contract

def name : Contract → String
  | mk name _ _ _ => name

def typeParams : Contract → List String
  | mk _ typeParams _ _ => typeParams

def parents : Contract → List Extension
  | mk _ _ parents _ => parents

def methods : Contract → List Method
  | mk _ _ _ methods => methods

mutual

/-- Whether the contract has this name or extends one that has, at any distance. -/
def isSubtypeOf (ancestor : String) : Contract → Bool
  | mk name _ parents _ => name == ancestor || anySubtypeOf ancestor parents

def anySubtypeOf (ancestor : String) : List (Contract × List DeclaredType) → Bool
  | [] => false
  | (parent, _) :: rest => parent.isSubtypeOf ancestor || anySubtypeOf ancestor rest

end

def addMethods (c : Contract) (seen : List (Contract × Method)) : List (Contract × Method) :=
  c.methods.foldl (fun seen m => if seen.any (·.2.name == m.name) then seen else seen ++ [(c, m)])
    seen

mutual

def collectMethods (seen : List (Contract × Method)) : Contract → List (Contract × Method)
  | mk name typeParams parents methods =>
    collectInherited (addMethods (mk name typeParams parents methods) seen) parents

def collectInherited (seen : List (Contract × Method)) :
    List (Contract × List DeclaredType) → List (Contract × Method)
  | [] => seen
  | (parent, _) :: rest => collectInherited (parent.collectMethods seen) rest

end

/-- The methods callable through the contract, each with the contract that declares it. A method
hides those of its name that come later, depth first. -/
def visibleMethods (c : Contract) : List (Contract × Method) := c.collectMethods []

mutual

def pathTo (ancestor : String) : Contract → Option (List (Contract × List DeclaredType))
  | mk name _ parents _ => if name = ancestor then some [] else pathThrough ancestor parents

def pathThrough (ancestor : String) :
    List (Contract × List DeclaredType) → Option (List (Contract × List DeclaredType))
  | [] => none
  | (parent, arguments) :: rest =>
    match parent.pathTo ancestor with
    | some path => some ((parent, arguments) :: path)
    | none => pathThrough ancestor rest

end

mutual

/-- The command of the first contract that has one for the method, depth first from this one along
the ways to the declaring contract. -/
def findCommand (registry : Registry) (method declaring : String) : Contract → Option Command
  | mk name _ parents _ =>
    match registry.find? (name ++ "." ++ method) with
    | some command => some command
    | none =>
      if name = declaring then none else findInherited registry method declaring parents

def findInherited (registry : Registry) (method declaring : String) :
    List (Contract × List DeclaredType) → Option Command
  | [] => none
  | (parent, _) :: rest =>
    match
      if parent.isSubtypeOf declaring then parent.findCommand registry method declaring else none with
    | some command => some command
    | none => findInherited registry method declaring rest

end

/-- The type argument that an extension supplies for a type parameter of its parent. -/
def argumentOf (e : Extension) (param : String) : Option DeclaredType :=
  (e.1.typeParams.zip e.2).lookup param

/-- The return type of a method as seen through `c`: type arguments go in from the declaring
contract up, and what is left open erases. -/
def returnType (c declaring : Contract) (m : Method) : DeclaredType :=
  let path := (c.pathTo declaring.name).getD []
  (path.reverse.foldl (fun type e => type.substitute (argumentOf e)) m.returns).eraseParams

end Contract

/-- The command that a method runs; a method that only flushes needs none. -/
structure CommandRef where
  id : Option String
  kind : CommandKind
  deriving DecidableEq

namespace CommandRef

def display (c : CommandRef) : String := c.id.getD "FLUSH"

def resolve (registry : Registry) (c declaring : Contract) (m : Method) :
    Except BindingFault CommandRef :=
  match c.findCommand registry m.name declaring.name with
  | some command =>
    if command.kind = .unknown then .error (.unknownKind command.id)
    else .ok ⟨some command.id, command.kind⟩
  | none =>
    if m.flushes then .ok ⟨none, .flush⟩ else .error (.commandMissing c.name m.name)

end CommandRef

end SqlMapper
