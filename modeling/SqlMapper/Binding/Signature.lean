import SqlMapper.Binding.Arguments
import SqlMapper.Configuration.Basic

namespace SqlMapper

/-- The shape of a method's results. A grouping has the property it groups by. -/
inductive ReturnShape where
  | void
  | many
  | map (key : String)
  | cursor
  | optional
  | scalar
  deriving DecidableEq

namespace ReturnShape

def name : ReturnShape → String
  | void => "Void"
  | many => "Many"
  | map _ => "Map"
  | cursor => "Cursor"
  | optional => "Optional"
  | scalar => "Scalar"

/-- What is a collection holds many, whatever type it is but void. A map type is a grouping only if
there is a property to group by. -/
def of (collections : CollectionFactory) (mapKey : Option String) (type : DeclaredType) :
    ReturnShape :=
  if type = .void then void
  else if collections.isCollection type then many
  else match type, mapKey with
    | .array _, _ => many
    | .cursor _, _ => cursor
    | .optional _, _ => optional
    | .map _ _, some key => map key
    | _, _ => scalar

def mapKey? : ReturnShape → Option String
  | map key => some key
  | _ => none

end ReturnShape

structure Signature where
  shape : ReturnShape
  returnType : DeclaredType
  boundsIndex : Option Nat
  handlerIndex : Option Nat
  arity : Nat
  names : ParameterNames
  deriving DecidableEq

namespace Signature

def uniqueIndex (m : Method) (form : ParameterForm) : Except BindingFault (Option Nat) :=
  match m.parameters.zipIdx.filter (·.1.form = form) with
  | [] => .ok none
  | [(_, i)] => .ok (some i)
  | _ => .error (.repeatedParameter m.name form.text)

def of (config : Configuration) (c declaring : Contract) (m : Method) :
    Except BindingFault Signature := do
  let type := c.returnType declaring m
  return {
    shape := .of config.collections m.mapKey type
    returnType := type
    boundsIndex := ← uniqueIndex m .bounds
    handlerIndex := ← uniqueIndex m .handler
    arity := m.parameters.length
    names := .ofMethod m config.settings.usesDeclaredNames }

def rowBounds (s : Signature) (arguments : List Argument) : RowBounds :=
  match s.boundsIndex.bind (arguments[·]?) with
  | some (.bounds b) => b
  | _ => .all

end Signature

end SqlMapper
