namespace SqlMapper

inductive PrimitiveKind where
  | boolean | byte | short | int | long | float | double | char
  deriving DecidableEq

namespace PrimitiveKind

def all : List PrimitiveKind := [boolean, byte, short, int, long, float, double, char]

def name : PrimitiveKind → String
  | boolean => "boolean"
  | byte => "byte"
  | short => "short"
  | int => "int"
  | long => "long"
  | float => "float"
  | double => "double"
  | char => "char"

def named? (s : String) : Option PrimitiveKind := all.find? (·.name == s)

def wrapperName : PrimitiveKind → String
  | boolean => "Boolean"
  | byte => "Byte"
  | short => "Short"
  | int => "Int"
  | long => "Long"
  | float => "Float"
  | double => "Double"
  | char => "Char"

def isIntegral : PrimitiveKind → Bool
  | byte | short | int | long => true
  | _ => false

end PrimitiveKind

inductive CollectionKind where
  | iterable | collection | list | set | deque
  deriving DecidableEq

namespace CollectionKind

def all : List CollectionKind := [iterable, collection, list, set, deque]

def name : CollectionKind → String
  | iterable => "Iterable"
  | collection => "Collection"
  | list => "List"
  | set => "Set"
  | deque => "Deque"

def named? (s : String) : Option CollectionKind := all.find? (·.name == s)

/-- Whether a plain list is already a collection of this kind. -/
def acceptsList : CollectionKind → Bool
  | iterable | collection | list => true
  | _ => false

end CollectionKind

/-- A type in a contract's signatures. `param` refers to a type parameter of the contract. -/
inductive DeclaredType where
  | void
  | primitive (kind : PrimitiveKind)
  | boxed (kind : PrimitiveKind)
  | string
  | any
  | named (name : String)
  | array (element : DeclaredType)
  | collection (kind : CollectionKind) (element : DeclaredType)
  | map (key value : DeclaredType)
  | cursor (element : DeclaredType)
  | optional (inner : DeclaredType)
  | param (name : String)
  deriving DecidableEq, Inhabited

namespace DeclaredType

def text : DeclaredType → String
  | void => "void"
  | primitive kind => kind.name
  | boxed kind => kind.wrapperName
  | string => "String"
  | any => "Object"
  | named name => name
  | array element => element.text ++ "[]"
  | collection kind element => kind.name ++ "<" ++ element.text ++ ">"
  | map key value => "Map<" ++ key.text ++ ", " ++ value.text ++ ">"
  | cursor element => "Cursor<" ++ element.text ++ ">"
  | optional inner => "Optional<" ++ inner.text ++ ">"
  | param name => name

def isPrimitive : DeclaredType → Bool
  | primitive _ => true
  | _ => false

def scalarKind : DeclaredType → Option PrimitiveKind
  | primitive kind | boxed kind => some kind
  | _ => none

def substitute (types : String → Option DeclaredType) : DeclaredType → DeclaredType
  | param name => (types name).getD (param name)
  | array element => array (element.substitute types)
  | collection kind element => collection kind (element.substitute types)
  | map key value => map (key.substitute types) (value.substitute types)
  | cursor element => cursor (element.substitute types)
  | optional inner => optional (inner.substitute types)
  | other => other

def eraseParams : DeclaredType → DeclaredType :=
  substitute fun _ => some any

end DeclaredType

end SqlMapper
