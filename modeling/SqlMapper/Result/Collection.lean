import SqlMapper.Error

namespace SqlMapper

structure DeclaredCollection where
  kind : CollectionKind
  items : List Value
  deriving DecidableEq

namespace DeclaredCollection

def empty (kind : CollectionKind) : DeclaredCollection := ⟨kind, []⟩

/-- Appends an item; a set keeps the first of equal items. -/
def add (c : DeclaredCollection) (item : Value) : DeclaredCollection :=
  if c.kind = .set ∧ c.items.any (·.equals item) then c
  else { c with items := c.items ++ [item] }

def addAll (c : DeclaredCollection) (items : List Value) : DeclaredCollection :=
  items.foldl add c

end DeclaredCollection

/-- Tells which declared types are collections, and makes an empty collection for such a type. -/
structure CollectionFactory where
  isCollection : DeclaredType → Bool
  create : DeclaredType → Except Error DeclaredCollection

namespace CollectionFactory

/-- The kind of the collection types, and of those named types that `named` gives one. -/
def kindOf (named : String → Option CollectionKind) : DeclaredType → Option CollectionKind
  | .collection kind _ => some kind
  | .named name => named name
  | _ => none

/-- Takes the types that have a kind for collections of this kind. -/
def naming (named : String → Option CollectionKind) : CollectionFactory where
  isCollection type := (kindOf named type).isSome
  create type :=
    match kindOf named type with
    | some kind => .ok (.empty kind)
    | none => .error (.coercion (.noCollection type))

def standard : CollectionFactory := naming fun _ => none

end CollectionFactory

end SqlMapper
