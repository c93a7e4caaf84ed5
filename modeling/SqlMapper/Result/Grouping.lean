import SqlMapper.Error
import SqlMapper.Value.Path

namespace SqlMapper

/-- Values under pairwise unequal keys, by first insertion. -/
structure Grouping where
  entries : List (Value × Value)
  deriving DecidableEq

namespace Grouping

def empty : Grouping := ⟨[]⟩

def insertInto (key value : Value) : List (Value × Value) → List (Value × Value)
  | [] => [(key, value)]
  | (k, v) :: rest => if k.equals key then (k, value) :: rest else (k, v) :: insertInto key value rest

/-- Replaces the value under an equal key; a new key comes last. -/
def insert (g : Grouping) (key value : Value) : Grouping :=
  ⟨insertInto key value g.entries⟩

def get? (g : Grouping) (key : Value) : Option Value :=
  (g.entries.find? fun e => e.1.equals key).map Prod.snd

def keys (g : Grouping) : List Value := g.entries.map Prod.fst

/-- Adds rows under the property each has at `key`; a row without it is an error. -/
def addRows (key : String) (g : Grouping) : List Value → Except Error Grouping
  | [] => .ok g
  | row :: rest =>
    match row.property key with
    | some k => addRows key (g.insert k row) rest
    | none => .error (.noSuchProperty key row.typeName)

def ofRows (key : String) (rows : List Value) : Except Error Grouping :=
  empty.addRows key rows

end Grouping

end SqlMapper
