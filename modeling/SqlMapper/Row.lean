import SqlMapper.Parameter.Basic
import SqlMapper.Text.Case

namespace SqlMapper

structure Row where
  cells : List (String × Value)
  deriving DecidableEq

namespace Row

def ofColumns (columns : List String) (values : List Value) : Row :=
  ⟨columns.zip values⟩

def columns (r : Row) : List String := r.cells.map Prod.fst

def values (r : Row) : List Value := r.cells.map Prod.snd

/-- The first cell under that label, the case of ASCII letters aside. -/
def get? (r : Row) (column : String) : Option Value :=
  (r.cells.find? fun cell => Text.sameLetters cell.1 column).map Prod.snd

end Row

/-- The rows a query asks for: none of the first `offset`, and at most `limit` after those. -/
structure RowBounds where
  offset : Nat
  limit : Nat
  deriving DecidableEq

namespace RowBounds

/-- The limit that counts as none: the largest count of 64 bits. -/
def unlimited : Nat := 0xffffffffffffffff

def all : RowBounds := ⟨0, unlimited⟩

def isAll (b : RowBounds) : Bool := b == all

end RowBounds

/-- What became of one batched statement: the parameter objects sent with it, in the order they
were queued, and their row counts. -/
structure BatchResult where
  command : String
  sql : String
  parameters : List Parameter
  counts : List Int
  deriving DecidableEq

end SqlMapper
