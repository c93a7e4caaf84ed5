import SqlMapper.NameMap
import SqlMapper.Row
import SqlMapper.Text.Blank

namespace SqlMapper

/-- The answer to one SQL text. `columns` is empty for a text that yields no rows. -/
structure Response where
  columns : List String
  rows : List Row
  updateCount : Option Int
  /-- One row for each execution or batch entry. -/
  generatedKeys : List Row
  outValues : List (Nat × Value)
  executeError : Option String
  prepareError : Option String
  /-- The entry of a batch, counted from zero, that fails. -/
  batchFailure : Option (Nat × String)
  /-- The number of rows after which reading fails. -/
  readFailure : Option (Nat × String)

namespace Response

def empty : Response := ⟨[], [], none, [], [], none, none, none, none⟩

def ofRows (columns : List String) (rows : List (List Value)) : Response :=
  { empty with columns := columns, rows := rows.map (Row.ofColumns columns) }

def ofCount (n : Int) : Response := { empty with updateCount := some n }

def withKeys (r : Response) (column : String) (keys : List Value) : Response :=
  { r with generatedKeys := keys.map fun key => ⟨[(column, key)]⟩ }

end Response

/-- Responses by time and SQL text, the blanks around a text aside. -/
structure Script where
  responses : Nat → NameMap Response

namespace Script

def empty : Script := ⟨fun _ => []⟩

def respond (s : Script) (sql : String) (r : Response) : Script :=
  ⟨fun time => (s.responses time).insert (Text.trimString sql) r⟩

def response (s : Script) (time : Nat) (sql : String) : Response :=
  ((s.responses time).get? (Text.trimString sql)).getD .empty

end Script

/-- The calls that a fault plan can make fail. -/
inductive FaultPoint where
  | connect | readAutoCommit | setAutoCommit | commit | rollback | closeConnection
  | setTimeout | setFetchSize | bind | registerOut | generatedKeys | addBatch | closeStatement
  deriving DecidableEq

def FaultPoint.name : FaultPoint → String
  | connect => "connect"
  | readAutoCommit => "auto_commit"
  | setAutoCommit => "set_auto_commit"
  | commit => "commit"
  | rollback => "rollback"
  | closeConnection => "connection_close"
  | setTimeout => "set_query_timeout"
  | setFetchSize => "set_fetch_size"
  | bind => "bind"
  | registerOut => "register_out_parameter"
  | generatedKeys => "generated_keys"
  | addBatch => "add_batch"
  | closeStatement => "statement_close"

/-- Calls that fail before they reach the database, and key rows given in place of its own. -/
structure FaultPlan where
  reason : Nat → FaultPoint → Option String
  keyRows : Option (List Row)

namespace FaultPlan

def none : FaultPlan := ⟨fun _ _ => Option.none, Option.none⟩

def ofReasons (reasons : NameMap String) (keyRows : Option (List Row)) : FaultPlan :=
  ⟨fun _ point => reasons.get? point.name, keyRows⟩

end FaultPlan

end SqlMapper
