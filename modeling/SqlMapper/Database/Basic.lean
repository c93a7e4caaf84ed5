import SqlMapper.Database.Call
import SqlMapper.Database.Script
import SqlMapper.Fallible

namespace SqlMapper

/-- A statement as the database holds it. `batch` has the texts of the queued entries. -/
structure StatementState where
  sql : String
  rows : List Row
  rowsRead : Nat
  readFailure : Option (Nat × String)
  updateCount : Option Int
  generatedKeys : List Row
  outValues : List (Nat × Value)
  batch : List String
  closed : Bool

namespace StatementState

def created (sql : String) : StatementState := ⟨sql, [], 0, none, none, [], [], [], false⟩

def answered (s : StatementState) (r : Response) : StatementState :=
  { s with
    rows := r.rows
    rowsRead := 0
    readFailure := r.readFailure
    updateCount := r.updateCount
    generatedKeys := r.generatedKeys
    outValues := r.outValues }

end StatementState

/-- Connections by their auto-commit modes, statements, and the log of calls, each oldest first. -/
structure Database where
  script : Script
  faults : FaultPlan
  connections : List Bool
  statements : List StatementState
  log : List LogEntry

abbrev DriverM := Fallible Database

namespace Database

def ofScript (script : Script) : Database := ⟨script, .none, [], [], []⟩

/-- A statement that was never created is as good as closed. -/
def statement (db : Database) (s : Statement) : StatementState :=
  db.statements[s.index]?.getD { StatementState.created "" with closed := true }

def change (db : Database) (s : Statement) (f : StatementState → StatementState) : Database :=
  { db with statements := db.statements.modify s.index f }

def autoCommit (db : Database) (c : Connection) : Bool :=
  db.connections[c.index]?.getD true

def record (db : Database) (call : Call) (outcome : CallOutcome) : Database :=
  { db with log := db.log ++ [⟨call, outcome⟩] }

def events (db : Database) : List Event :=
  db.log.filterMap LogEntry.event?

def openStatements (db : Database) : Nat :=
  db.statements.countP fun s => !s.closed

/-- Makes a call unless there is a reason to refuse it, and logs how it went. -/
def perform {α : Type} (call : Call) (refusal : Option Error)
    (act : Database → Except Error α × Database) (db : Database) : Except Error α × Database :=
  match refusal with
  | some e => (.error e, db.record call .refused)
  | none =>
    match act db with
    | (.ok a, db') => (.ok a, db'.record call .succeeded)
    | (.error e, db') => (.error e, db'.record call .failed)

def fault (db : Database) (point : FaultPoint) : Option Error :=
  (db.faults.reason db.log.length point).map .statement

def response (db : Database) (sql : String) : Response :=
  db.script.response db.log.length sql

/-- A closed statement refuses most calls. -/
def closedError (db : Database) (s : Statement) : Option Error :=
  if (db.statement s).closed then some (.statement "statement is closed") else none

end Database

end SqlMapper
