import SqlMapper.Value.Basic

namespace SqlMapper

structure Connection where
  index : Nat
  deriving DecidableEq

structure Statement where
  index : Nat
  deriving DecidableEq

/-- How a statement is created: for literal text given later, from a text with placeholders, or as
a procedure call. -/
inductive StatementForm where
  | plain
  | prepared (sql : String) (returnsKeys : Bool)
  | callable (sql : String)
  deriving DecidableEq

def StatementForm.sql : StatementForm → String
  | plain => ""
  | prepared sql _ => sql
  | callable sql => sql

/-- A call. One that creates something names what it would create. -/
inductive Call where
  | connect (c : Connection)
  | readAutoCommit (c : Connection)
  | setAutoCommit (c : Connection) (mode : Bool)
  | commit (c : Connection)
  | rollback (c : Connection)
  | closeConnection (c : Connection)
  | prepare (c : Connection) (s : Statement) (form : StatementForm)
  | setTimeout (s : Statement) (seconds : Nat)
  | setFetchSize (s : Statement) (rows : Nat)
  | bind (s : Statement) (index : Nat) (value : Value)
  | registerOut (s : Statement) (index : Nat)
  | execute (s : Statement) (sql : String)
  | nextRow (s : Statement)
  | generatedKeys (s : Statement)
  | outParameter (s : Statement) (index : Nat)
  | addBatch (s : Statement) (sql : String)
  | executeBatch (s : Statement) (sql : String) (entries : Nat)
  | clearParameters (s : Statement)
  | closeStatement (s : Statement) (sql : String)
  deriving DecidableEq

/-- How a call went: without any effect, with an effect and an error, or well. -/
inductive CallOutcome where
  | refused | failed | succeeded
  deriving DecidableEq

structure LogEntry where
  call : Call
  outcome : CallOutcome
  deriving DecidableEq

/-- What a database shows of a call. -/
inductive Event where
  | connected
  | autoCommit (mode : Bool)
  | prepared (form : StatementForm)
  | timeout (seconds : Nat)
  | fetchSize (rows : Nat)
  | bound (index : Nat) (value : Value)
  | outRegistered (index : Nat)
  | executed (sql : String)
  | batchAdded (sql : String)
  | batchExecuted (sql : String) (entries : Nat)
  | statementClosed (sql : String)
  | committed
  | rolledBack
  | connectionClosed
  deriving DecidableEq

/-- Reading leaves no event, nor does clearing parameters. -/
def Call.event? : Call → Option Event
  | connect _ => some .connected
  | setAutoCommit _ mode => some (.autoCommit mode)
  | commit _ => some .committed
  | rollback _ => some .rolledBack
  | closeConnection _ => some .connectionClosed
  | prepare _ _ form => some (.prepared form)
  | setTimeout _ seconds => some (.timeout seconds)
  | setFetchSize _ rows => some (.fetchSize rows)
  | bind _ index value => some (.bound index value)
  | registerOut _ index => some (.outRegistered index)
  | execute _ sql => some (.executed sql)
  | addBatch _ sql => some (.batchAdded sql)
  | executeBatch _ sql entries => some (.batchExecuted sql entries)
  | closeStatement _ sql => some (.statementClosed sql)
  | readAutoCommit _ | nextRow _ | generatedKeys _ | outParameter _ _ | clearParameters _ => none

def LogEntry.event? (e : LogEntry) : Option Event :=
  if e.outcome = .refused then none else e.call.event?

end SqlMapper
