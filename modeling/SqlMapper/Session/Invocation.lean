import SqlMapper.Session.State

namespace SqlMapper

/-- A command with the SQL it has for one parameter object and the rows wanted of it. -/
structure Invocation where
  command : Command
  bound : BoundSql
  bounds : RowBounds

namespace Invocation

def of (command : Command) (parameter : Parameter) (bounds : RowBounds) :
    Except Error Invocation :=
  return ⟨command, ← command.source.bind parameter, bounds⟩

def form (i : Invocation) : StatementForm :=
  match i.command.statementKind with
  | .statement => .plain
  | .prepared => .prepared i.bound.sql i.command.keys.isGenerated
  | .callable => .callable i.bound.sql

def text (i : Invocation) : Option String :=
  match i.command.statementKind with
  | .statement => some i.bound.sql
  | _ => none

def inputs (i : Invocation) : List (Nat × String) :=
  match i.command.statementKind with
  | .statement => []
  | _ => i.bound.inputs

def outputs (i : Invocation) : List (Nat × String) :=
  match i.command.statementKind with
  | .callable => i.bound.outputs
  | _ => []

/-- The smaller of the command's timeout, or else the default one, and the transaction's. -/
def timeout (i : Invocation) (settings : Settings) (transactionTimeout : Option Nat) : Option Nat :=
  match i.command.timeout <|> settings.timeout, transactionTimeout with
  | some a, some b => some (min a b)
  | a, b => a <|> b

def fetchSize (i : Invocation) (settings : Settings) : Option Nat :=
  i.command.fetchSize <|> settings.fetchSize

def applySettings (i : Invocation) (settings : Settings) (transactionTimeout : Option Nat)
    (s : Statement) : DriverM Unit := do
  if let some seconds := i.timeout settings transactionTimeout then s.setTimeout seconds
  if let some rows := i.fetchSize settings then s.setFetchSize rows

def prepare (i : Invocation) (settings : Settings) (transactionTimeout : Option Nat)
    (c : Connection) : DriverM Statement := do
  let s ← c.prepare i.form
  (i.applySettings settings transactionTimeout s).orUndo s.closeQuietly
  return s

/-- Registers the outputs, then binds the inputs, each in order. -/
def parameterize (i : Invocation) (parameter : Parameter) (s : Statement) : DriverM Unit := do
  i.outputs.forM fun (index, _) => s.registerOut index
  i.inputs.forM fun (index, property) => do
    s.bind index (← Fallible.ending (parameter.lookup property))

def execute (i : Invocation) (s : Statement) : DriverM Unit :=
  discard (s.execute i.text)

def addBatch (i : Invocation) (s : Statement) : DriverM Unit :=
  s.addBatch i.text

def freshStatement (settings : Settings) (i : Invocation) : SessionM Statement := do
  let timeout := (← SessionM.session).transaction.timeout
  let c ← SessionM.connection
  let s ← i.prepare settings timeout c
  let p ← SessionM.parameter
  (i.parameterize p s).orUndo s.closeQuietly
  return s

def takeOutputs (i : Invocation) (s : Statement) : SessionM Unit :=
  i.outputs.forM fun (index, property) => do
    let value ← s.outParameter index
    SessionM.onParameter (Parameter.write property value)

end Invocation

end SqlMapper
