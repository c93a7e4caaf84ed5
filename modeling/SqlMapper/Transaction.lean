import SqlMapper.Database.Connection

namespace SqlMapper

/-- `hasSource` says that a missing connection can be opened. -/
structure Transaction where
  hasSource : Bool
  connection? : Option Connection
  autoCommit : Bool
  timeout : Option Nat
  deriving DecidableEq

namespace Transaction

def overSource (autoCommit : Bool) (timeout : Option Nat) : Transaction :=
  ⟨true, none, autoCommit, timeout⟩

/-- A transaction on a connection that is already there, in the mode that one is in. The connection
is closed when its mode cannot be read. -/
def overConnection (c : Connection) : DriverM Transaction := do
  let mode ← c.autoCommit.orUndo (Fallible.quietly c.close)
  return ⟨false, some c, mode, none⟩

def openConnection (t : Transaction) : DriverM Connection := do
  if !t.hasSource then throw .noDataSource
  let c ← connect
  let mode ← c.autoCommit
  if mode != t.autoCommit then c.setAutoCommit t.autoCommit
  return c

/-- The connection, and the transaction that holds it from then on. -/
def acquire (t : Transaction) : DriverM (Connection × Transaction) := do
  match t.connection? with
  | some c => return (c, t)
  | none =>
    let c ← t.openConnection
    return (c, { t with connection? := some c })

/-- Does `finish` on a connection that does not commit by itself. -/
def finishWith (t : Transaction) (finish : Connection → DriverM Unit) : DriverM Unit := do
  match t.connection? with
  | none => return
  | some c => unless ← c.autoCommit do finish c

def commit (t : Transaction) : DriverM Unit := t.finishWith Connection.commit

def rollback (t : Transaction) : DriverM Unit := t.finishWith Connection.rollback

def released (t : Transaction) : Transaction := { t with connection? := none }

/-- Closes the connection, if there is one. Afterwards the transaction is `released`, whether or
not closing went well. -/
def closeConnection (t : Transaction) : DriverM Unit := do
  match t.connection? with
  | none => return
  | some c => c.close

end Transaction

end SqlMapper
