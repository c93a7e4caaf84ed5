import SqlMapper.Configuration.Basic
import SqlMapper.Database.Statement
import SqlMapper.Result.Handler
import SqlMapper.Session.Cache
import SqlMapper.Transaction

namespace SqlMapper

/-- Mutations waiting on one statement: a batch entry of it for each parameter object. -/
structure QueuedStatement where
  statement : Statement
  command : Command
  sql : String
  parameters : List Parameter

/-- How a session keeps statements: not at all, one for each SQL text, or in a queue. -/
inductive Strategy where
  | simple
  | reuse (statements : NameMap Statement)
  | batch (queue : List QueuedStatement)

def Strategy.ofType : ExecutorType → Strategy
  | .simple => simple
  | .reuse => reuse []
  | .batch => batch []

def Strategy.executorType : Strategy → ExecutorType
  | simple => .simple
  | reuse _ => .reuse
  | batch _ => .batch

/-- A session over one transaction. It is dirty from a mutation to the next commit or rollback. -/
structure Session where
  transaction : Transaction
  strategy : Strategy
  cache : LocalCache
  closed : Bool
  autoCommit : Bool
  dirty : Bool

def Session.new (type : ExecutorType) (transaction : Transaction) (autoCommit : Bool) : Session :=
  ⟨transaction, .ofType type, .empty, false, autoCommit, false⟩

/-- What an operation of a session works on: the database, the session, the caller's parameter
object, and the calls so far of the row callback. -/
structure Scope where
  database : Database
  session : Session
  parameter : Parameter
  handled : List Handling

abbrev SessionM := Fallible Scope

namespace SessionM

variable {α : Type}

def onDatabase (x : DriverM α) : SessionM α :=
  x.within Scope.database fun db s => { s with database := db }

instance : MonadLift DriverM SessionM := ⟨onDatabase⟩

def session : SessionM Session := return (← Fallible.state).session

def parameter : SessionM Parameter := return (← Fallible.state).parameter

def changeSession (f : Session → Session) : SessionM Unit :=
  Fallible.change fun s => { s with session := f s.session }

def setParameter (p : Parameter) : SessionM Unit :=
  Fallible.change fun s => { s with parameter := p }

def onParameter (x : Fallible Parameter α) : SessionM α :=
  x.within Scope.parameter fun p s => { s with parameter := p }

/-- Runs `x` with `p` for the parameter object. The caller's stays as it is, and what `x` made of
`p` is answered. -/
def withParameter (p : Parameter) (x : SessionM α) : SessionM (α × Parameter) := do
  let own ← parameter
  setParameter p
  let r ← x.attempt
  let p' ← parameter
  setParameter own
  let a ← Fallible.ending r
  return (a, p')

def connection : SessionM Connection := do
  let (c, t) ← (← session).transaction.acquire
  changeSession ({ · with transaction := t })
  return c

def clearCache : SessionM Unit := changeSession ({ · with cache := .empty })

def ensureOpen : SessionM Unit := do
  if (← session).closed then throw (.executor .closed)

end SessionM

end SqlMapper
