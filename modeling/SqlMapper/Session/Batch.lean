import SqlMapper.Session.Keys

namespace SqlMapper.Batch

/-- What a queued mutation answers in place of a row count. -/
def queuedCount : Int := -2147482646

def addParameter (q : QueuedStatement) (p : Parameter) : QueuedStatement :=
  { q with parameters := q.parameters ++ [p] }

def closeAll (queue : List QueuedStatement) : DriverM Unit :=
  queue.forM fun q => q.statement.closeQuietly

def setQueue (queue : List QueuedStatement) : SessionM Unit :=
  SessionM.changeSession ({ · with strategy := .batch queue })

/-- Adds an entry to the last statement, if that has the same command and text, or else queues a
statement with one entry. -/
def enqueue (settings : Settings) (queue : List QueuedStatement) (i : Invocation) :
    SessionM Unit := do
  let p ← SessionM.parameter
  match queue.getLast?.filter fun q => q.command.id = i.command.id ∧ q.sql = i.bound.sql with
  | some last =>
    i.parameterize p last.statement
    i.addBatch last.statement
    setQueue (queue.dropLast ++ [addParameter last p])
  | none =>
    let s ← i.freshStatement settings
    SessionM.onDatabase ((i.addBatch s).orUndo s.closeQuietly)
    setQueue (queue ++ [⟨s, i.command, i.bound.sql, [p]⟩])

/-- The error of a queued statement at a position. The database may say how many entries went
through; if only the keys failed, all did. -/
def partialFailure (index : Nat) (q : QueuedStatement) (counts : List Int)
    (successful : List BatchResult) : Error → Error
  | .batchUpdate counts reason =>
    .partialBatch ⟨index, q.command.id, q.sql, counts, successful, reason⟩
  | e => .partialBatch ⟨index, q.command.id, q.sql, counts, successful, e.message⟩

variable (config : Configuration)

def execute (q : QueuedStatement) : SessionM (Except (Error × List Int) BatchResult) := do
  match ← q.statement.executeBatch.attempt with
  | .error e => return .error (e, [])
  | .ok counts =>
    match ← (Keys.afterBatch config q.command q.statement q.parameters counts).attempt with
    | .error e => return .error (e, counts)
    | .ok parameters => return .ok ⟨q.command.id, q.sql, parameters, counts⟩

/-- Sends queued statements in order and closes each; after a failure the others are closed unsent. -/
def send (successful : List BatchResult) : List QueuedStatement → SessionM (List BatchResult)
  | [] => return successful
  | q :: rest => do
    match ← (execute config q).thenAlways q.statement.closeQuietly with
    | .ok result => send (successful ++ [result]) rest
    | .error (e, counts) =>
      closeAll rest
      throw (partialFailure successful.length q counts successful e)

def flush (queue : List QueuedStatement) : SessionM (List BatchResult) := do
  setQueue []
  send config [] queue

def abandon (queue : List QueuedStatement) : SessionM Unit := do
  setQueue []
  closeAll queue

end SqlMapper.Batch
