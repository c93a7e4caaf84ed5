import SqlMapper.Cursor
import SqlMapper.Session.Batch
import SqlMapper.Session.Reuse

namespace SqlMapper.SessionM

variable (config : Configuration)

def invocation (command : Command) (bounds : RowBounds) : SessionM Invocation := do
  Fallible.ending (Invocation.of command (← parameter) bounds)

def execute (i : Invocation) (s : Statement) : SessionM Int := do
  i.execute s
  let count := (← s.updateCount).getD 0
  i.takeOutputs s
  Keys.after config i.command s
  return count

/-- Runs a mutation, or queues it. Keys that are selected beforehand come first. -/
def mutate (command : Command) : SessionM Int := do
  ensureOpen
  clearCache
  Keys.before config command
  let i ← invocation command .all
  match (← session).strategy with
  | .simple =>
    let s ← i.freshStatement config.settings
    (execute config i s).thenAlways s.closeQuietly
  | .reuse statements =>
    let s ← Reuse.statement config.settings statements i
    execute config i s
  | .batch queue =>
    Batch.enqueue config.settings queue i
    return Batch.queuedCount

def freshQuery (command : Command) (bounds : RowBounds) (handler : Option RowHandler) :
    SessionM (List Value) := do
  let i ← invocation command bounds
  let s ← i.freshStatement config.settings
  (i.query config.mapper s handler).thenAlways s.closeQuietly

/-- Runs a query on the database; what is queued is sent before. -/
def runQuery (command : Command) (bounds : RowBounds) (handler : Option RowHandler) :
    SessionM (List Value) := do
  match (← session).strategy with
  | .simple => freshQuery config command bounds handler
  | .reuse statements =>
    let i ← invocation command bounds
    let s ← Reuse.statement config.settings statements i
    i.query config.mapper s handler
  | .batch queue =>
    discard (Batch.flush config queue)
    freshQuery config command bounds handler

def endQuery : SessionM Unit := do
  if config.settings.cacheScope = .statement then clearCache

def cachedQuery (command : Command) (bounds : RowBounds) : SessionM (List Value) := do
  let p ← parameter
  let bound ← Fallible.ending (command.source.bind p)
  let key ← Fallible.ending (CacheKey.of command bounds bound p)
  match (← session).cache.find? key with
  | some rows => return rows
  | none =>
    let rows ← runQuery config command bounds none
    changeSession fun s => { s with cache := s.cache.put key rows }
    endQuery config
    return rows

/-- Runs a query. Procedure calls have outputs to be taken and callbacks have to be called, so
neither goes by the cache. -/
def query (command : Command) (bounds : RowBounds) (handler : Option RowHandler) :
    SessionM (List Value) := do
  ensureOpen
  if command.flushesCache then clearCache
  if handler.isNone && command.statementKind != .callable then
    cachedQuery config command bounds
  else
    let rows ← runQuery config command bounds handler
    endQuery config
    return rows

/-- Executes a query on a statement of its own, which the cursor takes over. -/
def freshCursor (command : Command) (bounds : RowBounds) : SessionM Cursor := do
  let i ← invocation command bounds
  let s ← i.freshStatement config.settings
  onDatabase ((i.execute s).orUndo s.closeQuietly)
  return .ofStatement s (config.mapper · command.resultType) bounds

def openCursor (command : Command) (bounds : RowBounds) : SessionM Cursor := do
  ensureOpen
  if command.flushesCache then clearCache
  if let .batch queue := (← session).strategy then discard (Batch.flush config queue)
  freshCursor config command bounds

def flush : SessionM (List BatchResult) := do
  match (← session).strategy with
  | .simple => return []
  | .reuse statements =>
    Reuse.closeAll statements
    return []
  | .batch queue => Batch.flush config queue

def abandon : SessionM Unit := do
  match (← session).strategy with
  | .simple => return
  | .reuse statements => Reuse.closeAll statements
  | .batch queue => Batch.abandon queue

end SqlMapper.SessionM
