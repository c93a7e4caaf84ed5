import SqlMapper.Result.Grouping
import SqlMapper.Session.Command

namespace SqlMapper.Session

open SessionM

variable (config : Configuration)

/-- Runs `x` with a lone array under the names that stand for it; what `x` writes is lost then. -/
def wrapped {α : Type} (x : SessionM α) : SessionM α := do
  match ← parameter with
  | .single (.array items) =>
    let (a, _) ← withParameter (Parameter.single (.array items)).wrapCollection x
    return a
  | _ => x

def command (id : String) : SessionM Command := Fallible.ending (config.registry.get id)

def mutate (id : String) : SessionM Int := do
  let c ← command config id
  changeSession ({ · with dirty := true })
  wrapped (SessionM.mutate config c)

def query (id : String) (bounds : RowBounds) (handler : Option RowHandler) :
    SessionM (List Value) := do
  let c ← command config id
  wrapped (SessionM.query config c bounds handler)

def selectOne (id : String) : SessionM (Option Value) := do
  match ← query config id .all none with
  | [] => return none
  | [row] => return some row
  | rows => throw (.tooManyResults rows.length)

def selectList (id : String) (bounds : RowBounds) : SessionM (List Value) :=
  query config id bounds none

def selectMap (id key : String) (bounds : RowBounds) : SessionM Grouping := do
  Fallible.ending (Grouping.ofRows key (← query config id bounds none))

def selectWithHandler (id : String) (bounds : RowBounds) (handler : RowHandler) :
    SessionM Unit :=
  discard (query config id bounds (some handler))

def selectCursor (id : String) (bounds : RowBounds) : SessionM Cursor := do
  let c ← command config id
  wrapped (openCursor config c bounds)

def flushStatements : SessionM (List BatchResult) := do
  ensureOpen
  flush config

def mustFinish (s : Session) (force : Bool) : Bool :=
  (!s.autoCommit && s.dirty) || force

def commit (force : Bool) : SessionM Unit := do
  let s ← session
  if s.closed then throw (.executor .commitAfterClose)
  clearCache
  discard (flush config)
  if s.mustFinish force then (← session).transaction.commit
  changeSession ({ · with dirty := false })

/-- Gives up what is queued and rolls back. A closed session has nothing to roll back. -/
def rollback (force : Bool) : SessionM Unit := do
  let s ← session
  unless s.closed do
    clearCache
    abandon
    if s.mustFinish force then (← session).transaction.rollback
  changeSession ({ · with dirty := false })

/-- Rolls back what is undecided and closes the connection. Failures are of no consequence. -/
def close : SessionM Unit := do
  unless (← session).closed do
    (rollback false).quietly
    let t := (← session).transaction
    changeSession ({ · with transaction := t.released })
    onDatabase t.closeConnection.quietly
    changeSession ({ · with cache := .empty, closed := true })
  changeSession ({ · with dirty := false })

def clearCache : SessionM Unit := do
  unless (← session).closed do SessionM.clearCache

inductive Operation where
  | selectOne (id : String)
  | selectList (id : String) (bounds : RowBounds)
  | selectMap (id key : String) (bounds : RowBounds)
  | selectCursor (id : String) (bounds : RowBounds)
  | selectWithHandler (id : String) (bounds : RowBounds) (handler : RowHandler)
  | insert (id : String)
  | update (id : String)
  | delete (id : String)
  | flushStatements
  | commit (force : Bool)
  | rollback (force : Bool)
  | clearCache
  | close

inductive Answer where
  | row (value : Option Value)
  | rows (values : List Value)
  | groups (rows : Grouping)
  | cursor (c : Cursor)
  | count (n : Int)
  | batches (results : List BatchResult)
  | done

def Operation.perform : Operation → SessionM Answer
  | selectOne id => return .row (← Session.selectOne config id)
  | selectList id bounds => return .rows (← Session.selectList config id bounds)
  | selectMap id key bounds => return .groups (← Session.selectMap config id key bounds)
  | selectCursor id bounds => return .cursor (← Session.selectCursor config id bounds)
  | selectWithHandler id bounds handler => do
    Session.selectWithHandler config id bounds handler
    return .done
  | insert id | update id | delete id => return .count (← Session.mutate config id)
  | flushStatements => return .batches (← Session.flushStatements config)
  | commit force => do
    Session.commit config force
    return .done
  | rollback force => do
    Session.rollback force
    return .done
  | clearCache => do
    Session.clearCache
    return .done
  | close => do
    Session.close
    return .done

end SqlMapper.Session
