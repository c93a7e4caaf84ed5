import SqlMapper.Session.State

namespace SqlMapper.Session

/-- A session that opens its connection when it first needs one. -/
def openWith (type : ExecutorType) (autoCommit : Bool) : Session :=
  new type (.overSource autoCommit none) autoCommit

/-- A session of the configured type that does not commit by itself. -/
def openDefault (config : Configuration) : Session :=
  openWith config.settings.executorType false

def openOver (type : ExecutorType) (c : Connection) : DriverM Session := do
  let t ← Transaction.overConnection c
  return new type t t.autoCommit

end SqlMapper.Session
