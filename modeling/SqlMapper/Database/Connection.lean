import SqlMapper.Database.Basic

namespace SqlMapper

open Database

def Connection.opened (mode : Bool) (refusal : Option Error) (db : Database) :
    Except Error Connection × Database :=
  let c : Connection := ⟨db.connections.length⟩
  perform (.connect c) refusal
    (fun db => (.ok c, { db with connections := db.connections ++ [mode] })) db

/-- A connection in auto-commit mode from the data source. -/
def connect : DriverM Connection :=
  .of fun db => Connection.opened true (db.fault .connect) db

namespace Connection

/-- A connection in a mode of the caller's choice, apart from the data source. -/
def openWith (mode : Bool) : DriverM Connection :=
  .of (opened mode none)

def autoCommit (c : Connection) : DriverM Bool :=
  .of fun db => perform (.readAutoCommit c) (db.fault .readAutoCommit)
    (fun db => (.ok (db.autoCommit c), db)) db

def setAutoCommit (c : Connection) (mode : Bool) : DriverM Unit :=
  .of fun db => perform (.setAutoCommit c mode) (db.fault .setAutoCommit)
    (fun db => (.ok (), { db with connections := db.connections.set c.index mode })) db

def commit (c : Connection) : DriverM Unit :=
  .of fun db => perform (.commit c) (db.fault .commit) (fun db => (.ok (), db)) db

def rollback (c : Connection) : DriverM Unit :=
  .of fun db => perform (.rollback c) (db.fault .rollback) (fun db => (.ok (), db)) db

def close (c : Connection) : DriverM Unit :=
  .of fun db => perform (.closeConnection c) (db.fault .closeConnection) (fun db => (.ok (), db)) db

def prepare (c : Connection) (form : StatementForm) : DriverM Statement :=
  .of fun db =>
    let s : Statement := ⟨db.statements.length⟩
    perform (.prepare c s form) ((db.response form.sql).prepareError.map .statement)
      (fun db => (.ok s, { db with statements := db.statements ++ [.created form.sql] })) db

end Connection

end SqlMapper
