import SqlMapper.Database.Basic

namespace SqlMapper.Statement

open Database

/-- A call that leaves the statement as it is. -/
def quiet (call : Call) (refusal : Option Error) (db : Database) : Except Error Unit × Database :=
  perform call refusal (fun db => (.ok (), db)) db

def setTimeout (s : Statement) (seconds : Nat) : DriverM Unit :=
  .of fun db => quiet (.setTimeout s seconds) (db.fault .setTimeout) db

def setFetchSize (s : Statement) (rows : Nat) : DriverM Unit :=
  .of fun db => quiet (.setFetchSize s rows) (db.fault .setFetchSize) db

def bind (s : Statement) (index : Nat) (value : Value) : DriverM Unit :=
  .of fun db => quiet (.bind s index value) (db.fault .bind <|> db.closedError s) db

def registerOut (s : Statement) (index : Nat) : DriverM Unit :=
  .of fun db => quiet (.registerOut s index) (db.fault .registerOut) db

def clearParameters (s : Statement) : DriverM Unit :=
  .of fun db => quiet (.clearParameters s) none db

/-- Runs the statement's text, or `text` if there is one, which then stays the statement's.
Answers whether the text yields rows. -/
def execute (s : Statement) (text : Option String) : DriverM Bool :=
  .of fun db =>
    let sql := text.getD (db.statement s).sql
    perform (.execute s sql) (db.closedError s)
      (fun db =>
        let r := db.response sql
        match r.executeError with
        | some reason => (.error (.statement reason), db.change s ({ · with sql := sql }))
        | none => (.ok (!r.columns.isEmpty), db.change s fun t => { t with sql := sql }.answered r))
      db

def updateCount (s : Statement) : DriverM (Option Int) :=
  .of fun db => (.ok (db.statement s).updateCount, db)

/-- Takes the next row. Reading fails once the scripted number of rows has been read. -/
def nextRow (s : Statement) : DriverM (Option Row) :=
  .of fun db => perform (.nextRow s) (db.closedError s)
    (fun db =>
      let t := db.statement s
      match t.readFailure.filter (·.1 = t.rowsRead) with
      | some (_, reason) => (.error (.statement reason), db)
      | none =>
        match t.rows with
        | [] => (.ok none, db)
        | row :: rest =>
          (.ok (some row), db.change s ({ · with rows := rest, rowsRead := t.rowsRead + 1 })))
    db

def rowsLeft (s : Statement) : DriverM Nat :=
  .of fun db => (.ok (db.statement s).rows.length, db)

def generatedKeys (s : Statement) : DriverM (List Row) :=
  .of fun db => perform (.generatedKeys s) (db.fault .generatedKeys)
    (fun db => (.ok (db.faults.keyRows.getD (db.statement s).generatedKeys), db)) db

def outParameter (s : Statement) (index : Nat) : DriverM Value :=
  .of fun db => perform (.outParameter s index) none
    (fun db =>
      match (db.statement s).outValues.lookup index with
      | some value => (.ok value, db)
      | none =>
        (.error (.statement ("no OUT value scripted for parameter " ++ Nat.repr index)), db))
    db

def addBatch (s : Statement) (text : Option String) : DriverM Unit :=
  .of fun db =>
    let sql := text.getD (db.statement s).sql
    perform (.addBatch s sql) (db.fault .addBatch <|> db.closedError s)
      (fun db => (.ok (), db.change s fun t => { t with batch := t.batch ++ [sql] })) db

/-- The answer to a batch of so many entries: a count for each, up to a scripted failure. -/
def batchCounts (r : Response) (entries : Nat) : Except Error (List Int) :=
  match r.executeError, r.batchFailure.filter (·.1 < entries) with
  | some reason, _ => .error (.statement reason)
  | none, some (entry, reason) =>
    .error (.batchUpdate (.replicate entry (r.updateCount.getD 1)) reason)
  | none, none => .ok (.replicate entries (r.updateCount.getD 1))

def executeBatch (s : Statement) : DriverM (List Int) :=
  .of fun db =>
    let entries := (db.statement s).batch
    let sql := entries.head?.getD (db.statement s).sql
    perform (.executeBatch s sql entries.length) (db.closedError s)
      (fun db =>
        let r := db.response sql
        match batchCounts r entries.length with
        | .error e => (.error e, db.change s ({ · with batch := [] }))
        | .ok counts =>
          (.ok counts, db.change s ({ · with batch := [], generatedKeys := r.generatedKeys })))
      db

def isClosed (s : Statement) : DriverM Bool :=
  .of fun db => (.ok (db.statement s).closed, db)

/-- Closing a second time does nothing. -/
def close (s : Statement) : DriverM Unit :=
  .of fun db =>
    let t := db.statement s
    match db.fault .closeStatement with
    | none =>
      if t.closed then (.ok (), db)
      else perform (.closeStatement s t.sql) none
        (fun db => (.ok (), db.change s ({ · with closed := true }))) db
    | some e => perform (.closeStatement s t.sql) (some e) (fun db => (.ok (), db)) db

/-- Closes the statement unless it is closed; a failure to do so is of no consequence. -/
def closeQuietly (s : Statement) : DriverM Unit := do
  unless ← s.isClosed do
    Fallible.quietly s.close

end SqlMapper.Statement
