import SqlMapper.Proofs.Agrees
import SqlMapper.Proofs.Database.Apart
import SqlMapper.Transaction

namespace SqlMapper

open Fallible

/-- The creation and the closing of statements is not looked at. -/
def Event.isShown : Event → Bool
  | prepared _ | statementClosed _ => false
  | _ => true

def LogEntry.shown? (e : LogEntry) : Option Event := e.event?.filter Event.isShown

/-- What there is to see of calls. -/
def LogEntry.shown (calls : List LogEntry) : List Event := calls.filterMap shown?

/-- The answers do not depend on the time, and no call is made to fail. -/
structure Database.Fixed (db : Database) : Prop where
  script : ∀ time time', db.script.responses time = db.script.responses time'
  faults : ∀ time point, db.faults.reason time point = none

namespace Database

variable {db db' : Database}

theorem Fixed.fault (h : db.Fixed) (point : FaultPoint) : db.fault point = none := by
  rw [Database.fault, h.faults]
  rfl

theorem Fixed.response (h : db.Fixed) (sql : String) :
    db.response sql = db.script.response 0 sql := by
  rw [Database.response, Script.response, h.script _ 0]
  rfl

theorem shown_record (db : Database) (call : Call) (o : CallOutcome) :
    LogEntry.shown (db.record call o).log =
      LogEntry.shown db.log ++ (LogEntry.shown? ⟨call, o⟩).toList := by
  rw [LogEntry.shown, LogEntry.shown, record, List.filterMap_append]
  rcases h : LogEntry.shown? ⟨call, o⟩ with _ | ev <;> simp [h]

/-- What a relation between two databases has to be closed under: calls on both that show the same
and change no statement. -/
structure Steady (R : Database → Database → Prop) : Prop where
  fixed {db db' : Database} (h : R db db') : db.Fixed ∧ db'.Fixed
  connections {db db' : Database} (h : R db db') : db'.connections = db.connections
  record {db db' : Database} {call call' : Call} {o : CallOutcome} (h : R db db')
    (hshown : LogEntry.shown? ⟨call', o⟩ = LogEntry.shown? ⟨call, o⟩) :
    R (db.record call o) (db'.record call' o)
  reconnect {db db' : Database} (h : R db db') (l : List Bool) :
    R { db with connections := l } { db' with connections := l }

end Database

namespace Fallible

variable {α β : Type} {P E R : Database → Database → Prop} {Q : α → β → Database → Database → Prop}

theorem Agrees.perform {call call' : Database → Call} {refusal refusal' : Database → Option Error}
    {act : Database → Database → Except Error α × Database}
    {act' : Database → Database → Except Error β × Database}
    (hrefusal : ∀ db db', P db db' → refusal' db' = refusal db)
    (hrefused : ∀ db db', P db db' → refusal db ≠ none →
      E (db.record (call db) .refused) (db'.record (call' db') .refused))
    (hact : ∀ db db', P db db' → refusal db = none →
      Ends (fun a b d d' => Q a b (d.record (call db) .succeeded) (d'.record (call' db') .succeeded))
        (fun d d' => E (d.record (call db) .failed) (d'.record (call' db') .failed))
        (act db db) (act' db' db')) :
    Agrees P (.of fun db => Database.perform (call db) (refusal db) (act db) db)
      (.of fun db => Database.perform (call' db) (refusal' db) (act' db) db) Q E := by
  intro db db' h
  rw [outcome_of, outcome_of, hrefusal db db' h]
  unfold Database.perform
  have hrefused := hrefused db db' h
  have hact := hact db db' h
  rcases hr : refusal db with _ | e <;> rw [hr] at hrefused hact
  · have hact := hact rfl
    rcases hx : act db db with ⟨r, d⟩
    rcases hy : act' db' db' with ⟨r', d'⟩
    rw [hx, hy] at hact
    cases hact with
    | ok h => exact .ok h
    | error h => exact .error h
  · exact .error (hrefused nofun)

theorem Matches.quiet (hR : Database.Steady R) {call call' : Call}
    {refusal refusal' : Database → Option Error} (r r' : Database → Except Error α)
    (hrefusal : ∀ db db', R db db' → refusal' db' = refusal db)
    (hr : ∀ db db', R db db' → r' db' = r db)
    (hshown : ∀ o, LogEntry.shown? ⟨call', o⟩ = LogEntry.shown? ⟨call, o⟩) :
    Matches R (.of fun db => Database.perform call (refusal db) (fun db => (r db, db)) db)
      (.of fun db => Database.perform call' (refusal' db) (fun db => (r' db, db)) db) := by
  refine Agrees.perform hrefusal (fun db db' h _ => hR.record h (hshown _)) fun db db' h _ => ?_
  rw [hr db db' h]
  rcases r db with e | a
  · exact .error (hR.record h (hshown _))
  · exact .ok ⟨rfl, hR.record h (hshown _)⟩

theorem Matches.silent (hR : Database.Steady R) {call call' : Call}
    {refusal refusal' : Database → Option Error}
    (hrefusal : ∀ db db', R db db' → refusal' db' = refusal db)
    (hshown : ∀ o, LogEntry.shown? ⟨call', o⟩ = LogEntry.shown? ⟨call, o⟩) :
    Matches R (.of fun db => Database.perform call (refusal db) (fun db => (.ok (), db)) db)
      (.of fun db => Database.perform call' (refusal' db) (fun db => (.ok (), db)) db) :=
  .quiet hR (fun _ => .ok ()) (fun _ => .ok ()) hrefusal (fun _ _ _ => rfl) hshown

end Fallible

namespace Database.Steady

variable {R : Database → Database → Prop} (hR : Steady R)
include hR

theorem fault {db db' : Database} (h : R db db') (point : FaultPoint) :
    db'.fault point = db.fault point := by
  rw [(hR.fixed h).1.fault, (hR.fixed h).2.fault]

theorem connect : Matches R connect connect := by
  have hlength : ∀ {db db' : Database}, R db db' →
      db'.connections.length = db.connections.length := fun h => by rw [hR.connections h]
  unfold SqlMapper.connect Connection.opened
  refine Agrees.perform (P := R) (E := R) (fun db db' h => hR.fault h _)
    (fun db db' h _ => hR.record h rfl) fun db db' h _ => ?_
  rw [hlength h]
  refine .ok ⟨rfl, hR.record ?_ rfl⟩
  rw [hR.connections h]
  exact hR.reconnect h _

variable (c : Connection)

theorem autoCommit : Matches R c.autoCommit c.autoCommit :=
  .quiet hR (fun db => .ok (db.autoCommit c)) (fun db => .ok (db.autoCommit c))
    (fun _ _ h => hR.fault h _)
    (fun _ _ h => by rw [Database.autoCommit, Database.autoCommit, hR.connections h]) fun _ => rfl

theorem setAutoCommit (mode : Bool) : Matches R (c.setAutoCommit mode) (c.setAutoCommit mode) := by
  refine Agrees.perform (fun db db' h => hR.fault h _) (fun db db' h _ => hR.record h rfl)
    fun db db' h _ => .ok ⟨rfl, hR.record ?_ rfl⟩
  rw [hR.connections h]
  exact hR.reconnect h _

theorem commit : Matches R c.commit c.commit :=
  .silent hR (fun _ _ h => hR.fault h _) fun _ => rfl

theorem rollback : Matches R c.rollback c.rollback :=
  .silent hR (fun _ _ h => hR.fault h _) fun _ => rfl

theorem close : Matches R c.close c.close :=
  .silent hR (fun _ _ h => hR.fault h _) fun _ => rfl

variable (t : Transaction)

theorem acquire : Agrees R t.acquire t.acquire
    (fun a b db db' => b = a ∧ a.2.connection? ≠ none ∧ R db db') R := by
  unfold Transaction.acquire
  split
  · next c hc => exact .pure fun _ _ h => ⟨rfl, by simp [hc], h⟩
  · have hopen : Matches R t.openConnection t.openConnection := by
      unfold Transaction.openConnection
      split
      · exact .throw_bind _ _ _
      · refine hR.connect.bind fun c => (hR.autoCommit c).bind fun mode => ?_
        split
        · exact (hR.setAutoCommit c _).bind fun _ => .pure _
        · exact .pure _
    exact hopen.bind_agrees (fun _ _ h => h) fun c => .pure fun _ _ h => ⟨rfl, nofun, h⟩

theorem finishWith {finish : Connection → DriverM Unit}
    (hfinish : ∀ c, Matches R (finish c) (finish c)) :
    Matches R (t.finishWith finish) (t.finishWith finish) := by
  unfold Transaction.finishWith
  split
  · exact .pure _
  · next c _ =>
    refine (hR.autoCommit c).bind fun mode => ?_
    split
    · exact .pure _
    · exact hfinish c

theorem closeConnection : Matches R t.closeConnection t.closeConnection := by
  unfold Transaction.closeConnection
  split
  · exact .pure _
  · next c _ => exact hR.close c

end Database.Steady

end SqlMapper
