import SqlMapper.Proofs.Batch.Reading
import SqlMapper.Proofs.Transaction.Closing
import SqlMapper.Proofs.Transaction.Ending
import SqlMapper.Proofs.Transaction.Opening

namespace SqlMapper

open Fallible

namespace Session

/-- Why a closed session does not run a command, if it is registered. -/
def closedFault (config : Configuration) (id : String) : Error :=
  match config.registry.find? id with
  | some _ => .executor .closed
  | none => .commandNotFound id

/-- What an operation of a closed session comes to. -/
def Operation.onceClosed (config : Configuration) : Operation → Except Error Answer
  | selectOne id | selectList id _ | selectMap id _ _ | selectCursor id _
  | selectWithHandler id _ _ | insert id | update id | delete id => .error (closedFault config id)
  | flushStatements => .error (.executor .closed)
  | commit _ => .error (.executor .commitAfterClose)
  | rollback _ | clearCache | close => .ok .done

example : ExecutorFault.closed.reason = "executor was closed" := rfl

variable {config : Configuration} {s : Scope}

theorem eq_closedFault {α : Type} {x : Except Error α} {id : String}
    (hmissing : config.registry.find? id = none → x = .error (.commandNotFound id))
    (hfound : ∀ c, config.registry.find? id = some c → x = .error (.executor .closed)) :
    x = .error (closedFault config id) := by
  unfold closedFault
  cases hc : config.registry.find? id with
  | none => exact hmissing hc
  | some c => exact hfound c hc

theorem query_fault_of_closed (h : s.session.closed = true) (id : String) (bounds : RowBounds)
    (handler : Option RowHandler) :
    ((query config id bounds handler).outcome s).1 = .error (closedFault config id) := by
  apply eq_closedFault
  · intro hc
    rw [query_of_missing hc]
  · intro c hc
    obtain ⟨p, hq⟩ := query_of_closed hc h bounds handler
    rw [hq]

theorem mutate_fault_of_closed (h : s.session.closed = true) (id : String) :
    ((mutate config id).outcome s).1 = .error (closedFault config id) := by
  apply eq_closedFault
  · intro hc
    rw [mutate_of_missing hc]
  · intro c hc
    obtain ⟨p, hm⟩ := mutate_of_closed hc h
    rw [hm]

theorem selectCursor_fault_of_closed (h : s.session.closed = true) (id : String)
    (bounds : RowBounds) :
    ((selectCursor config id bounds).outcome s).1 = .error (closedFault config id) := by
  apply eq_closedFault
  · intro hc
    rw [selectCursor_of_missing hc]
  · intro c hc
    obtain ⟨p, hs⟩ := selectCursor_of_closed hc h bounds
    rw [hs]

theorem perform_onceClosed (config : Configuration) (h : s.session.closed = true)
    (op : Operation) : ((op.perform config).outcome s).1 = op.onceClosed config := by
  cases op with
  | selectOne id | selectList id bounds | selectMap id key bounds
  | selectWithHandler id bounds handler =>
    exact (perform_query config rfl s).error _ (query_fault_of_closed h _ _ _)
  | insert id | update id | delete id =>
    rw [perform_mutation config rfl, mutate_fault_of_closed h]
    rfl
  | selectCursor id bounds =>
    rw [perform_selectCursor, selectCursor_fault_of_closed h]
    rfl
  | flushStatements =>
    rw [perform_flushStatements, flushStatements_of_closed h]
    rfl
  | commit force =>
    rw [perform_commit, commit_of_closed h]
    rfl
  | rollback force =>
    rw [perform_rollback, rollback_of_closed h]
    rfl
  | clearCache =>
    rw [perform_clearCache, clearCache_of_closed h]
    rfl
  | close =>
    rw [perform_close, close_of_closed h]
    rfl

theorem finishing_rollback_log {α : Type} (must : Bool) {x : Except Error α × Scope} {a : α}
    (hx : x.1 = .ok a) :
    ∃ calls, (finishing must Transaction.rollback x).2.database.log = x.2.database.log ++ calls ∧
      (if must = true then x.2.session.transaction.RollsBack calls else calls = []) ∧
      (finishing must Transaction.rollback x).2.session.transaction = x.2.session.transaction := by
  obtain ⟨_ | b, t⟩ := x
  · cases hx
  · cases must with
    | false => exact ⟨[], (List.append_nil _).symm, rfl, rfl⟩
    | true =>
      obtain ⟨calls, hlog, hcalls⟩ := t.session.transaction.rollback_log t.database
      unfold finishing
      dsimp only
      rw [if_pos rfl]
      rcases hout : t.session.transaction.rollback.outcome t.database with ⟨e | _, db⟩ <;>
        rw [hout] at hlog <;> exact ⟨calls, hlog, hcalls, rfl⟩

/-- Of the calls that close a session: those that close what its strategy keeps, each statement once,
those that roll back what is undecided, and the one that closes the connection, if there is one. -/
structure Closing (u : Scope) (released undone closed : List LogEntry) : Prop where
  released : released.map LogEntry.call =
    Statement.closings u.database u.session.strategy.statements
  undone : if u.session.mustFinish false = true then u.session.transaction.RollsBack undone
    else undone = []
  closed : closed.map LogEntry.call =
    u.session.transaction.connection?.toList.map Call.closeConnection

theorem close_log (hopen : s.session.closed = false)
    (h : s.database.InHand s.session.strategy.statements) :
    ∃ released undone closed, (close.outcome s).2.database.log =
      s.database.log ++ (released ++ undone ++ closed) ∧ Closing s released undone closed := by
  obtain ⟨released, hlog, hreleased, htransaction⟩ :=
    SessionM.abandon_log (u := s.withCache .empty) h
  obtain ⟨undone, hundoneLog, hundone, hkept⟩ := finishing_rollback_log
    (s.session.mustFinish false) (SessionM.abandon_ok (s.withCache .empty))
  rw [htransaction] at hundone hkept
  rw [close_of_open hopen, rollback_of_open hopen]
  obtain ⟨closed, hclosedLog, hclosed⟩ := Transaction.closeConnection_calls
    (finishing (s.session.mustFinish false) Transaction.rollback
      (SessionM.abandon.outcome (s.withCache .empty))).2.session.transaction
    (finishing (s.session.mustFinish false) Transaction.rollback
      (SessionM.abandon.outcome (s.withCache .empty))).2.database
  rw [hkept] at hclosed
  refine ⟨released, undone, closed, ?_, hreleased, hundone, hclosed⟩
  rw [left]
  dsimp only
  rw [hclosedLog, hundoneLog, hlog]
  simp only [List.append_assoc]
  rfl

end Session

namespace Run

variable {config : Configuration} {start w : World} {past older newer : List Turn} {t u : Turn}

theorem closed_before (hr : Run config start past w) (hpast : past = older ++ t :: newer)
    (hcloses : t.Closes) (hu : u ∈ newer) :
    ∃ (w' : World) (step : Step), u = w'.turn config step ∧ w'.session.closed = true := by
  obtain ⟨between, rest, rfl⟩ := List.append_of_mem hu
  have hsplit : past = (older ++ t :: between) ++ u :: rest := by rw [hpast]; simp
  obtain ⟨w', step, hrun, rfl⟩ := hr.split hsplit
  exact ⟨w', step, rfl, hrun.closed_of_closes (by simp) hcloses⟩

/-- In a session that has been closed nothing is called any more. -/
theorem ended_of_closed {w : World} (hclosed : w.session.closed = true) {step : Step}
    {op : Session.Operation} {p : Parameter} (hstep : (w.turn config step).step = .perform op p) :
    (w.turn config step).calls = [] ∧
      (w.turn config step).after.database = (w.turn config step).before.database ∧
      (w.turn config step).result = some (op.onceClosed config) := by
  rw [World.turn_step] at hstep
  subst hstep
  obtain ⟨d, -, hdatabase⟩ := w.turn_of_closed config op p hclosed
  refine ⟨World.calls_of_log ?_, ?_, ?_⟩
  · rw [hdatabase, List.append_nil]
  · rw [hdatabase, World.turn_before]
  · exact congrArg some (Session.perform_onceClosed config (s := w.scope p) hclosed op)

end Run

namespace World

variable {config : Configuration} {w : World}

theorem result_of_close (w : World) (p : Parameter) :
    (w.turn config (.perform .close p)).result = some (.ok .done) := by
  have hperform := congrArg Prod.fst (Session.perform_close config (w.scope p))
  have hok : (Session.close.outcome (w.scope p)).1 = .ok () := by
    cases h : w.session.closed with
    | true => rw [Session.close_of_closed (s := w.scope p) h]
    | false => rw [Session.close_of_open (s := w.scope p) h]
  rw [hok] at hperform
  exact congrArg some hperform

theorem calls_of_close (config : Configuration) (hopen : w.session.closed = false)
    (h : w.database.InHand w.session.strategy.statements) (p : Parameter) :
    ∃ released undone closed,
      (w.turn config (.perform .close p)).calls = released ++ undone ++ closed ∧
      Session.Closing (w.scope p) released undone closed := by
  obtain ⟨released, undone, closed, hlog, hclosing⟩ := Session.close_log (s := w.scope p) hopen h
  have hdatabase := congrArg Prod.snd (Session.perform_close config (w.scope p))
  refine ⟨released, undone, closed, calls_of_log ?_, hclosing⟩
  exact (congrArg (fun s => s.database.log) hdatabase).trans hlog

end World

namespace Run

variable {config : Configuration} {db : Database} {type : ExecutorType} {tr : Transaction}
  {autoCommit : Bool} {past older newer : List Turn} {t : Turn} {w : World}

theorem closesOnce (hheld : ∀ c, tr.connection? = some c → c.index < db.connections.length)
    (hr : Run config (.opened db type tr autoCommit) past w) :
    w.Balanced (fun tr _ db' => ∃ calls, ClosesOnce db calls tr.connection? db') type :=
  hr.balanced (ClosesOnce.lasting db) (.opened ⟨_, .start hheld⟩ type autoCommit)

theorem closings_le_one (hheld : ∀ c, tr.connection? = some c → c.index < db.connections.length)
    (hr : Run config (.opened db type tr autoCommit) past w) (c : Connection) :
    c.closings (past.flatMap Turn.calls) ≤ 1 := by
  obtain ⟨calls, h⟩ := (hr.closesOnce hheld).tends.holding.holds
  obtain rfl := hr.calls_eq h.log
  exact h.once c

/-- A session that has been closed is at an end. Closing answers well. No operation after it makes a
call, and each is refused, except for a rollback, for giving up the cache, and for closing again. When
the session was open, closing it closed first what its strategy kept, then rolled back what was
undecided, and at last attempted to close the connection of its transaction, whatever had become of
the other calls. That connection is closed once in the run. -/
theorem session_ended (hheld : ∀ c, tr.connection? = some c → c.index < db.connections.length)
    (hr : Run config (.opened db type tr autoCommit) past w)
    (hpast : past = older ++ t :: newer) (hcloses : t.Closes) :
    t.result = some (.ok .done) ∧
    (∀ u ∈ newer, ∀ op p, u.step = .perform op p →
      u.calls = [] ∧ u.after.database = u.before.database ∧
        u.result = some (op.onceClosed config)) ∧
    (t.before.session.closed = false →
      t.after.session.transaction.connection? = none ∧
      (∃ p released undone closed, t.calls = released ++ undone ++ closed ∧
        Session.Closing (t.before.scope p) released undone closed) ∧
      ∀ c, t.before.session.transaction.connection? = some c →
        c.closings (past.flatMap Turn.calls) = 1) := by
  obtain ⟨w', step, hrun, rfl⟩ := hr.split hpast
  obtain ⟨p, hstep⟩ := hcloses
  rw [World.turn_step] at hstep
  subst hstep
  refine ⟨w'.result_of_close p, fun u hu op q hop => ?_, fun hopen => ?_⟩
  · obtain ⟨v, step, rfl, hclosed⟩ := hr.closed_before hpast ⟨p, World.turn_step _⟩ hu
    exact ended_of_closed hclosed hop
  · rw [World.turn_before] at hopen ⊢
    have hin := (hrun.closesOnce hheld).tends.holding.inHand.left
    obtain ⟨released, undone, closed, hcalls, hclosing⟩ :=
      World.calls_of_close config hopen hin p
    have hafter : (w'.turn config (.perform .close p)).after.session.closed = true :=
      World.closed_of_closes ⟨p, World.turn_step _⟩
    refine ⟨(hrun.turn _).unconnected hafter, ⟨p, released, undone, closed, hcalls, hclosing⟩, ?_⟩
    intro c hc
    have hmem : Call.closeConnection c ∈ (past.flatMap Turn.calls).map LogEntry.call := by
      have hclosed : Call.closeConnection c ∈ closed.map LogEntry.call := by
        rw [hclosing.closed]
        change _ ∈ w'.session.transaction.connection?.toList.map _
        rw [hc]
        exact List.mem_singleton_self _
      rw [hpast, List.flatMap_append, List.flatMap_cons, hcalls]
      simp only [List.map_append, List.mem_append]
      exact .inr (.inl (.inr hclosed))
    exact Nat.le_antisymm (hr.closings_le_one hheld c) (List.one_le_count_iff.2 hmem)

end Run

/-- A session on a database that neither rolls back nor lets connections be closed. -/
def brokenWorld : World :=
  .opened { Database.ofScript .empty with
    faults := .ofReasons [("connection_close", "no"), ("rollback", "no")] none }
    .reuse (.overSource false none) false

def brokenInsert : Turn := brokenWorld.turn smallConfig (insertStep "add")

def brokenClose : Turn := brokenInsert.after.turn smallConfig (.perform .close .absent)

def lateInsert : Turn := brokenClose.after.turn smallConfig (insertStep "add")

/-- The statement is closed, the rollback is refused, and closing the connection is attempted once. The
insert that comes then is refused. -/
theorem broken_session_ended :
    brokenClose.calls = [⟨.closeStatement ⟨0⟩ "INSERT 1", .succeeded⟩,
        ⟨.readAutoCommit ⟨0⟩, .succeeded⟩, ⟨.rollback ⟨0⟩, .refused⟩,
        ⟨.closeConnection ⟨0⟩, .refused⟩] ∧
      brokenClose.result = some (.ok .done) ∧ lateInsert.calls = [] ∧
      lateInsert.result = some (.error (.executor .closed)) ∧
      Connection.closings ⟨0⟩ ([brokenInsert, brokenClose, lateInsert].flatMap Turn.calls) = 1 := by
  have hrun : Run smallConfig brokenWorld [brokenInsert, brokenClose, lateInsert] lateInsert.after :=
    .turn (.turn (.turn .start (insertStep "add")) (.perform .close .absent)) (insertStep "add")
  have hheld : ∀ c, (Transaction.overSource false none).connection? = some c →
      c.index < brokenWorld.database.connections.length := nofun
  have hpast : [brokenInsert, brokenClose, lateInsert] =
      [brokenInsert] ++ brokenClose :: [lateInsert] := rfl
  obtain ⟨hresult, hlate, hclose⟩ := Run.session_ended hheld hrun hpast ⟨.absent, rfl⟩
  obtain ⟨hcalls, -, hrefused⟩ := hlate lateInsert List.mem_cons_self (.insert "add") .absent rfl
  obtain ⟨-, -, honce⟩ := hclose rfl
  exact ⟨by decide, hresult, hcalls, hrefused, honce ⟨0⟩ (by decide)⟩

end SqlMapper
