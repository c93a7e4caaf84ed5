import SqlMapper.Proofs.Session.Apart

namespace SqlMapper

open Fallible

/-- `s` comes from `s₀` by work that made calls and left the cache and the flags of the session
alone. -/
structure Scope.Inner (s₀ s : Scope) : Prop where
  log : s₀.database.log <+: s.database.log
  cache : s.session.cache = s₀.session.cache
  closed : s.session.closed = s₀.session.closed
  autoCommit : s.session.autoCommit = s₀.session.autoCommit
  dirty : s.session.dirty = s₀.session.dirty

variable {α : Type} {V : α → Prop} {s₀ : Scope}

namespace Scope.Inner

theorem refl (s : Scope) : s.Inner s := ⟨List.prefix_rfl, rfl, rfl, rfl, rfl⟩

theorem trans {s t : Scope} (h : s₀.Inner s) (h' : s.Inner t) : s₀.Inner t where
  log := h.log.trans h'.log
  cache := h'.cache.trans h.cache
  closed := h'.closed.trans h.closed
  autoCommit := h'.autoCommit.trans h.autoCommit
  dirty := h'.dirty.trans h.dirty

theorem of_apart {kept : List Statement} {s : Scope} (h : s₀.Apart kept s) : s₀.Inner s where
  log := h.database.prefix_log
  cache := h.cache_eq
  closed := h.closed_eq
  autoCommit := by rw [← h.session]
  dirty := h.dirty_eq

theorem withParameter {s : Scope} (h : s₀.Inner s) (p : Parameter) :
    s₀.Inner { s with parameter := p } :=
  ⟨h.log, h.cache, h.closed, h.autoCommit, h.dirty⟩

end Scope.Inner

theorem Database.maintains_prefix_log {call : Database → Call} {refusal : Database → Option Error}
    {act : Database → Database → Except Error α × Database}
    (hact : ∀ db, (act db db).2.log = db.log) (db₀ : Database) :
    Maintains (fun db => db₀.log <+: db.log)
      (.of fun db => perform (call db) (refusal db) (act db) db) fun _ => True := by
  refine fun db h => ⟨h.trans ?_, fun _ _ => trivial⟩
  rw [outcome_of]
  unfold perform
  split
  · exact List.prefix_append _ _
  · have ha := hact db
    rcases hr : act db db with ⟨_ | _, db'⟩ <;> rw [hr] at ha <;>
      exact ⟨_, congrArg (· ++ _) ha.symm⟩

theorem Connection.autoCommit_grows (c : Connection) (db₀ : Database) :
    Maintains (fun db => db₀.log <+: db.log) c.autoCommit fun _ => True :=
  Database.maintains_prefix_log (fun _ => rfl) db₀

theorem Connection.commit_grows (c : Connection) (db₀ : Database) :
    Maintains (fun db => db₀.log <+: db.log) c.commit fun _ => True :=
  Database.maintains_prefix_log (fun _ => rfl) db₀

theorem Connection.rollback_grows (c : Connection) (db₀ : Database) :
    Maintains (fun db => db₀.log <+: db.log) c.rollback fun _ => True :=
  Database.maintains_prefix_log (fun _ => rfl) db₀

theorem Statement.addBatch_grows (s : Statement) (text : Option String) (db₀ : Database) :
    Maintains (fun db => db₀.log <+: db.log) (s.addBatch text) fun _ => True :=
  Database.maintains_prefix_log (fun _ => rfl) db₀

theorem Statement.executeBatch_grows (s : Statement) (db₀ : Database) :
    Maintains (fun db => db₀.log <+: db.log) s.executeBatch fun _ => True := by
  refine Database.maintains_prefix_log (fun db => ?_) db₀
  dsimp only
  split <;> rfl

theorem Fallible.Maintains.inner {x : SessionM α} (h : ∀ s : Scope, Maintains (s.Apart []) x V) :
    Maintains s₀.Inner x V := by
  intro s hs
  obtain ⟨hI, hV⟩ := h s s (.self _)
  exact ⟨hs.trans (.of_apart hI), hV⟩

namespace SessionM

theorem lift_inner {x : DriverM α} (h : ∀ db : Database, Maintains (db.Apart []) x V) :
    Maintains s₀.Inner (liftM x : SessionM α) V :=
  .inner fun _ => lift_apart (h _)

theorem changeSession_inner {f : Session → Session} (hc : ∀ s, (f s).cache = s.cache)
    (ho : ∀ s, (f s).closed = s.closed) (ha : ∀ s, (f s).autoCommit = s.autoCommit)
    (hd : ∀ s, (f s).dirty = s.dirty) :
    Maintains s₀.Inner (changeSession f) fun _ => True :=
  fun _ hs => ⟨⟨hs.log, (hc _).trans hs.cache, (ho _).trans hs.closed, (ha _).trans hs.autoCommit,
    (hd _).trans hs.dirty⟩, fun _ _ => trivial⟩

theorem session_inner : Maintains s₀.Inner session fun _ => True := .inner fun _ => session_apart

theorem parameter_inner : Maintains s₀.Inner parameter fun _ => True :=
  .inner fun _ => parameter_apart

theorem lift_inner_of_grows {x : DriverM α}
    (h : ∀ db : Database, Maintains (fun db' => db.log <+: db'.log) x V) :
    Maintains s₀.Inner (liftM x : SessionM α) V := by
  intro s hs
  obtain ⟨hlog, hV⟩ := h s.database s.database List.prefix_rfl
  exact ⟨⟨hs.log.trans hlog, hs.cache, hs.closed, hs.autoCommit, hs.dirty⟩, hV⟩

end SessionM

namespace Reuse

theorem setStatements_inner (statements : NameMap Statement) :
    Maintains s₀.Inner (setStatements statements) fun _ => True :=
  SessionM.changeSession_inner (fun _ => rfl) (fun _ => rfl) (fun _ => rfl) fun _ => rfl

theorem create_inner (settings : Settings) (statements : NameMap Statement) (i : Invocation) :
    Maintains s₀.Inner (create settings statements i) fun _ => True := by
  refine SessionM.session_inner.bind fun t _ => SessionM.parameter_inner.bind fun p _ => ?_
  refine (Maintains.inner fun _ => SessionM.connection_apart).bind fun c _ =>
    (SessionM.lift_inner fun _ => (i.prepare_apart settings _ c).forget).bind fun s _ => ?_
  exact (setStatements_inner _).bind fun _ _ =>
    (SessionM.lift_inner fun _ => i.parameterize_apart p s).bind fun _ _ => .pure trivial

theorem renew_inner (settings : Settings) (i : Invocation) (s : Statement) :
    Maintains s₀.Inner (renew settings i s) fun _ => True :=
  SessionM.session_inner.bind fun _ _ => SessionM.parameter_inner.bind fun p _ =>
    (SessionM.lift_inner fun _ => i.applySettings_apart settings _ _).bind fun _ _ =>
      (SessionM.lift_inner fun _ => i.parameterize_apart p _).bind fun _ _ => .pure trivial

theorem statement_inner (settings : Settings) (statements : NameMap Statement) (i : Invocation) :
    Maintains s₀.Inner (statement settings statements i) fun _ => True := by
  unfold statement
  split
  · next s _ =>
    refine (SessionM.lift_inner fun _ => s.isClosed_apart).bind fun closed _ => ?_
    split
    · exact (setStatements_inner _).bind fun _ _ => create_inner settings _ i
    · exact renew_inner settings i s
  · exact create_inner settings statements i

theorem closeAll_inner (statements : NameMap Statement) :
    Maintains s₀.Inner (closeAll statements) fun _ => True :=
  (setStatements_inner []).bind fun _ _ => SessionM.lift_inner fun _ =>
    .forM fun _ _ => Statement.closeQuietly_apart nofun

end Reuse

namespace Batch

variable (config : Configuration)

theorem setQueue_inner (queue : List QueuedStatement) :
    Maintains s₀.Inner (setQueue queue) fun _ => True :=
  SessionM.changeSession_inner (fun _ => rfl) (fun _ => rfl) (fun _ => rfl) fun _ => rfl

theorem enqueue_inner (settings : Settings) (queue : List QueuedStatement) (i : Invocation) :
    Maintains s₀.Inner (enqueue settings queue i) fun _ => True := by
  refine SessionM.parameter_inner.bind fun p _ => ?_
  split
  · exact (SessionM.lift_inner fun _ => i.parameterize_apart p _).bind fun _ _ =>
      (SessionM.lift_inner_of_grows fun db => Statement.addBatch_grows _ i.text db).bind
        fun _ _ => setQueue_inner _
  · refine (Maintains.inner fun _ => (i.freshStatement_apart settings).forget).bind fun s _ => ?_
    refine Maintains.bind (V := fun _ => True) ?_ fun _ _ => setQueue_inner _
    refine SessionM.lift_inner_of_grows fun db => (s.addBatch_grows i.text db).orUndo ?_
    intro db' h
    obtain ⟨hclose, hV⟩ := Statement.closeQuietly_apart List.not_mem_nil db' (.self _)
    exact ⟨h.trans hclose.prefix_log, hV⟩

theorem closeAll_inner (queue : List QueuedStatement) :
    Maintains s₀.Inner (liftM (closeAll queue) : SessionM Unit) fun _ => True :=
  SessionM.lift_inner fun _ => .forM fun _ _ => Statement.closeQuietly_apart nofun

theorem execute_inner (q : QueuedStatement) :
    Maintains s₀.Inner (execute config q) fun _ => True := by
  refine (Maintains.attempt (SessionM.lift_inner_of_grows
    q.statement.executeBatch_grows)).bind fun r _ => ?_
  cases r with
  | error e => exact .pure trivial
  | ok counts =>
    refine (Maintains.inner fun _ =>
      Keys.afterBatch_apart config q.command q.statement q.parameters
        counts).attempt.bind fun r _ => ?_
    cases r <;> exact .pure trivial

theorem send_inner (successful : List BatchResult) (queue : List QueuedStatement) :
    Maintains s₀.Inner (send config successful queue) fun _ => True := by
  induction queue generalizing successful with
  | nil => exact .pure trivial
  | cons q rest ih =>
    refine ((execute_inner config q).thenAlways (SessionM.lift_inner fun _ =>
      Statement.closeQuietly_apart nofun)).bind fun r _ => ?_
    cases r with
    | ok result => exact ih _
    | error e => exact (closeAll_inner rest).bind fun _ _ => .throw _

theorem flush_inner (queue : List QueuedStatement) :
    Maintains s₀.Inner (flush config queue) fun _ => True :=
  (setQueue_inner []).bind fun _ _ => send_inner config [] queue

theorem abandon_inner (queue : List QueuedStatement) :
    Maintains s₀.Inner (abandon queue) fun _ => True :=
  (setQueue_inner []).bind fun _ _ => closeAll_inner queue

end Batch

namespace SessionM

variable (config : Configuration)

theorem execute_inner (i : Invocation) (s : Statement) :
    Maintains s₀.Inner (execute config i s) fun _ => True :=
  (lift_inner fun _ => i.execute_apart nofun).bind fun _ _ =>
    (lift_inner fun _ => s.updateCount_apart).bind fun _ _ =>
      (Maintains.inner fun _ => i.takeOutputs_apart s).bind fun _ _ =>
        (Maintains.inner fun _ => Keys.after_apart config i.command s).bind fun _ _ => .pure trivial

theorem runQuery_inner (command : Command) (bounds : RowBounds) (handler : Option RowHandler) :
    Maintains s₀.Inner (runQuery config command bounds handler) fun _ => True := by
  have hfresh : Maintains s₀.Inner (freshQuery config command bounds handler) fun _ => True :=
    .inner fun _ => freshQuery_apart config command bounds handler
  refine session_inner.bind fun t _ => ?_
  split
  · exact hfresh
  · exact (Maintains.inner fun _ => invocation_apart command bounds).bind fun i _ =>
      (Reuse.statement_inner config.settings _ i).bind fun s _ =>
        .inner fun _ => i.query_apart config.mapper List.not_mem_nil handler
  · exact (Batch.flush_inner config _).discard.bind fun _ _ => hfresh

theorem flush_inner : Maintains s₀.Inner (flush config) fun _ => True := by
  refine session_inner.bind fun t _ => ?_
  split
  · exact .pure trivial
  · exact (Reuse.closeAll_inner _).bind fun _ _ => .pure trivial
  · exact Batch.flush_inner config _

theorem abandon_inner : Maintains s₀.Inner abandon fun _ => True := by
  refine session_inner.bind fun t _ => ?_
  split
  · exact .pure trivial
  · exact Reuse.closeAll_inner _
  · exact Batch.abandon_inner _

end SessionM

end SqlMapper
