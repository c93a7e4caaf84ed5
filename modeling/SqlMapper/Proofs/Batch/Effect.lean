import SqlMapper.Proofs.Batch.Ready
import SqlMapper.Proofs.Session.Execution
import SqlMapper.Proofs.Session.Operation

namespace SqlMapper

open Fallible Batch

variable {α β : Type}

/-- `db'` comes from `db` by calls that concern no batch. -/
structure Database.Settles (db db' : Database) : Prop where
  length_le : db.statements.length ≤ db'.statements.length
  log : ∃ calls, db'.log = db.log ++ calls ∧
    ∀ m ∈ calls.filterMap LogEntry.mark?, m = .committed

namespace Database.Settles

variable {db db' db'' : Database}

theorem refl (db : Database) : db.Settles db := ⟨Nat.le_refl _, [], by simp, by simp⟩

theorem of_apart {kept : List Statement} (h : db.Apart kept db') : db.Settles db' := by
  obtain ⟨calls, hc, hm⟩ := h.log
  exact ⟨h.length_le, calls, hc, by simp [hm]⟩

theorem trans (h : db.Settles db') (h' : db'.Settles db'') : db.Settles db'' := by
  obtain ⟨calls, hc, hm⟩ := h.log
  obtain ⟨calls', hc', hm'⟩ := h'.log
  refine ⟨Nat.le_trans h.length_le h'.length_le, calls ++ calls', by simp [hc, hc'], ?_⟩
  intro m hmem
  rw [List.filterMap_append, List.mem_append] at hmem
  obtain hmem | hmem := hmem
  · exact hm m hmem
  · exact hm' m hmem

theorem maintains {x : DriverM α} {V : α → Prop} (h : ∀ db : Database, Maintains (db.Apart []) x V)
    (db₀ : Database) : Maintains db₀.Settles x V := by
  intro db hdb
  obtain ⟨hx, hV⟩ := h db db (.self _)
  exact ⟨hdb.trans (.of_apart hx), hV⟩

theorem commit (c : Connection) (db₀ : Database) :
    Maintains db₀.Settles c.commit fun _ => True := by
  intro db hdb
  have hrecord : ∀ o, db.Settles (db.record (.commit c) o) := fun o =>
    ⟨Nat.le_refl _, _, rfl, by simp [LogEntry.mark?]⟩
  refine ⟨hdb.trans ?_, fun _ _ => trivial⟩
  rw [Connection.commit, outcome_of]
  unfold Database.perform
  split <;> exact hrecord _

end Database.Settles

namespace Batch

variable {config : Configuration} {queue : List QueuedStatement} {s t u v : Scope}

/-- The queue is sent first, and the rest of the operation only follows if that went well. -/
structure Flushed (config : Configuration) (queue : List QueuedStatement) (s : Scope)
    (x : Except Error α × Scope) : Prop where
  flushes : ∃ u v r, u.database = s.database ∧ Flushes config queue u r v ∧
    (∀ e, r = .error e → x.1 = .error e ∧ x.2.database = v.database) ∧
    v.database.Settles x.2.database
  strategy : x.2.session.strategy = .batch []

/-- What an operation that queues nothing does to the queue it finds: it makes no call, because it
fails or because rows are remembered, or it sends the queue. -/
inductive Effect (config : Configuration) (queue : List QueuedStatement) (s : Scope)
    (x : Except Error α × Scope) : Prop where
  | idle (database : x.2.database = s.database) (strategy : x.2.session.strategy = .batch queue)
    (cache : x.2.session.cache = s.session.cache ∨ x.2.session.cache = .empty)
    (cause : (∃ e, x.1 = .error e) ∨ s.session.cache ≠ .empty)
  | flushed (h : Flushed config queue s x)

theorem flushes_advance {r : Except Error (List BatchResult)} (hready : Ready queue s.database)
    (h : Flushes config queue s r t) :
    ∃ marks closes, Advance [] marks closes (emptied s) t := by
  cases h with
  | sent h =>
    rw [← List.append_nil queue] at hready
    exact ⟨_, _, sends_advance (s := emptied s) hready h⟩
  | broken hqueue h hq =>
    subst hqueue
    obtain ⟨o, -, ha⟩ := failed_advance (s := emptied s) hready h hq
    exact ⟨_, _, ha⟩

theorem strategy_of_flushes {r : Except Error (List BatchResult)} (hready : Ready queue s.database)
    (h : Flushes config queue s r t) : t.session.strategy = .batch [] := by
  obtain ⟨_, _, ha⟩ := flushes_advance hready h
  have hs := congrArg Session.strategy ha.session
  exact hs

theorem discard_flush_bind {r : Except Error (List BatchResult)} (k : SessionM α)
    (h : Flushes config queue s r t) :
    (discard (Batch.flush config queue) >>= fun _ => k).outcome s =
      match r with
      | .error e => (.error e, t)
      | .ok _ => k.outcome t := by
  rw [outcome_bind, outcome_discard, outcome_of_flushes h]
  cases r <;> rfl

theorem flushed_of_flush (config : Configuration) {k : SessionM α} (hready : Ready queue s.database)
    (hk : ∀ v : Scope, Maintains (v.Apart []) k fun _ => True) :
    Flushed config queue s ((discard (Batch.flush config queue) >>= fun _ => k).outcome s) := by
  obtain ⟨r, v, -, h⟩ := exists_flushes config queue s
  rw [discard_flush_bind k h]
  cases r with
  | error e =>
    exact ⟨⟨s, v, _, rfl, h, fun _ he => ⟨by cases he; rfl, rfl⟩, .refl _⟩,
      strategy_of_flushes hready h⟩
  | ok results =>
    have hv := (hk v v (.self _)).1
    exact ⟨⟨s, v, _, rfl, h, nofun, .of_apart hv.database⟩,
      hv.strategy_eq.trans (strategy_of_flushes hready h)⟩

theorem Flushed.transfer {s' : Scope} {x : Except Error α × Scope} {y : Except Error β × Scope}
    (h : Flushed config queue s x) (hd : s.database = s'.database)
    (hd' : y.2.database = x.2.database) (hs' : y.2.session.strategy = x.2.session.strategy)
    (he : ∀ e, x.1 = .error e → y.1 = .error e) : Flushed config queue s' y := by
  obtain ⟨u, v, r, hu, hf, herror, hrest⟩ := h.flushes
  refine ⟨⟨u, v, r, hu.trans hd, hf, fun e hr => ?_, hd' ▸ hrest⟩, hs'.trans h.strategy⟩
  obtain ⟨hx, hdx⟩ := herror e hr
  exact ⟨he e hx, hd'.trans hdx⟩

theorem Effect.transfer {s' : Scope} {x : Except Error α × Scope} {y : Except Error β × Scope}
    (h : Effect config queue s x) (hd : s.database = s'.database)
    (hc : s.session.cache = s'.session.cache ∨ s.session.cache = .empty)
    (hd' : y.2.database = x.2.database) (hs' : y.2.session.strategy = x.2.session.strategy)
    (hc' : y.2.session.cache = x.2.session.cache) (he : ∀ e, x.1 = .error e → y.1 = .error e) :
    Effect config queue s' y := by
  cases h with
  | idle database strategy cache cause =>
    refine .idle (hd'.trans (database.trans hd)) (hs'.trans strategy) ?_ ?_
    · rw [hc']
      obtain hx | hx := cache
      · obtain hs | hs := hc
        · exact .inl (hx.trans hs)
        · exact .inr (hx.trans hs)
      · exact .inr hx
    · obtain ⟨e, hx⟩ | hx := cause
      · exact .inl ⟨e, he e hx⟩
      · obtain hs | hs := hc
        · exact .inr (hs ▸ hx)
        · exact absurd hs hx
  | flushed h => exact .flushed (h.transfer hd hd' hs' he)

end Batch

namespace SessionM

variable {config : Configuration} {command : Command} {bounds : RowBounds}
  {handler : Option RowHandler} {queue : List QueuedStatement} {s : Scope}

theorem runQuery_eq_flush (hs : s.session.strategy = .batch queue) :
    (runQuery config command bounds handler).outcome s =
      (discard (Batch.flush config queue) >>= fun _ =>
        freshQuery config command bounds handler).outcome s := by
  rw [runQuery, outcome_session_bind, hs]

variable (config command bounds handler) in
theorem runQuery_flushed (hs : s.session.strategy = .batch queue)
    (hready : Ready queue s.database) :
    Flushed config queue s ((runQuery config command bounds handler).outcome s) := by
  rw [runQuery_eq_flush hs]
  exact flushed_of_flush config hready fun _ => freshQuery_apart config command bounds handler

theorem strategy_flushedFor (s : Scope) (command : Command) :
    (s.flushedFor command).session.strategy = s.session.strategy := by
  rw [Scope.flushedFor_eq]
  rfl

theorem cache_flushedFor (s : Scope) (command : Command) :
    (s.flushedFor command).session.cache = s.session.cache ∨
      (s.flushedFor command).session.cache = .empty := by
  unfold Scope.flushedFor
  split
  · exact .inr rfl
  · exact .inl rfl

theorem cachedQuery_effect (hs : s.session.strategy = .batch queue)
    (hready : Ready queue s.database) :
    Effect config queue s ((cachedQuery config command bounds).outcome s) := by
  rcases hk : command.key bounds s.parameter with e | key
  · rw [cachedQuery_of_error hk]
    exact .idle rfl hs (.inl rfl) (.inl ⟨e, rfl⟩)
  · rcases hfound : s.session.cache.find? key with _ | rows
    · have hrun := runQuery_flushed config command bounds none hs hready
      rcases hr : (runQuery config command bounds none).outcome s with ⟨e | rows, t⟩ <;>
        rw [hr] at hrun
      · rw [cachedQuery_of_run_error hk hfound hr]
        exact .flushed hrun
      · rw [cachedQuery_of_run_ok hk hfound hr]
        exact .flushed (hrun.transfer rfl rfl rfl nofun)
    · rw [cachedQuery_of_found hk hfound]
      refine .idle rfl hs (.inl rfl) (.inr fun hempty => ?_)
      rw [hempty] at hfound
      cases hfound

variable (config command bounds handler) in
theorem query_effect (hopen : s.session.closed = false) (hs : s.session.strategy = .batch queue)
    (hready : Ready queue s.database) :
    Effect config queue s ((query config command bounds handler).outcome s) := by
  have hs' := (strategy_flushedFor s command).trans hs
  have hready' : Ready queue (s.flushedFor command).database := by
    rwa [Scope.flushedFor_database]
  rw [query_of_open hopen]
  split
  · exact (cachedQuery_effect hs' hready').transfer (s.flushedFor_database command)
      (cache_flushedFor s command) rfl rfl rfl fun _ he => he
  · have hrun := runQuery_flushed config command bounds handler hs' hready'
    rcases hr : (runQuery config command bounds handler).outcome (s.flushedFor command) with
      ⟨e | rows, t⟩ <;> rw [hr] at hrun
    · exact .flushed (hrun.transfer (s.flushedFor_database command) rfl rfl fun _ he => he)
    · refine .flushed (hrun.transfer (s.flushedFor_database command) ?_ ?_ nofun) <;> dsimp only <;>
        split <;> rfl

variable (config command bounds) in
theorem openCursor_flushed (hopen : s.session.closed = false)
    (hs : s.session.strategy = .batch queue) (hready : Ready queue s.database) :
    Flushed config queue s ((openCursor config command bounds).outcome s) := by
  have hready' : Ready queue (s.flushedFor command).database := by
    rwa [Scope.flushedFor_database]
  rw [openCursor_of_open hopen, hs]
  have hf := flushed_of_flush config (k := freshCursor config command bounds) hready'
    fun _ => (freshCursor_apart config command bounds).forget
  exact hf.transfer (s.flushedFor_database command) rfl rfl fun _ he => he

variable (config) in
theorem flush_flushed (hs : s.session.strategy = .batch queue) (hready : Ready queue s.database) :
    Flushed config queue s ((flush config).outcome s) := by
  obtain ⟨r, v, ho, h⟩ := exists_flushes config queue s
  rw [flush, outcome_session_bind, hs]
  dsimp only
  rw [ho]
  exact ⟨⟨s, v, r, rfl, h, fun _ he => ⟨he, rfl⟩, .refl _⟩, strategy_of_flushes hready h⟩

end SessionM

namespace Session

variable {config : Configuration} {id : String} {bounds : RowBounds}
  {handler : Option RowHandler} {queue : List QueuedStatement} {s : Scope}

theorem query_effect (hopen : s.session.closed = false) (hs : s.session.strategy = .batch queue)
    (hready : Ready queue s.database) :
    Effect config queue s ((query config id bounds handler).outcome s) := by
  cases hc : config.registry.find? id with
  | none =>
    rw [query_of_missing hc]
    exact .idle rfl hs (.inl rfl) (.inl ⟨_, rfl⟩)
  | some c =>
    obtain ⟨p, hq⟩ := query_of_found (s := s) hc bounds handler
    rw [hq]
    have heffect := SessionM.query_effect config c bounds handler (s := s.wrapped) hopen hs hready
    exact heffect.transfer rfl (.inl rfl) rfl rfl rfl fun _ he => he

variable (config id bounds) in
theorem selectCursor_effect (hopen : s.session.closed = false)
    (hs : s.session.strategy = .batch queue) (hready : Ready queue s.database) :
    Effect config queue s ((selectCursor config id bounds).outcome s) := by
  cases hc : config.registry.find? id with
  | none =>
    rw [selectCursor_of_missing hc]
    exact .idle rfl hs (.inl rfl) (.inl ⟨_, rfl⟩)
  | some c =>
    obtain ⟨p, hq⟩ := selectCursor_of_found (s := s) hc bounds
    rw [hq]
    have hflushed := SessionM.openCursor_flushed config c bounds (s := s.wrapped) hopen hs hready
    exact .flushed (hflushed.transfer rfl rfl rfl fun _ he => he)

theorem finishing_settles {finish : Connection → DriverM Unit}
    (hfinish : ∀ (c : Connection) (db₀ : Database), Maintains db₀.Settles (finish c) fun _ => True)
    (must : Bool) (x : Except Error α × Scope) :
    x.2.database.Settles (finishing must (·.finishWith finish) x).2.database ∧
      (finishing must (·.finishWith finish) x).2.session.strategy = x.2.session.strategy := by
  obtain ⟨e | a, t⟩ := x
  · exact ⟨.refl _, rfl⟩
  · unfold finishing
    dsimp only
    split
    · have hend := (t.session.transaction.finishWith_maintains
        (fun c _ => Database.Settles.maintains (fun _ => c.autoCommit_apart) t.database)
        (fun c _ => hfinish c t.database) t.database (.refl _)).1
      rcases hx : (t.session.transaction.finishWith finish).outcome t.database with ⟨e | _, db⟩ <;>
        rw [hx] at hend <;> exact ⟨hend, rfl⟩
    · exact ⟨.refl _, rfl⟩

theorem commit_flushed (force : Bool) (hopen : s.session.closed = false)
    (hs : s.session.strategy = .batch queue) (hready : Ready queue s.database) :
    Flushed config queue s ((commit config force).outcome s) := by
  have hf := SessionM.flush_flushed config (s := s.withCache .empty) hs hready
  rw [commit_of_open hopen]
  obtain ⟨⟨u, v, r, hu, hflush, herror, hrest⟩, hstrategy⟩ := hf
  obtain ⟨hsettles, hsame⟩ := finishing_settles Database.Settles.commit (s.session.mustFinish force)
    ((SessionM.flush config).outcome (s.withCache .empty))
  refine ⟨⟨u, v, r, hu, hflush, fun e he => ?_, hrest.trans hsettles⟩, hsame.trans hstrategy⟩
  obtain ⟨hx, hdx⟩ := herror e he
  rcases hout : (SessionM.flush config).outcome (s.withCache .empty) with ⟨e' | results, t⟩ <;>
    rw [hout] at hx hdx
  · cases hx
    exact ⟨rfl, hdx⟩
  · cases hx

structure Dropped (s : Scope) (x : Except Error α × Scope) : Prop where
  settles : s.database.Settles x.2.database
  strategy : x.2.session.strategy = .batch []

theorem rollback_dropped (force : Bool) (hopen : s.session.closed = false)
    (hs : s.session.strategy = .batch queue) : Dropped s ((rollback force).outcome s) := by
  have habandon : SessionM.abandon.outcome (s.withCache .empty) =
      (.ok (), Batch.closed queue (emptied (s.withCache .empty))) := by
    rw [SessionM.abandon, SessionM.outcome_session_bind,
      show (s.withCache .empty).session.strategy = _ from hs]
    dsimp only
    rw [Batch.abandon, Batch.setQueue, SessionM.outcome_changeSession_bind, SessionM.outcome_lift,
      closeAll_ok]
    rfl
  have hclosed : s.database.Settles ((closeAll queue).outcome s.database).2 :=
    (Database.Settles.maintains (fun _ => .forM fun q _ => Statement.closeQuietly_apart
      List.not_mem_nil) s.database _ (.refl _)).1
  obtain ⟨hsettles, hsame⟩ := finishing_settles
    (fun c db₀ => Database.Settles.maintains (fun _ => c.rollback_apart) db₀)
    (s.session.mustFinish force) (SessionM.abandon.outcome (s.withCache .empty))
  rw [rollback_of_open hopen]
  rw [habandon] at hsettles hsame ⊢
  exact ⟨hclosed.trans hsettles, hsame⟩

theorem close_dropped (hopen : s.session.closed = false) (hs : s.session.strategy = .batch queue) :
    Dropped s (close.outcome s) := by
  obtain ⟨hsettles, hstrategy⟩ := rollback_dropped false hopen hs
  rw [close_of_open hopen]
  refine ⟨hsettles.trans ?_, hstrategy⟩
  exact (Database.Settles.maintains (fun _ => Transaction.closeConnection_apart _) _ _ (.refl _)).1

end Session

end SqlMapper
