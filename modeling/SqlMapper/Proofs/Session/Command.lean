import SqlMapper.Proofs.Session.Inner

namespace SqlMapper

open Fallible

variable {α : Type}

namespace Scope

def wrapped (s : Scope) : Scope := { s with parameter := s.parameter.wrapCollection }

def withCache (s : Scope) (c : LocalCache) : Scope :=
  { s with session := { s.session with cache := c } }

def withDirty (s : Scope) (d : Bool) : Scope :=
  { s with session := { s.session with dirty := d } }

def flushedFor (s : Scope) (command : Command) : Scope :=
  if command.flushesCache then s.withCache .empty else s

theorem flushedFor_of_flushes {command : Command} (h : command.flushesCache = true) (s : Scope) :
    s.flushedFor command = s.withCache .empty := if_pos h

theorem flushedFor_of_keeps {command : Command} (h : command.flushesCache = false) (s : Scope) :
    s.flushedFor command = s := by
  rw [flushedFor, h]
  rfl

theorem flushedFor_eq (s : Scope) (command : Command) :
    s.flushedFor command =
      s.withCache (if command.flushesCache then .empty else s.session.cache) := by
  unfold flushedFor
  split <;> rfl

@[simp] theorem flushedFor_database (s : Scope) (command : Command) :
    (s.flushedFor command).database = s.database := by
  rw [flushedFor_eq]
  rfl

theorem wrapped_withCache (s : Scope) (c : LocalCache) :
    (s.withCache c).wrapped = s.wrapped.withCache c := rfl

theorem wrapped_flushedFor (s : Scope) (command : Command) :
    (s.flushedFor command).wrapped = s.wrapped.flushedFor command := by
  unfold flushedFor
  split <;> rfl

theorem Inner.of_wrapped {s t : Scope} (h : s.wrapped.Inner t) : s.Inner t :=
  ⟨h.log, h.cache, h.closed, h.autoCommit, h.dirty⟩

end Scope

def Command.key (command : Command) (bounds : RowBounds) (p : Parameter) :
    Except Error CacheKey := do
  let bound ← command.source.bind p
  CacheKey.of command bounds bound p

/-- Callbacks have to be called and procedures have outputs to be taken, so these are not cached. -/
def Command.isCached (command : Command) (handler : Option RowHandler) : Bool :=
  handler.isNone && command.statementKind != .callable

namespace SessionM

variable {config : Configuration} {command : Command} {bounds : RowBounds}
  {handler : Option RowHandler} {s t : Scope}

@[simp] theorem outcome_session_bind (f : Session → SessionM α) :
    (session >>= f).outcome s = (f s.session).outcome s := rfl

@[simp] theorem outcome_parameter_bind (f : Parameter → SessionM α) :
    (parameter >>= f).outcome s = (f s.parameter).outcome s := rfl

@[simp] theorem outcome_setParameter_bind (p : Parameter) (f : Unit → SessionM α) :
    (setParameter p >>= f).outcome s = (f ()).outcome { s with parameter := p } := rfl

@[simp] theorem outcome_attempt_bind {β : Type} (x : SessionM β) (f : Except Error β → SessionM α) :
    (x.attempt >>= f).outcome s = (f (x.outcome s).1).outcome (x.outcome s).2 := rfl

theorem outcome_lift {β : Type} (x : DriverM β) (s : Scope) :
    (liftM x : SessionM β).outcome s =
      ((x.outcome s.database).1, { s with database := (x.outcome s.database).2 }) := rfl

@[simp] theorem outcome_lift_bind {β : Type} (x : DriverM β) (f : β → SessionM α) :
    ((liftM x : SessionM β) >>= f).outcome s =
      match x.outcome s.database with
      | (.ok b, db) => (f b).outcome { s with database := db }
      | (.error e, db) => (.error e, { s with database := db }) := by
  rw [outcome_bind, outcome_lift]
  rcases x.outcome s.database with ⟨_ | _, _⟩ <;> rfl

theorem outcome_onDatabase_bind {β : Type} (x : DriverM β) (f : β → SessionM α) :
    (onDatabase x >>= f).outcome s =
      match x.outcome s.database with
      | (.ok b, db) => (f b).outcome { s with database := db }
      | (.error e, db) => (.error e, { s with database := db }) :=
  outcome_lift_bind x f

@[simp] theorem outcome_changeSession_bind (g : Session → Session) (f : Unit → SessionM α) :
    (changeSession g >>= f).outcome s = (f ()).outcome { s with session := g s.session } := rfl

@[simp] theorem outcome_ok_bind {β : Type} (b : β) (f : β → SessionM α) :
    (ending (.ok b) >>= f).outcome s = (f b).outcome s := rfl

/-- Whatever becomes of the object `x` works on, the caller's is what it was. -/
theorem withParameter_outcome (p : Parameter) (x : SessionM α) (s : Scope) :
    (withParameter p x).outcome s =
      ((x.outcome { s with parameter := p }).1.map fun a =>
          (a, (x.outcome { s with parameter := p }).2.parameter),
        { (x.outcome { s with parameter := p }).2 with parameter := s.parameter }) := by
  rw [withParameter, outcome_parameter_bind, outcome_setParameter_bind, outcome_attempt_bind]
  rcases x.outcome { s with parameter := p } with ⟨e | a, t⟩ <;> rfl

theorem ensureOpen_of_closed (h : s.session.closed = true) :
    ensureOpen.outcome s = (.error (.executor .closed), s) := by
  simp [ensureOpen, h]

theorem ensureOpen_of_open (h : s.session.closed = false) :
    ensureOpen.outcome s = (.ok (), s) := by
  simp [ensureOpen, h]

theorem invocation_outcome (command : Command) (bounds : RowBounds) (s : Scope) :
    (invocation command bounds).outcome s = (Invocation.of command s.parameter bounds, s) := rfl

theorem invocation_bind_of_ok {command : Command} {bounds : RowBounds} {i : Invocation}
    {f : Invocation → SessionM α} (h : Invocation.of command s.parameter bounds = .ok i) :
    (invocation command bounds >>= f).outcome s = (f i).outcome s := by
  apply outcome_bind_of_ok
  rw [invocation_outcome, h]

theorem invocation_bind_of_error {command : Command} {bounds : RowBounds} {e : Error}
    {f : Invocation → SessionM α} (h : Invocation.of command s.parameter bounds = .error e) :
    (invocation command bounds >>= f).outcome s = (.error e, s) := by
  apply outcome_bind_of_error
  rw [invocation_outcome, h]

theorem clearCache_outcome : clearCache.outcome s = (.ok (), s.withCache .empty) := rfl

theorem endQuery_outcome :
    (endQuery config).outcome s = (.ok (),
      if config.settings.cacheScope = .statement then s.withCache .empty else s) := by
  unfold endQuery
  split <;> rfl

def remembering (config : Configuration) (key : CacheKey) (rows : List Value) (s : Scope) : Scope :=
  s.withCache (if config.settings.cacheScope = .statement then .empty
    else s.session.cache.put key rows)

theorem cachedQuery_of_error {e : Error} (h : command.key bounds s.parameter = .error e) :
    (cachedQuery config command bounds).outcome s = (.error e, s) := by
  unfold Command.key at h
  rw [cachedQuery, outcome_parameter_bind]
  rcases hb : command.source.bind s.parameter with e' | bound <;> rw [hb] at h
  · cases h
    rfl
  · rw [outcome_ok_bind, show CacheKey.of command bounds bound s.parameter = .error e from h]
    rfl

theorem cachedQuery_of_key {key : CacheKey} (h : command.key bounds s.parameter = .ok key) :
    (cachedQuery config command bounds).outcome s =
      (match s.session.cache.find? key with
        | some rows => pure rows
        | none => do
          let rows ← runQuery config command bounds none
          changeSession fun s => { s with cache := s.cache.put key rows }
          endQuery config
          return rows : SessionM (List Value)).outcome s := by
  unfold Command.key at h
  rw [cachedQuery, outcome_parameter_bind]
  rcases hb : command.source.bind s.parameter with e' | bound <;> rw [hb] at h
  · cases h
  · have hkey : CacheKey.of command bounds bound s.parameter = .ok key := h
    rewrite [outcome_ok_bind, hkey, outcome_ok_bind, outcome_session_bind]
    cases s.session.cache.find? key <;> rfl

theorem cachedQuery_of_found {key : CacheKey} {rows : List Value}
    (h : command.key bounds s.parameter = .ok key)
    (hfound : s.session.cache.find? key = some rows) :
    (cachedQuery config command bounds).outcome s = (.ok rows, s) := by
  rw [cachedQuery_of_key h, hfound]
  rfl

theorem cachedQuery_of_run_error {key : CacheKey} {e : Error}
    (h : command.key bounds s.parameter = .ok key) (hnone : s.session.cache.find? key = none)
    (hrun : (runQuery config command bounds none).outcome s = (.error e, t)) :
    (cachedQuery config command bounds).outcome s = (.error e, t) := by
  rw [cachedQuery_of_key h, hnone]
  exact outcome_bind_of_error hrun

theorem cachedQuery_of_run_ok {key : CacheKey} {rows : List Value}
    (h : command.key bounds s.parameter = .ok key) (hnone : s.session.cache.find? key = none)
    (hrun : (runQuery config command bounds none).outcome s = (.ok rows, t)) :
    (cachedQuery config command bounds).outcome s = (.ok rows, remembering config key rows t) := by
  rw [cachedQuery_of_key h, hnone]
  refine (outcome_bind_of_ok hrun).trans ?_
  rw [outcome_changeSession_bind, outcome_bind_of_ok endQuery_outcome]
  unfold remembering
  split <;> rfl

theorem query_of_closed (h : s.session.closed = true) :
    (query config command bounds handler).outcome s = (.error (.executor .closed), s) :=
  outcome_bind_of_error (ensureOpen_of_closed h)

theorem query_of_open (h : s.session.closed = false) :
    (query config command bounds handler).outcome s =
      if command.isCached handler then
        (cachedQuery config command bounds).outcome (s.flushedFor command)
      else
        match (runQuery config command bounds handler).outcome (s.flushedFor command) with
        | (.ok rows, t) => (.ok rows,
            if config.settings.cacheScope = .statement then t.withCache .empty else t)
        | (.error e, t) => (.error e, t) := by
  have hrest : ∀ u : Scope, (if command.isCached handler then cachedQuery config command bounds
      else do
        let rows ← runQuery config command bounds handler
        endQuery config
        return rows).outcome u =
      if command.isCached handler then (cachedQuery config command bounds).outcome u
      else match (runQuery config command bounds handler).outcome u with
        | (.ok rows, t) => (.ok rows,
            if config.settings.cacheScope = .statement then t.withCache .empty else t)
        | (.error e, t) => (.error e, t) := by
    intro u
    split
    · rfl
    · rcases hr : (runQuery config command bounds handler).outcome u with ⟨e | rows, t⟩
      · exact outcome_bind_of_error hr
      · exact (outcome_bind_of_ok hr).trans (outcome_bind_of_ok endQuery_outcome)
  rw [query, outcome_bind_of_ok (ensureOpen_of_open h)]
  unfold Scope.flushedFor
  by_cases hf : command.flushesCache = true
  · rw [if_pos hf, if_pos hf, ← hrest]
    rfl
  · rw [if_neg hf, if_neg hf, ← hrest]
    rfl

/-- But for the cache, a query does nothing or what it does to the database. -/
theorem query_state (config : Configuration) (command : Command) (bounds : RowBounds)
    (handler : Option RowHandler) (s : Scope) :
    ∃ c, ((query config command bounds handler).outcome s).2 = s.withCache c ∨
      ∃ handler' c', ((query config command bounds handler).outcome s).2 =
        ((runQuery config command bounds handler').outcome (s.withCache c)).2.withCache c' := by
  cases h : s.session.closed
  · obtain ⟨c, hc⟩ : ∃ c, s.flushedFor command = s.withCache c := ⟨_, s.flushedFor_eq command⟩
    rw [query_of_open h, hc]
    refine ⟨c, ?_⟩
    generalize s.withCache c = u
    split
    · rcases hk : command.key bounds u.parameter with e | key
      · rw [cachedQuery_of_error hk]
        exact .inl rfl
      · rcases hfound : u.session.cache.find? key with _ | rows
        · rcases hr : (runQuery config command bounds none).outcome u with ⟨e | rows, t⟩
          · rw [cachedQuery_of_run_error hk hfound hr]
            exact .inr ⟨none, t.session.cache, by rw [hr]; rfl⟩
          · rw [cachedQuery_of_run_ok hk hfound hr]
            exact .inr ⟨none, _, by rw [hr]; rfl⟩
        · rw [cachedQuery_of_found hk hfound]
          exact .inl rfl
    · rcases hr : (runQuery config command bounds handler).outcome u with ⟨e | rows, t⟩
      · exact .inr ⟨handler, t.session.cache, by rw [hr]; rfl⟩
      · dsimp only
        split
        · exact .inr ⟨handler, .empty, by rw [hr]⟩
        · exact .inr ⟨handler, t.session.cache, by rw [hr]; rfl⟩
  · rw [query_of_closed h]
    exact ⟨s.session.cache, .inl rfl⟩

theorem cachedQuery_inner (config : Configuration) (command : Command) (bounds : RowBounds)
    (s : Scope) :
    ∃ c, (s.withCache c).Inner ((cachedQuery config command bounds).outcome s).2 := by
  have hsame : (s.withCache s.session.cache).Inner s := .refl s
  rcases hk : command.key bounds s.parameter with e | key
  · rw [cachedQuery_of_error hk]
    exact ⟨_, hsame⟩
  · rcases hfound : s.session.cache.find? key with _ | rows
    · have hrun := (runQuery_inner config command bounds none _ (.refl s)).1
      rcases hr : (runQuery config command bounds none).outcome s with ⟨e | rows, t⟩ <;>
        rw [hr] at hrun
      · rw [cachedQuery_of_run_error hk hfound hr]
        exact ⟨_, hsame.trans hrun⟩
      · rw [cachedQuery_of_run_ok hk hfound hr]
        exact ⟨(remembering config key rows t).session.cache, hrun.log, rfl, hrun.closed,
          hrun.autoCommit, hrun.dirty⟩
    · rw [cachedQuery_of_found hk hfound]
      exact ⟨_, hsame⟩

theorem query_inner (config : Configuration) (command : Command) (bounds : RowBounds)
    (handler : Option RowHandler) (s : Scope) :
    ∃ c, (s.withCache c).Inner ((query config command bounds handler).outcome s).2 := by
  cases h : s.session.closed
  · obtain ⟨c₀, hc₀⟩ : ∃ c₀, s.flushedFor command = s.withCache c₀ := by
      unfold Scope.flushedFor
      split
      · exact ⟨_, rfl⟩
      · exact ⟨s.session.cache, rfl⟩
    rw [query_of_open h, hc₀]
    split
    · exact cachedQuery_inner config command bounds (s.withCache c₀)
    · have hrun := (runQuery_inner config command bounds handler _ (.refl (s.withCache c₀))).1
      rcases hr : (runQuery config command bounds handler).outcome (s.withCache c₀) with
        ⟨e | rows, t⟩ <;> rw [hr] at hrun
      · exact ⟨_, hrun⟩
      · dsimp only
        split
        · exact ⟨.empty, hrun.log, rfl, hrun.closed, hrun.autoCommit, hrun.dirty⟩
        · exact ⟨_, hrun⟩
  · rw [query_of_closed h]
    exact ⟨s.session.cache, .refl s⟩

theorem mutate_of_closed (h : s.session.closed = true) :
    (mutate config command).outcome s = (.error (.executor .closed), s) :=
  outcome_bind_of_error (ensureOpen_of_closed h)

variable (config command) in
theorem mutate_inner (h : s.session.closed = false) :
    (s.withCache .empty).Inner ((mutate config command).outcome s).2 := by
  rw [mutate, outcome_bind_of_ok (ensureOpen_of_open h), outcome_bind_of_ok clearCache_outcome]
  refine (Maintains.bind (W := fun _ => True) (.inner fun _ => Keys.before_apart config command)
    (fun _ _ => Maintains.bind (.inner fun _ => invocation_apart command .all) fun i _ =>
      session_inner.bind fun t _ => ?_) _ (.refl _)).1
  split
  · exact (Maintains.inner fun _ => (i.freshStatement_apart config.settings).forget).bind
      fun u _ => (execute_inner config i u).thenAlways
        (lift_inner fun _ => Statement.closeQuietly_apart List.not_mem_nil)
  · exact (Reuse.statement_inner config.settings _ i).bind fun u _ => execute_inner config i u
  · exact (Batch.enqueue_inner config.settings _ i).bind fun _ _ => .pure trivial

theorem openCursor_of_closed (h : s.session.closed = true) :
    (openCursor config command bounds).outcome s = (.error (.executor .closed), s) :=
  outcome_bind_of_error (ensureOpen_of_closed h)

theorem openCursor_of_open (h : s.session.closed = false) :
    (openCursor config command bounds).outcome s =
      (match s.session.strategy with
        | .batch queue => discard (Batch.flush config queue) >>= fun _ =>
            freshCursor config command bounds
        | _ => freshCursor config command bounds).outcome (s.flushedFor command) := by
  rw [openCursor, outcome_bind_of_ok (ensureOpen_of_open h)]
  unfold Scope.flushedFor
  by_cases hf : command.flushesCache = true
  · rw [if_pos hf, if_pos hf]
    cases hs : s.session.strategy <;>
      simp only [outcome_bind_of_ok clearCache_outcome, outcome_session_bind, Scope.withCache, hs]
  · rw [if_neg hf, if_neg hf]
    cases hs : s.session.strategy <;> simp only [outcome_session_bind, hs]

variable (config command bounds) in
theorem openCursor_inner (h : s.session.closed = false) :
    (s.flushedFor command).Inner ((openCursor config command bounds).outcome s).2 := by
  have hfresh : ∀ u : Scope,
      Maintains u.Inner (freshCursor config command bounds) fun _ => True := fun _ =>
    .inner fun _ => (freshCursor_apart config command bounds).forget
  rw [openCursor_of_open h]
  split
  · exact ((Batch.flush_inner config _).discard.bind (fun _ _ => hfresh _) _ (.refl _)).1
  · exact (hfresh _ _ (.refl _)).1

end SessionM

namespace Reuse

variable {settings : Settings} {m : NameMap Statement} {i : Invocation} {s : Statement} {u : Scope}

theorem statement_of_missing (h : m.get? i.bound.sql = none) :
    (statement settings m i).outcome u = (create settings m i).outcome u := by
  rw [statement, h]

theorem statement_of_open (h : m.get? i.bound.sql = some s)
    (hopen : (u.database.statement s).closed = false) :
    (statement settings m i).outcome u = (renew settings i s).outcome u := by
  have hread : s.isClosed.outcome u.database = (.ok false, u.database) := by
    rw [← hopen]
    rfl
  rw [statement, h]
  dsimp only
  rw [SessionM.outcome_lift_bind, hread]
  rfl

theorem statement_of_closed (h : m.get? i.bound.sql = some s)
    (hclosed : (u.database.statement s).closed = true) :
    (statement settings m i).outcome u = (create settings (m.erase i.bound.sql) i).outcome
      { u with session := { u.session with strategy := .reuse (m.erase i.bound.sql) } } := by
  have hread : s.isClosed.outcome u.database = (.ok true, u.database) := by
    rw [← hclosed]
    rfl
  rw [statement, h]
  dsimp only
  rw [SessionM.outcome_lift_bind, hread]
  rfl

end Reuse

end SqlMapper
