import SqlMapper.Configuration.Basic
import SqlMapper.Proofs.Session.Execution
import SqlMapper.Proofs.Session.Operation

namespace SqlMapper

open Fallible

/-- What a query of the command `id` for the parameter object `p` is remembered by. -/
def Configuration.queryKey (config : Configuration) (id : String) (bounds : RowBounds)
    (p : Parameter) : Except Error CacheKey := do
  let command ← config.registry.get id
  command.key bounds p.wrapCollection

/-- The command of the key is one whose rows may be remembered. -/
def Configuration.Caches (config : Configuration) (key : CacheKey) : Prop :=
  ∃ c, config.registry.find? key.command = some c ∧ c.statementKind ≠ .callable

/-- Mutations, ends of the transaction and commands that ask for it make a session forget. -/
def Session.Operation.Forgets (config : Configuration) : Session.Operation → Prop
  | .insert id | .update id | .delete id => ∃ c, config.registry.find? id = some c
  | .selectOne id | .selectList id _ | .selectMap id _ _ | .selectWithHandler id _ _
  | .selectCursor id _ => ∃ c, config.registry.find? id = some c ∧ c.flushesCache = true
  | .commit _ | .rollback _ | .clearCache | .close => True
  | .flushStatements => False

/-- Operations that hand their rows over one by one. -/
def Session.Operation.HandsOver : Session.Operation → Prop
  | .selectWithHandler _ _ _ | .selectCursor _ _ => True
  | _ => False

namespace Turn

variable (config : Configuration) (t : Turn)

def Forgets : Prop := ∃ op p, t.step = .perform op p ∧ op.Forgets config

/-- The turn is a query for rows, for all of them at once, and `key` is what it is remembered by. -/
def Asks (key : CacheKey) : Prop :=
  ∃ op p id bounds, t.step = .perform op p ∧ op.query? = some (id, bounds, none) ∧
    config.queryKey id bounds p = .ok key

def Rows (key : CacheKey) (rows : List Value) : Prop :=
  ∃ op p id bounds, t.step = .perform op p ∧ op.query? = some (id, bounds, none) ∧
    config.queryKey id bounds p = .ok key ∧
    ((Session.query config id bounds none).outcome (t.before.scope p)).1 = .ok rows

def Executed : Prop := ∃ s sql, ⟨.execute s sql, .succeeded⟩ ∈ t.calls

end Turn

/-- The last time that the database was asked for `key` it gave these rows, and there was no reason
to forget them since. -/
def Remembered (config : Configuration) (past : List Turn) (key : CacheKey) (rows : List Value) :
    Prop :=
  ∃ older e newer, past = older ++ e :: newer ∧ e.Rows config key rows ∧ e.Executed ∧
    ∀ t ∈ newer, ¬ t.Forgets config ∧ ¬ (t.Asks config key ∧ t.Executed)

section Queries

variable {config : Configuration} {command : Command} {bounds : RowBounds}
  {handler : Option RowHandler} {s : Scope} {key : CacheKey} {rows : List Value}

@[simp] theorem LocalCache.find?_empty (key : CacheKey) : LocalCache.empty.find? key = none := rfl

theorem LocalCache.find?_put (c : LocalCache) (key other : CacheKey) (rows : List Value) :
    (c.put key rows).find? other = if other = key then some rows else c.find? other := by
  unfold find? put
  rw [List.lookup_cons]
  by_cases h : other = key
  · simp [h]
  · simp [h, beq_eq_false_iff_ne.mpr h]

theorem SessionM.cachedQuery_find?
    (h : ((cachedQuery config command bounds).outcome s).2.session.cache.find? key = some rows) :
    (s.session.cache.find? key = some rows ∧
      (command.key bounds s.parameter = .ok key →
        (cachedQuery config command bounds).outcome s = (.ok rows, s))) ∨
    (command.key bounds s.parameter = .ok key ∧ config.settings.cacheScope = .session ∧
      ((cachedQuery config command bounds).outcome s).1 = .ok rows ∧
      s.database.Executed (fun _ => True)
        ((cachedQuery config command bounds).outcome s).2.database) := by
  rcases hk : command.key bounds s.parameter with e | own
  · rw [cachedQuery_of_error hk] at h
    exact .inl ⟨h, nofun⟩
  · rcases hown : s.session.cache.find? own with _ | found
    · have hcache := (runQuery_inner config command bounds none s (.refl s)).1.cache
      rcases hr : (runQuery config command bounds none).outcome s with ⟨e | found, t⟩ <;>
        rw [hr] at hcache
      · rw [cachedQuery_of_run_error hk hown hr, hcache] at h
        exact .inl ⟨h, fun he => by cases he; rw [hown] at h; cases h⟩
      · rw [cachedQuery_of_run_ok hk hown hr] at h ⊢
        unfold remembering Scope.withCache at h
        dsimp only at h
        split at h
        · simp at h
        · next hscope =>
          rw [LocalCache.find?_put, hcache] at h
          split at h
          · next he =>
            cases he
            cases h
            have hx : s.database.Executed (fun _ => True) t.database := runQuery_executed hr
            refine .inr ⟨rfl, ?_, rfl, hx⟩
            cases hs : config.settings.cacheScope
            · rfl
            · exact absurd hs hscope
          · next he => exact .inl ⟨h, fun ho => absurd (Except.ok.inj ho).symm he⟩
    · rw [cachedQuery_of_found hk hown] at h ⊢
      refine .inl ⟨h, fun he => ?_⟩
      cases he
      rw [show s.session.cache.find? key = some found from hown] at h
      cases h
      rfl

theorem SessionM.query_find? (hclosed : s.session.closed = true → s.session.cache = .empty)
    (h : ((query config command bounds handler).outcome s).2.session.cache.find? key = some rows) :
    (s.session.cache.find? key = some rows ∧ command.flushesCache = false ∧
      (command.isCached handler = true → command.key bounds s.parameter = .ok key →
        (query config command bounds handler).outcome s = (.ok rows, s))) ∨
    (command.isCached handler = true ∧ command.key bounds s.parameter = .ok key ∧
      config.settings.cacheScope = .session ∧
      ((query config command bounds handler).outcome s).1 = .ok rows ∧
      s.database.Executed (fun _ => True)
        ((query config command bounds handler).outcome s).2.database) := by
  cases hopen : s.session.closed
  · rw [query_of_open hopen] at h ⊢
    by_cases hc : command.isCached handler = true
    · rw [if_pos hc] at h ⊢
      rcases hf : command.flushesCache
      · rw [Scope.flushedFor_of_keeps hf] at h ⊢
        obtain ⟨hs, hk⟩ | hran := cachedQuery_find? h
        · exact .inl ⟨hs, rfl, fun _ => hk⟩
        · exact .inr ⟨hc, hran⟩
      · rw [Scope.flushedFor_of_flushes hf] at h ⊢
        obtain ⟨hs, -⟩ | hran := cachedQuery_find? h
        · cases hs
        · exact .inr ⟨hc, hran⟩
    · rw [if_neg hc] at h ⊢
      have hkeep : (s.flushedFor command).session.cache.find? key = some rows := by
        have hcache := (runQuery_inner config command bounds handler _
          (.refl (s.flushedFor command))).1.cache
        rcases hr : (runQuery config command bounds handler).outcome (s.flushedFor command) with
          ⟨e | found, t⟩ <;> rw [hr] at h hcache <;> rw [← hcache]
        · exact h
        · dsimp only at h
          split at h
          · cases h
          · exact h
      rcases hf : command.flushesCache
      · rw [Scope.flushedFor_of_keeps hf] at hkeep
        exact .inl ⟨hkeep, rfl, fun ho => absurd ho hc⟩
      · rw [Scope.flushedFor_of_flushes hf] at hkeep
        cases hkeep
  · rw [query_of_closed hopen, hclosed hopen] at h
    cases h

theorem SessionM.executed_of_run {t v : Scope}
    (hr : (runQuery config command bounds handler).outcome (s.flushedFor command) = (.ok rows, v))
    (hv : t.database = v.database) : s.database.Executed (fun _ => True) t.database := by
  have hx := runQuery_executed hr
  rwa [Scope.flushedFor_database, ← hv] at hx

/-- Rows that the database was not asked for are in the cache. -/
theorem SessionM.query_ok {t : Scope}
    (h : (query config command bounds handler).outcome s = (.ok rows, t)) :
    s.session.closed = false ∧
    ((∃ v, (runQuery config command bounds handler).outcome (s.flushedFor command) = (.ok rows, v) ∧
      t.database = v.database) ∨
    (command.isCached handler = true ∧ t = s ∧ ∃ key, command.key bounds s.parameter = .ok key ∧
        s.session.cache.find? key = some rows)) := by
  cases hopen : s.session.closed
  · refine ⟨rfl, ?_⟩
    rw [query_of_open hopen] at h
    by_cases hc : command.isCached handler = true
    · rw [if_pos hc] at h
      rcases hk : command.key bounds (s.flushedFor command).parameter with e | key
      · rw [cachedQuery_of_error hk] at h
        cases h
      · rcases hown : (s.flushedFor command).session.cache.find? key with _ | found
        · rcases hr : (runQuery config command bounds none).outcome (s.flushedFor command) with
            ⟨e | found, t⟩
          · rw [cachedQuery_of_run_error hk hown hr] at h
            cases h
          · rw [cachedQuery_of_run_ok hk hown hr] at h
            cases h
            have hhandler : handler = none := by
              cases handler with
              | none => rfl
              | some => cases hc
            exact .inl ⟨t, hhandler ▸ hr, rfl⟩
        · rw [cachedQuery_of_found hk hown] at h
          cases h
          rcases hf : command.flushesCache
          · rw [Scope.flushedFor_of_keeps hf] at hk hown ⊢
            exact .inr ⟨hc, rfl, key, hk, hown⟩
          · rw [Scope.flushedFor_of_flushes hf] at hown
            cases hown
    · rw [if_neg hc] at h
      rcases hr : (runQuery config command bounds handler).outcome (s.flushedFor command) with
        ⟨e | found, t⟩ <;> rw [hr] at h
      · cases h
      · obtain ⟨hrows, ht⟩ := Prod.mk.inj h
        cases hrows
        refine .inl ⟨t, rfl, ?_⟩
        rw [← ht]
        split <;> rfl
  · rw [query_of_closed hopen] at h
    cases h

end Queries

namespace Session

variable {config : Configuration} {s : Scope} {op : Operation}

variable (config) in
theorem perform_cache (hopen : s.session.closed = false) (hq : op.query? = none) :
    (op.Forgets config ∧ ((op.perform config).outcome s).2.session.cache = .empty) ∨
    (¬ op.Forgets config ∧
      ((op.perform config).outcome s).2.session.cache = s.session.cache) := by
  cases op with
  | selectOne | selectList | selectMap | selectWithHandler => cases hq
  | insert id | update id | delete id =>
    rw [perform_mutation config rfl]
    cases hc : config.registry.find? id with
    | none =>
      rw [mutate_of_missing hc]
      exact .inr ⟨by simp [Operation.Forgets, hc], rfl⟩
    | some c => exact .inl ⟨⟨c, hc⟩, (mutate_inner hc hopen).cache⟩
  | selectCursor id bounds =>
    rw [perform_selectCursor]
    cases hc : config.registry.find? id with
    | none =>
      rw [selectCursor_of_missing hc]
      exact .inr ⟨by simp [Operation.Forgets, hc], rfl⟩
    | some c =>
      have hi := (selectCursor_inner hc hopen bounds).cache
      rcases hf : c.flushesCache
      · rw [Scope.flushedFor_of_keeps hf] at hi
        exact .inr ⟨by simp [Operation.Forgets, hc, hf], hi⟩
      · rw [Scope.flushedFor_of_flushes hf] at hi
        exact .inl ⟨⟨c, hc, hf⟩, hi⟩
  | flushStatements =>
    rw [perform_flushStatements]
    exact .inr ⟨id, flushStatements_inner.cache⟩
  | commit force =>
    obtain ⟨_, hi⟩ := commit_inner config force hopen
    rw [perform_commit]
    exact .inl ⟨trivial, hi.cache⟩
  | rollback force =>
    obtain ⟨_, hi⟩ := rollback_inner force hopen
    rw [perform_rollback]
    exact .inl ⟨trivial, hi.cache⟩
  | clearCache =>
    rw [perform_clearCache, clearCache_of_open hopen]
    exact .inl ⟨trivial, rfl⟩
  | close =>
    rw [perform_close, close_of_open hopen]
    exact .inl ⟨trivial, rfl⟩

theorem Operation.forgets_query {id : String} {bounds : RowBounds} {handler : Option RowHandler}
    (h : op.query? = some (id, bounds, handler)) :
    op.Forgets config ↔ ∃ c, config.registry.find? id = some c ∧ c.flushesCache = true := by
  cases op <;> cases h <;> rfl

structure CacheFits (config : Configuration) (s : Session) : Prop where
  closed : s.closed = true → s.cache = .empty
  entries : ∀ key rows, s.cache.find? key = some rows →
    config.settings.cacheScope = .session ∧ config.Caches key

end Session

namespace Configuration

variable {config : Configuration} {id : String} {c : Command} {bounds : RowBounds} {p : Parameter}
  {key : CacheKey}

theorem key_of_queryKey (h : config.queryKey id bounds p = .ok key) :
    ∃ c, config.registry.find? id = some c ∧ c.key bounds p.wrapCollection = .ok key := by
  unfold queryKey Registry.get at h
  cases hc : config.registry.find? id with
  | none =>
    rw [hc] at h
    cases h
  | some c =>
    rw [hc] at h
    exact ⟨c, rfl, h⟩

theorem queryKey_of_key (hc : config.registry.find? id = some c)
    (h : c.key bounds p.wrapCollection = .ok key) : config.queryKey id bounds p = .ok key := by
  unfold queryKey Registry.get
  rw [hc]
  exact h

theorem command_of_key {command : Command} (h : command.key bounds p = .ok key) :
    key.command = command.id := by
  obtain ⟨bound, -, h⟩ := ok_of_except_bind_ok h
  obtain ⟨inputs, -, h⟩ := ok_of_except_bind_ok h
  cases h
  rfl

end Configuration

namespace Turn

variable {config : Configuration} {t : Turn} {op : Session.Operation} {p : Parameter} {id : String}
  {bounds : RowBounds} {handler : Option RowHandler} {key : CacheKey}

theorem forgets_perform (ht : t.step = .perform op p) : t.Forgets config ↔ op.Forgets config := by
  constructor
  · rintro ⟨op', p', h, hf⟩
    cases ht.symm.trans h
    exact hf
  · exact fun h => ⟨op, p, ht, h⟩

theorem asks_query (ht : t.step = .perform op p) (hq : op.query? = some (id, bounds, handler)) :
    t.Asks config key ↔ handler = none ∧ config.queryKey id bounds p = .ok key := by
  constructor
  · rintro ⟨op', p', id', bounds', h, hq', hk⟩
    cases ht.symm.trans h
    cases hq.symm.trans hq'
    exact ⟨rfl, hk⟩
  · rintro ⟨rfl, hk⟩
    exact ⟨op, p, id, bounds, ht, hq, hk⟩

theorem executed_of_log (text : String → Prop)
    (h : t.before.database.Executed text t.after.database) : t.Executed := by
  obtain ⟨earlier, s, sql, later, -, hlog, -⟩ := h
  refine ⟨s, sql, ?_⟩
  rw [calls, hlog, List.append_assoc, List.drop_left]
  simp

theorem not_executed_of_log (h : t.after.database.log = t.before.database.log) : ¬ t.Executed := by
  rintro ⟨s, sql, hm⟩
  rw [calls, h, List.drop_length] at hm
  cases hm

end Turn

namespace World

variable {config : Configuration} {w : World} {key : CacheKey} {rows : List Value}

/-- What can be found after a turn was there before and is not forgotten, or is from the turn. -/
def FoundBy (config : Configuration) (w : World) (t : Turn) (key : CacheKey) (rows : List Value) :
    Prop :=
  (w.session.cache.find? key = some rows ∧ ¬ t.Forgets config ∧
    ¬ (t.Asks config key ∧ t.Executed)) ∨
  (t.Rows config key rows ∧ t.Executed ∧ config.settings.cacheScope = .session ∧ config.Caches key)

theorem found_by_query {op : Session.Operation} {p : Parameter} {id : String} {bounds : RowBounds}
    {handler : Option RowHandler} (hw : w.session.CacheFits config)
    (hq : op.query? = some (id, bounds, handler))
    (h : (w.turn config (.perform op p)).after.session.cache.find? key = some rows) :
    w.FoundBy config (w.turn config (.perform op p)) key rows := by
  have hstep : (w.turn config (.perform op p)).step = .perform op p := rfl
  obtain ⟨hdatabase, hafter⟩ := turn_query config (w := w) (p := p) hq
  unfold FoundBy
  rw [Turn.forgets_perform hstep, Session.Operation.forgets_query hq, Turn.asks_query hstep hq]
  rw [hafter] at h
  cases hc : config.registry.find? id with
  | none =>
    rw [Session.query_of_missing hc] at h
    refine .inl ⟨h, ?_, ?_⟩
    · rintro ⟨c, hc', -⟩
      cases hc'
    · rintro ⟨⟨-, hk⟩, -⟩
      obtain ⟨c, hc', -⟩ := Configuration.key_of_queryKey hk
      cases hc.symm.trans hc'
  | some c =>
    obtain ⟨p', hout⟩ := Session.query_of_found (s := w.scope p) hc bounds handler
    rw [hout] at h hdatabase
    rcases SessionM.query_find? (s := (w.scope p).wrapped) hw.closed h with
      ⟨hbefore, hkeeps, hhit⟩ | ⟨hcached, hk, hscope, hrows, hx⟩
    · refine .inl ⟨hbefore, ?_, ?_⟩
      · rintro ⟨_, hc', hf⟩
        cases hc'
        rw [hkeeps] at hf
        cases hf
      · rintro ⟨⟨rfl, hk⟩, hx⟩
        obtain ⟨_, hc', hk⟩ := Configuration.key_of_queryKey hk
        cases hc.symm.trans hc'
        obtain ⟨c', hc'', hkind⟩ := (hw.entries key rows hbefore).2
        rw [Configuration.command_of_key hk, Registry.id_of_find? hc, hc] at hc''
        cases hc''
        refine Turn.not_executed_of_log ?_ hx
        rw [hdatabase, hhit (by simpa [Command.isCached] using hkind) hk]
        rfl
    · have hhandler : handler = none ∧ c.statementKind ≠ .callable := by
        simpa [Command.isCached] using hcached
      obtain ⟨rfl, hkind⟩ := hhandler
      refine .inr ⟨⟨op, p, id, bounds, rfl, hq, Configuration.queryKey_of_key hc hk, ?_⟩,
        Turn.executed_of_log (fun _ => True) ?_, hscope, c, ?_, hkind⟩
      · exact (congrArg Prod.fst hout).trans hrows
      · rw [hdatabase]
        exact hx
      · rw [Configuration.command_of_key hk, Registry.id_of_find? hc, hc]

theorem found_by_turn (hw : w.session.CacheFits config) (step : Step)
    (h : (w.turn config step).after.session.cache.find? key = some rows) :
    w.FoundBy config (w.turn config step) key rows := by
  by_cases hp : ∃ op p, step = .perform op p
  · obtain ⟨op, p, rfl⟩ := hp
    have hstep : (w.turn config (.perform op p)).step = .perform op p := rfl
    cases hq : op.query? with
    | some q => exact found_by_query hw hq h
    | none =>
      have hopen : w.session.closed = false := by
        cases hc : w.session.closed
        · rfl
        · obtain ⟨d, p', he⟩ := Session.perform_of_closed config (s := w.scope p) hc op
          change ((op.perform config).outcome (w.scope p)).2.session.cache.find? key = _ at h
          rw [he] at h
          exact absurd h (by simp [World.scope, Scope.withDirty, hw.closed hc])
      rcases Session.perform_cache config (s := w.scope p) hopen hq with
        ⟨-, he⟩ | ⟨hf, he⟩
      · exact absurd h (by simp [turn_perform, World.following, he])
      · refine .inl ⟨?_, ?_, ?_⟩
        · rwa [← show _ = w.session.cache from he]
        · rwa [Turn.forgets_perform hstep]
        · rintro ⟨⟨op', p', id, bounds, ht, hq', -⟩, -⟩
          cases hstep.symm.trans ht
          cases hq.symm.trans hq'
  · rw [turn_session config fun op p he => hp ⟨op, p, he⟩] at h
    refine .inl ⟨h, ?_, ?_⟩
    · rintro ⟨op, p, hs, -⟩
      rw [turn_step] at hs
      exact hp ⟨op, p, hs⟩
    · rintro ⟨⟨op, p, id, bounds, hs, -⟩, -⟩
      rw [turn_step] at hs
      exact hp ⟨op, p, hs⟩

theorem cacheFits_turn (hw : w.session.CacheFits config)
    (step : Step) : (w.turn config step).after.session.CacheFits config where
  closed hclosed := by
    by_cases hp : ∃ op p, step = .perform op p
    · obtain ⟨op, p, rfl⟩ := hp
      cases hopen : w.session.closed
      · obtain rfl | hop := Classical.em (op = .close)
        · have he := Session.perform_close config (w.scope p)
          rw [Session.close_of_open (s := w.scope p) hopen] at he
          exact congrArg (fun x => x.2.session.cache) he
        · have hkeep := Session.perform_closed config (s := w.scope p) hopen hop
          exact absurd (hkeep.symm.trans hclosed) (by simp)
      · obtain ⟨d, p', he⟩ := Session.perform_of_closed config (s := w.scope p) hopen op
        exact (congrArg (fun s => s.session.cache) he).trans (hw.closed hopen)
    · rw [turn_session config fun op p he => hp ⟨op, p, he⟩] at hclosed ⊢
      exact hw.closed hclosed
  entries key rows h := by
    obtain ⟨hbefore, -⟩ | ⟨-, -, hscope, hk⟩ := found_by_turn hw step h
    · exact hw.entries key rows hbefore
    · exact ⟨hscope, hk⟩

/-- A query that ends well has had something executed, or its rows were in the cache. -/
theorem executed_or_found {step : Step}
    (h : (w.turn config step).Rows config key rows) :
    (w.turn config step).Executed ∨
      ((w.turn config step).calls = [] ∧ w.session.cache.find? key = some rows) := by
  obtain ⟨op, p, id, bounds, hs, hq, hk, hrows⟩ := h
  rw [turn_step] at hs
  subst hs
  rw [turn_before] at hrows
  obtain ⟨c, hc, hk⟩ := Configuration.key_of_queryKey hk
  obtain ⟨p', hout⟩ := Session.query_of_found (s := w.scope p) hc bounds none
  have hdatabase := (turn_query config (w := w) (p := p) hq).1
  rw [hout] at hrows hdatabase
  obtain ⟨v, hr, hv⟩ | ⟨-, hsame, key', hk', hfound⟩ := (SessionM.query_ok (Prod.ext hrows rfl)).2
  · refine .inl (Turn.executed_of_log (fun _ => True) ?_)
    rw [hdatabase]
    exact SessionM.executed_of_run hr hv
  · cases hk.symm.trans hk'
    refine .inr ⟨?_, hfound⟩
    have hlog : (w.turn config (.perform op p)).after.database.log = w.database.log := by
      rw [hdatabase]
      exact congrArg (fun s => s.database.log) hsame
    rw [Turn.calls, hlog, turn_before, List.drop_length]

theorem executed_of_handler {id : String} {bounds : RowBounds} {handler : RowHandler}
    {p : Parameter} {a : Session.Answer}
    (h : (w.turn config (.perform (.selectWithHandler id bounds handler) p)).result = some (.ok a)) :
    (w.turn config (.perform (.selectWithHandler id bounds handler) p)).Executed := by
  have hq : (Session.Operation.selectWithHandler id bounds handler).query? =
      some (id, bounds, some handler) := rfl
  obtain ⟨rows, hrows⟩ := (Session.perform_query config hq (w.scope p)).ok a
    (Option.some.inj h)
  cases hc : config.registry.find? id with
  | none =>
    rw [Session.query_of_missing hc] at hrows
    cases hrows
  | some c =>
    obtain ⟨p', hout⟩ := Session.query_of_found (s := w.scope p) hc bounds (some handler)
    have hdatabase := (turn_query config (w := w) (p := p) hq).1
    rw [hout] at hrows hdatabase
    obtain ⟨v, hr, hv⟩ | ⟨hcached, -⟩ := (SessionM.query_ok (Prod.ext hrows rfl)).2
    · refine Turn.executed_of_log (fun _ => True) ?_
      rw [hdatabase]
      exact SessionM.executed_of_run hr hv
    · cases hcached

theorem executed_of_cursor {id : String} {bounds : RowBounds} {p : Parameter} {a : Session.Answer}
    (h : (w.turn config (.perform (.selectCursor id bounds) p)).result = some (.ok a)) :
    (w.turn config (.perform (.selectCursor id bounds) p)).Executed := by
  have hperform := Session.perform_selectCursor config id bounds (w.scope p)
  have hresult := (congrArg Prod.fst hperform).symm.trans (Option.some.inj h)
  have hdatabase := congrArg (fun x => x.2.database) hperform
  cases hc : config.registry.find? id with
  | none =>
    rw [Session.selectCursor_of_missing hc] at hresult
    cases hresult
  | some c =>
    obtain ⟨p', hout⟩ := Session.selectCursor_of_found (s := w.scope p) hc bounds
    rw [hout] at hresult hdatabase
    rcases ho : (SessionM.openCursor config c bounds).outcome (w.scope p).wrapped with
      ⟨e | cursor, t⟩ <;> rw [ho] at hresult hdatabase
    · cases hresult
    · have hx : w.database.Executed (fun _ => True) t.database := SessionM.openCursor_executed ho
      have hafter : (w.turn config (.perform (.selectCursor id bounds) p)).after.database =
        t.database := hdatabase
      exact Turn.executed_of_log (fun _ => True) (by rw [hafter]; exact hx)

theorem remembered_turn (hw : w.session.CacheFits config)
    {past : List Turn}
    (hpast : ∀ key rows, w.session.cache.find? key = some rows → Remembered config past key rows)
    (step : Step) (h : (w.turn config step).after.session.cache.find? key = some rows) :
    Remembered config (past ++ [w.turn config step]) key rows := by
  obtain ⟨hbefore, hforgets, hasks⟩ | ⟨hrows, hx, -⟩ := found_by_turn hw step h
  · obtain ⟨older, e, newer, rfl, hrows, hx, hnewer⟩ := hpast key rows hbefore
    refine ⟨older, e, newer ++ [w.turn config step], by simp, hrows, hx, fun t ht => ?_⟩
    obtain ht | ht := List.mem_append.mp ht
    · exact hnewer t ht
    · cases List.mem_singleton.mp ht
      exact ⟨hforgets, hasks⟩
  · exact ⟨past, w.turn config step, [], rfl, hrows, hx, fun t ht => absurd ht List.not_mem_nil⟩

end World

namespace Run

variable {config : Configuration} {db : Database} {type : ExecutorType}
  {tr : Transaction} {autoCommit : Bool} {past : List Turn} {w : World}

theorem cacheFits (hr : Run config (.opened db type tr autoCommit) past w) :
    w.session.CacheFits config := by
  induction hr with
  | start => exact ⟨fun _ => rfl, fun _ _ h => by cases h⟩
  | turn _ step ih => exact World.cacheFits_turn ih step

theorem remembered (hr : Run config (.opened db type tr autoCommit) past w) (key : CacheKey)
    (rows : List Value) (h : w.session.cache.find? key = some rows) : Remembered config past key rows := by
  induction hr generalizing key rows with
  | start => cases h
  | turn run step ih =>
    exact World.remembered_turn run.cacheFits (fun key rows => ih key rows) step h

/-- A query for rows has its text executed, or it makes no call at all and answers what the database
said the last time it was asked the same, nothing having happened since that makes a session forget.
New rows are only remembered of queries that ended well. Callbacks and cursors get theirs from the
database. -/
theorem answers_executed_or_remembered
    (hr : Run config (.opened db type tr autoCommit) past w) (step : Step) :
    (∀ key rows, (w.turn config step).Rows config key rows →
      (w.turn config step).Executed ∨
      ((w.turn config step).calls = [] ∧ config.settings.cacheScope = .session ∧
        config.Caches key ∧ Remembered config past key rows)) ∧
    (∀ key rows, (w.turn config step).after.session.cache.find? key = some rows →
      config.settings.cacheScope = .session ∧ config.Caches key ∧
      (w.session.cache.find? key = some rows ∨
        (w.turn config step).Rows config key rows ∧ (w.turn config step).Executed)) ∧
    (∀ op p a, step = .perform op p → op.HandsOver →
      (w.turn config step).result = some (.ok a) → (w.turn config step).Executed) := by
  have hfits := hr.cacheFits
  refine ⟨fun key rows h => ?_, fun key rows h => ?_, ?_⟩
  · obtain hx | ⟨hcalls, hfound⟩ := World.executed_or_found h
    · exact .inl hx
    · obtain ⟨hscope, hk⟩ := hfits.entries key rows hfound
      exact .inr ⟨hcalls, hscope, hk, hr.remembered key rows hfound⟩
  · obtain ⟨hscope, hk⟩ := (World.cacheFits_turn hfits step).entries key rows h
    refine ⟨hscope, hk, ?_⟩
    obtain ⟨hbefore, -⟩ | ⟨hrows, hx, -⟩ := World.found_by_turn hfits step h
    · exact .inl hbefore
    · exact .inr ⟨hrows, hx⟩
  · rintro op p a rfl hop ha
    cases op with
    | selectWithHandler id bounds handler => exact World.executed_of_handler ha
    | selectCursor id bounds => exact World.executed_of_cursor ha
    | _ => cases hop

end Run

def loneConfig : Configuration where
  settings := .standard
  registry := .insert .empty
    ((Command.ofSource "q" .select (.template ⟨"SELECT 1", []⟩)).withDefaultKind .prepared)
  collections := .standard
  mapper := .byLabel false

def loneWorld : World :=
  .opened (.ofScript ⟨fun _ => [("SELECT 1", .ofRows ["x"] [[.bool true]])]⟩) .simple
    (.overSource false none) false

def loneQuery : Step := .perform (.selectOne "q") .absent

/-- The query after the same query is answered from the cache. -/
theorem second_query_remembered :
    ((loneWorld.turn loneConfig loneQuery).after.turn loneConfig loneQuery).calls = [] ∧
      Remembered loneConfig [loneWorld.turn loneConfig loneQuery] ⟨"q", .all, "SELECT 1", []⟩
        [.object [("x", .bool true)]] := by
  have hrows : ((loneWorld.turn loneConfig loneQuery).after.turn loneConfig loneQuery).Rows
      loneConfig ⟨"q", .all, "SELECT 1", []⟩ [.object [("x", .bool true)]] :=
    ⟨.selectOne "q", .absent, "q", .all, rfl, rfl, rfl, rfl⟩
  have hcalls :
      ((loneWorld.turn loneConfig loneQuery).after.turn loneConfig loneQuery).calls = [] := rfl
  have hrun : Run loneConfig loneWorld [loneWorld.turn loneConfig loneQuery]
      (loneWorld.turn loneConfig loneQuery).after := .turn .start loneQuery
  have hanswers := (Run.answers_executed_or_remembered hrun loneQuery).1 _ _ hrows
  obtain ⟨s, sql, hx⟩ | ⟨-, -, -, hremembered⟩ := hanswers
  · rw [hcalls] at hx
    cases hx
  · exact ⟨hcalls, hremembered⟩

end SqlMapper
