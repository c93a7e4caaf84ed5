import SqlMapper.Proofs.Cursor
import SqlMapper.Proofs.Session.Command
import SqlMapper.Proofs.Session.Run

namespace SqlMapper

open Fallible

variable {α β : Type}

namespace Session

variable {config : Configuration} {id : String} {c : Command} {bounds : RowBounds}
  {handler : Option RowHandler} {s : Scope}

theorem wrapped_outcome (x : SessionM α) (s : Scope) :
    ∃ p, (wrapped x).outcome s =
      ((x.outcome s.wrapped).1, { (x.outcome s.wrapped).2 with parameter := p }) := by
  rw [wrapped, SessionM.outcome_parameter_bind]
  split
  · next items hp =>
    refine ⟨s.parameter, ?_⟩
    have hw : s.wrapped =
        { s with parameter := (Parameter.single (.array items)).wrapCollection } := by
      rw [Scope.wrapped, hp]
    rw [outcome_bind, SessionM.withParameter_outcome, ← hw]
    rcases x.outcome s.wrapped with ⟨e | a, t⟩ <;> rfl
  · next hp =>
    have hw : s.wrapped = s := by
      unfold Scope.wrapped Parameter.wrapCollection
      split
      · next items he => exact absurd he (hp items)
      · rfl
    exact ⟨(x.outcome s).2.parameter, by rw [hw]⟩

theorem command_bind_of_missing (h : config.registry.find? id = none) (f : Command → SessionM α) :
    (command config id >>= f).outcome s = (.error (.commandNotFound id), s) := by
  rw [command, Registry.get, h]
  rfl

theorem command_bind_of_found (h : config.registry.find? id = some c) (f : Command → SessionM α) :
    (command config id >>= f).outcome s = (f c).outcome s := by
  rw [command, Registry.get, h]
  rfl

theorem query_of_missing (h : config.registry.find? id = none) :
    (query config id bounds handler).outcome s = (.error (.commandNotFound id), s) :=
  command_bind_of_missing h _

theorem query_of_found (h : config.registry.find? id = some c) (bounds : RowBounds)
    (handler : Option RowHandler) :
    ∃ p, (query config id bounds handler).outcome s =
      (((SessionM.query config c bounds handler).outcome s.wrapped).1,
        { ((SessionM.query config c bounds handler).outcome s.wrapped).2 with parameter := p }) := by
  rw [query, command_bind_of_found h]
  exact wrapped_outcome _ s

theorem query_of_closed (hc : config.registry.find? id = some c) (h : s.session.closed = true)
    (bounds : RowBounds) (handler : Option RowHandler) :
    ∃ p, (query config id bounds handler).outcome s =
      (.error (.executor .closed), { s with parameter := p }) := by
  obtain ⟨p, hq⟩ := query_of_found (s := s) hc bounds handler
  exact ⟨p, by rw [hq, SessionM.query_of_closed (s := s.wrapped) h]; rfl⟩

theorem mutate_of_missing (h : config.registry.find? id = none) :
    (mutate config id).outcome s = (.error (.commandNotFound id), s) :=
  command_bind_of_missing h _

theorem mutate_of_found (h : config.registry.find? id = some c) :
    ∃ p, (mutate config id).outcome s =
      (((SessionM.mutate config c).outcome (s.withDirty true).wrapped).1,
        { ((SessionM.mutate config c).outcome (s.withDirty true).wrapped).2 with
          parameter := p }) := by
  rw [mutate, command_bind_of_found h, SessionM.outcome_changeSession_bind]
  exact wrapped_outcome _ (s.withDirty true)

theorem mutate_of_closed (hc : config.registry.find? id = some c) (h : s.session.closed = true) :
    ∃ p, (mutate config id).outcome s =
      (.error (.executor .closed), { s.withDirty true with parameter := p }) := by
  obtain ⟨p, hm⟩ := mutate_of_found (s := s) hc
  exact ⟨p, by rw [hm, SessionM.mutate_of_closed (s := (s.withDirty true).wrapped) h]; rfl⟩

theorem selectCursor_of_missing (h : config.registry.find? id = none) :
    (selectCursor config id bounds).outcome s = (.error (.commandNotFound id), s) :=
  command_bind_of_missing h _

theorem selectCursor_of_found (h : config.registry.find? id = some c) (bounds : RowBounds) :
    ∃ p, (selectCursor config id bounds).outcome s =
      (((SessionM.openCursor config c bounds).outcome s.wrapped).1,
        { ((SessionM.openCursor config c bounds).outcome s.wrapped).2 with parameter := p }) := by
  rw [selectCursor, command_bind_of_found h]
  exact wrapped_outcome _ s

theorem selectCursor_of_closed (hc : config.registry.find? id = some c)
    (h : s.session.closed = true) (bounds : RowBounds) :
    ∃ p, (selectCursor config id bounds).outcome s =
      (.error (.executor .closed), { s with parameter := p }) := by
  obtain ⟨p, hs⟩ := selectCursor_of_found (s := s) hc bounds
  exact ⟨p, by rw [hs, SessionM.openCursor_of_closed (s := s.wrapped) h]; rfl⟩

theorem flushStatements_of_closed (h : s.session.closed = true) :
    (flushStatements config).outcome s = (.error (.executor .closed), s) :=
  outcome_bind_of_error (SessionM.ensureOpen_of_closed h)

theorem flushStatements_of_open (h : s.session.closed = false) :
    (flushStatements config).outcome s = (SessionM.flush config).outcome s :=
  outcome_bind_of_ok (SessionM.ensureOpen_of_open h)

theorem commit_of_closed {force : Bool} (h : s.session.closed = true) :
    (commit config force).outcome s = (.error (.executor .commitAfterClose), s) := by
  rw [commit, SessionM.outcome_session_bind, if_pos h]
  rfl

/-- The end of a transaction on the database, and of what was undecided in the session, if what
comes before went well. -/
def finishing (must : Bool) (finish : Transaction → DriverM Unit) :
    Except Error α × Scope → Except Error Unit × Scope
  | (.error e, s) => (.error e, s)
  | (.ok _, s) =>
    if must then
      match (finish s.session.transaction).outcome s.database with
      | (.ok _, db) => (.ok (), { s with database := db }.withDirty false)
      | (.error e, db) => (.error e, { s with database := db })
    else (.ok (), s.withDirty false)

theorem commit_of_open {force : Bool} (h : s.session.closed = false) :
    (commit config force).outcome s =
      finishing (s.session.mustFinish force) Transaction.commit
        ((SessionM.flush config).outcome (s.withCache .empty)) := by
  rw [commit, SessionM.outcome_session_bind, if_neg (by simp [h])]
  dsimp only
  rw [outcome_bind_of_ok SessionM.clearCache_outcome, outcome_bind, outcome_discard]
  obtain ⟨e | r, t⟩ := (SessionM.flush config).outcome (s.withCache .empty)
  · rfl
  · simp only [Except.map, finishing]
    cases s.session.mustFinish force
    · rfl
    · rw [if_pos rfl, if_pos rfl, SessionM.outcome_session_bind, SessionM.outcome_lift_bind]
      rcases t.session.transaction.commit.outcome t.database with ⟨e | _, db⟩ <;> rfl

theorem rollback_of_closed {force : Bool} (h : s.session.closed = true) :
    (rollback force).outcome s = (.ok (), s.withDirty false) := by
  rw [rollback, SessionM.outcome_session_bind, h]
  rfl

theorem rollback_of_open {force : Bool} (h : s.session.closed = false) :
    (rollback force).outcome s =
      finishing (s.session.mustFinish force) Transaction.rollback
        (SessionM.abandon.outcome (s.withCache .empty)) := by
  rw [rollback, SessionM.outcome_session_bind, if_neg (by simp [h])]
  dsimp only
  rw [outcome_bind_of_ok SessionM.clearCache_outcome, outcome_bind]
  obtain ⟨e | r, t⟩ := SessionM.abandon.outcome (s.withCache .empty)
  · rfl
  · simp only [finishing]
    cases s.session.mustFinish force
    · rfl
    · rw [if_pos rfl, if_pos rfl, SessionM.outcome_session_bind, SessionM.outcome_lift_bind]
      rcases t.session.transaction.rollback.outcome t.database with ⟨e | _, db⟩ <;> rfl

theorem close_of_closed (h : s.session.closed = true) :
    close.outcome s = (.ok (), s.withDirty false) := by
  rw [close, SessionM.outcome_session_bind, h]
  rfl

def left (s : Scope) : Scope :=
  { s with
    database := (s.session.transaction.closeConnection.outcome s.database).2
    session := { s.session with
      transaction := s.session.transaction.released
      cache := .empty
      closed := true
      dirty := false } }

theorem close_of_open (h : s.session.closed = false) :
    close.outcome s = (.ok (), left ((rollback false).outcome s).2) := by
  rw [close, SessionM.outcome_session_bind, if_neg (by simp [h])]
  rfl

theorem mutate_inner (hc : config.registry.find? id = some c) (h : s.session.closed = false) :
    ((s.withDirty true).withCache .empty).Inner ((mutate config id).outcome s).2 := by
  obtain ⟨p, hm⟩ := mutate_of_found (s := s) hc
  have hi := SessionM.mutate_inner config c
    (s := (s.withDirty true).wrapped) h
  rw [← Scope.wrapped_withCache] at hi
  rw [hm]
  exact hi.of_wrapped.withParameter p

theorem selectCursor_inner (hc : config.registry.find? id = some c)
    (h : s.session.closed = false) (bounds : RowBounds) :
    (s.flushedFor c).Inner ((selectCursor config id bounds).outcome s).2 := by
  obtain ⟨p, hs⟩ := selectCursor_of_found (s := s) hc bounds
  have hi := SessionM.openCursor_inner config c bounds
    (s := s.wrapped) h
  rw [← Scope.wrapped_flushedFor] at hi
  rw [hs]
  exact hi.of_wrapped.withParameter p

theorem flushStatements_inner : s.Inner ((flushStatements config).outcome s).2 := by
  cases h : s.session.closed
  · rw [flushStatements_of_open h]
    exact (SessionM.flush_inner config _ (.refl s)).1
  · rw [flushStatements_of_closed h]
    exact .refl s

theorem finishing_inner {finish : Connection → DriverM Unit}
    (hfinish : ∀ (c : Connection) (db₀ : Database),
      Maintains (fun db => db₀.log <+: db.log) (finish c) fun _ => True)
    (must : Bool) {x : Except Error α × Scope} (hx : s.Inner x.2) :
    ∃ d, (s.withDirty d).Inner (finishing must (·.finishWith finish) x).2 := by
  obtain ⟨e | a, t⟩ := x
  · exact ⟨s.session.dirty, hx⟩
  · have hlog := (t.session.transaction.finishWith_maintains
      (fun c _ => c.autoCommit_grows t.database) (fun c _ => hfinish c t.database) _
        List.prefix_rfl).1
    unfold finishing
    dsimp only
    split
    · rcases hf : (t.session.transaction.finishWith finish).outcome t.database with ⟨e | _, db⟩ <;>
        rw [hf] at hlog
      · exact ⟨s.session.dirty, hx.log.trans hlog, hx.cache, hx.closed, hx.autoCommit, hx.dirty⟩
      · exact ⟨false, hx.log.trans hlog, hx.cache, hx.closed, hx.autoCommit, rfl⟩
    · exact ⟨false, hx.log, hx.cache, hx.closed, hx.autoCommit, rfl⟩

variable (config) in
theorem commit_inner (force : Bool) (h : s.session.closed = false) :
    ∃ d, ((s.withCache .empty).withDirty d).Inner ((commit config force).outcome s).2 := by
  rw [commit_of_open h]
  exact finishing_inner Connection.commit_grows _ (SessionM.flush_inner config _ (.refl _)).1

theorem rollback_inner (force : Bool) (h : s.session.closed = false) :
    ∃ d, ((s.withCache .empty).withDirty d).Inner ((rollback force).outcome s).2 := by
  rw [rollback_of_open h]
  exact finishing_inner Connection.rollback_grows _ (SessionM.abandon_inner _ (.refl _)).1

theorem close_grows : s.database.log <+: (close.outcome s).2.database.log := by
  cases h : s.session.closed
  · obtain ⟨d, hd⟩ := rollback_inner (s := s) false h
    have hclose : ∀ (t : Transaction) (db : Database),
        db.log <+: (t.closeConnection.outcome db).2.log := fun t db =>
      (t.closeConnection_apart db (.self db)).1.prefix_log
    rw [close_of_open h]
    exact hd.log.trans (hclose _ _)
  · rw [close_of_closed h]
    exact List.prefix_rfl

theorem query_inner (config : Configuration) (id : String) (bounds : RowBounds)
    (handler : Option RowHandler) (s : Scope) :
    ∃ c, (s.withCache c).Inner ((query config id bounds handler).outcome s).2 := by
  cases hc : config.registry.find? id with
  | none =>
    rw [query_of_missing hc]
    exact ⟨s.session.cache, .refl s⟩
  | some command =>
    obtain ⟨p, hq⟩ := query_of_found (s := s) hc bounds handler
    obtain ⟨c, hi⟩ := SessionM.query_inner config command bounds handler s.wrapped
    rw [← Scope.wrapped_withCache] at hi
    rw [hq]
    exact ⟨c, hi.of_wrapped.withParameter p⟩

theorem query_closed (s : Scope) :
    ((query config id bounds handler).outcome s).2.session.closed = s.session.closed := by
  obtain ⟨_, hi⟩ := query_inner config id bounds handler s
  exact hi.closed

def Operation.query? : Operation → Option (String × RowBounds × Option RowHandler)
  | .selectOne id => some (id, .all, none)
  | .selectList id bounds => some (id, bounds, none)
  | .selectMap id _ bounds => some (id, bounds, none)
  | .selectWithHandler id bounds handler => some (id, bounds, some handler)
  | _ => none

def Operation.mutation? : Operation → Option String
  | .insert id | .update id | .delete id => some id
  | _ => none

/-- Operations that send what is queued, the queries among them unless they are in the cache. -/
def Operation.Sends : Operation → Prop
  | .selectOne _ | .selectList _ _ | .selectMap _ _ _ | .selectWithHandler _ _ _ | .selectCursor _ _
  | .flushStatements | .commit _ => True
  | _ => False

variable {op : Operation}

/-- `y` fails if `x` does, ends well only if `x` does, and leaves the state that `x` leaves. -/
structure Follows (s : Scope) (x : SessionM β) (y : SessionM α) : Prop where
  state : (y.outcome s).2 = (x.outcome s).2
  ok : ∀ a, (y.outcome s).1 = .ok a → ∃ b, (x.outcome s).1 = .ok b
  error : ∀ e, (x.outcome s).1 = .error e → (y.outcome s).1 = .error e

theorem Follows.refl (x : SessionM α) : Follows s x x :=
  ⟨rfl, fun a ha => ⟨a, ha⟩, fun _ he => he⟩

theorem Follows.bind {γ : Type} {x : SessionM β} {y : SessionM α} {f : α → SessionM γ}
    (h : Follows s x y) (hf : ∀ a t, ((f a).outcome t).2 = t) : Follows s x (y >>= f) := by
  refine ⟨(snd_bind hf s).trans h.state, fun c hc => ?_, fun e he => ?_⟩
  · obtain ⟨a, t, ha, -⟩ := ok_of_bind_ok (Prod.ext hc rfl)
    exact h.ok a (congrArg Prod.fst ha)
  · rw [outcome_bind_of_error (Prod.ext (h.error e he) rfl)]

variable (config) in
theorem perform_query (h : op.query? = some (id, bounds, handler)) (s : Scope) :
    Follows s (query config id bounds handler) (op.perform config) := by
  cases op <;> cases h
  · refine ((Follows.refl _).bind fun rows t => ?_).bind fun _ _ => rfl
    split <;> rfl
  · exact (Follows.refl _).bind fun _ _ => rfl
  · exact ((Follows.refl _).bind fun _ _ => rfl).bind fun _ _ => rfl
  · exact ((Follows.refl _).bind fun _ _ => rfl).bind fun _ _ => rfl

variable (config) in
theorem perform_mutation (h : op.mutation? = some id) (s : Scope) :
    (op.perform config).outcome s =
      (((mutate config id).outcome s).1.map .count, ((mutate config id).outcome s).2) := by
  cases op <;> cases h <;> exact outcome_bind_pure _ _ s

variable (config) in
theorem perform_selectCursor (id : String) (bounds : RowBounds) (s : Scope) :
    ((Operation.selectCursor id bounds).perform config).outcome s =
      (((selectCursor config id bounds).outcome s).1.map .cursor,
        ((selectCursor config id bounds).outcome s).2) := outcome_bind_pure _ _ s

variable (config) in
theorem perform_flushStatements (s : Scope) :
    (Operation.flushStatements.perform config).outcome s =
      (((flushStatements config).outcome s).1.map .batches,
        ((flushStatements config).outcome s).2) := outcome_bind_pure _ _ s

variable (config) in
theorem perform_commit (force : Bool) (s : Scope) :
    ((Operation.commit force).perform config).outcome s =
      (((commit config force).outcome s).1.map fun _ => .done,
        ((commit config force).outcome s).2) := outcome_bind_pure _ _ s

variable (config) in
theorem perform_rollback (force : Bool) (s : Scope) :
    ((Operation.rollback force).perform config).outcome s =
      (((rollback force).outcome s).1.map fun _ => .done, ((rollback force).outcome s).2) :=
  outcome_bind_pure _ _ s

variable (config) in
theorem perform_clearCache (s : Scope) :
    (Operation.clearCache.perform config).outcome s =
      ((clearCache.outcome s).1.map fun _ => .done, (clearCache.outcome s).2) :=
  outcome_bind_pure _ _ s

variable (config) in
theorem perform_close (s : Scope) :
    (Operation.close.perform config).outcome s =
      ((close.outcome s).1.map fun _ => .done, (close.outcome s).2) := outcome_bind_pure _ _ s

theorem query_grows :
    s.database.log <+: ((query config id bounds handler).outcome s).2.database.log := by
  obtain ⟨_, hi⟩ := query_inner config id bounds handler s
  exact hi.log

theorem mutate_grows : s.database.log <+: ((mutate config id).outcome s).2.database.log := by
  cases hc : config.registry.find? id with
  | none =>
    simp [mutate_of_missing hc]
  | some c =>
    cases h : s.session.closed
    · exact (mutate_inner hc h).log
    · obtain ⟨p, hm⟩ := mutate_of_closed (s := s) hc h
      rw [hm]
      exact List.prefix_rfl

theorem selectCursor_grows :
    s.database.log <+: ((selectCursor config id bounds).outcome s).2.database.log := by
  cases hc : config.registry.find? id with
  | none =>
    simp [selectCursor_of_missing hc]
  | some c =>
    cases h : s.session.closed
    · have hlog := (selectCursor_inner hc h bounds).log
      unfold Scope.flushedFor at hlog
      split at hlog <;> exact hlog
    · obtain ⟨p, hs⟩ := selectCursor_of_closed hc h bounds
      simp [hs]

theorem commit_grows (force : Bool) :
    s.database.log <+: ((commit config force).outcome s).2.database.log := by
  cases h : s.session.closed
  · obtain ⟨_, hi⟩ := commit_inner config force h
    exact hi.log
  · simp [commit_of_closed h]

theorem rollback_grows (force : Bool) :
    s.database.log <+: ((rollback force).outcome s).2.database.log := by
  cases h : s.session.closed
  · obtain ⟨_, hi⟩ := rollback_inner force h
    exact hi.log
  · rw [rollback_of_closed h]
    exact List.prefix_rfl

theorem clearCache_of_closed (h : s.session.closed = true) :
    clearCache.outcome s = (.ok (), s) := by
  rw [clearCache, SessionM.outcome_session_bind, h]
  rfl

theorem clearCache_of_open (h : s.session.closed = false) :
    clearCache.outcome s = (.ok (), s.withCache .empty) := by
  rw [clearCache, SessionM.outcome_session_bind, h]
  rfl

theorem clearCache_grows : s.database.log <+: (clearCache.outcome s).2.database.log := by
  cases h : s.session.closed
  · simp [clearCache_of_open h, Scope.withCache]
  · simp [clearCache_of_closed h]

theorem perform_grows (op : Operation) (s : Scope) :
    s.database.log <+: ((op.perform config).outcome s).2.database.log := by
  cases op with
  | selectOne | selectList | selectMap | selectWithHandler =>
    rw [(perform_query config rfl s).state]
    exact query_grows
  | insert | update | delete =>
    rw [perform_mutation config rfl]
    exact mutate_grows
  | selectCursor =>
    rw [perform_selectCursor]
    exact selectCursor_grows
  | flushStatements =>
    rw [perform_flushStatements]
    exact flushStatements_inner.log
  | commit force =>
    rw [perform_commit]
    exact commit_grows force
  | rollback force =>
    rw [perform_rollback]
    exact rollback_grows force
  | clearCache =>
    rw [perform_clearCache]
    exact clearCache_grows
  | close =>
    rw [perform_close]
    exact close_grows

variable (config) in
theorem perform_closed (hopen : s.session.closed = false) (h : op ≠ .close) :
    ((op.perform config).outcome s).2.session.closed = false := by
  cases op with
  | selectOne | selectList | selectMap | selectWithHandler =>
    rw [(perform_query config rfl s).state, query_closed, hopen]
  | insert id | update id | delete id =>
    rw [perform_mutation config rfl]
    cases hc : config.registry.find? id with
    | none => rwa [mutate_of_missing hc]
    | some c => exact (mutate_inner hc hopen).closed.trans hopen
  | selectCursor id bounds =>
    rw [perform_selectCursor]
    cases hc : config.registry.find? id with
    | none => rwa [selectCursor_of_missing hc]
    | some c =>
      rw [(selectCursor_inner hc hopen bounds).closed]
      unfold Scope.flushedFor
      split <;> exact hopen
  | flushStatements =>
    rw [perform_flushStatements]
    exact flushStatements_inner.closed.trans hopen
  | commit force =>
    obtain ⟨_, hi⟩ := commit_inner config force hopen
    rw [perform_commit]
    exact hi.closed.trans hopen
  | rollback force =>
    obtain ⟨_, hi⟩ := rollback_inner force hopen
    rw [perform_rollback]
    exact hi.closed.trans hopen
  | clearCache => rwa [perform_clearCache, clearCache_of_open hopen]
  | close => exact absurd rfl h

/-- Nothing was done but to make the session dirty. -/
def Refused (s : Scope) (x : Except Error α × Scope) : Prop :=
  ∃ e d p, x = (.error e, { s.withDirty d with parameter := p })

theorem Refused.of_same {e : Error} {x : Except Error α × Scope} (h : x = (.error e, s)) :
    Refused s x :=
  ⟨e, s.session.dirty, s.parameter, h⟩

theorem Refused.map {x : Except Error α × Scope} (h : Refused s x) (f : α → β) :
    Refused s (x.1.map f, x.2) := by
  obtain ⟨e, d, p, rfl⟩ := h
  exact ⟨e, d, p, rfl⟩

theorem Follows.refused {x : SessionM β} {y : SessionM α} (h : Follows s x y)
    (hx : Refused s (x.outcome s)) : Refused s (y.outcome s) := by
  obtain ⟨e, d, p, hx⟩ := hx
  refine ⟨e, d, p, Prod.ext (h.error e ?_) ?_⟩
  · rw [hx]
  · rw [h.state, hx]

theorem query_refused (hclosed : s.session.closed = true) (id : String) (bounds : RowBounds)
    (handler : Option RowHandler) : Refused s ((query config id bounds handler).outcome s) := by
  cases hc : config.registry.find? id with
  | none => exact .of_same (query_of_missing hc)
  | some c =>
    obtain ⟨p, hq⟩ := query_of_closed hc hclosed bounds handler
    exact ⟨_, s.session.dirty, p, hq⟩

theorem mutate_refused (hclosed : s.session.closed = true) (id : String) :
    Refused s ((mutate config id).outcome s) := by
  cases hc : config.registry.find? id with
  | none => exact .of_same (mutate_of_missing hc)
  | some c =>
    obtain ⟨p, hm⟩ := mutate_of_closed hc hclosed
    exact ⟨_, true, p, hm⟩

theorem selectCursor_refused (hclosed : s.session.closed = true) (id : String)
    (bounds : RowBounds) : Refused s ((selectCursor config id bounds).outcome s) := by
  cases hc : config.registry.find? id with
  | none => exact .of_same (selectCursor_of_missing hc)
  | some c =>
    obtain ⟨p, hs⟩ := selectCursor_of_closed hc hclosed bounds
    exact ⟨_, s.session.dirty, p, hs⟩

variable (config) in
theorem perform_refused (hclosed : s.session.closed = true)
    (h : op.Sends ∨ op.mutation? ≠ none) : Refused s ((op.perform config).outcome s) := by
  cases op with
  | selectOne | selectList | selectMap | selectWithHandler =>
    exact (perform_query config rfl s).refused (query_refused hclosed _ _ _)
  | insert id | update id | delete id =>
    rw [perform_mutation config rfl]
    exact (mutate_refused hclosed id).map _
  | selectCursor id bounds =>
    rw [perform_selectCursor]
    exact (selectCursor_refused hclosed id bounds).map _
  | flushStatements =>
    rw [perform_flushStatements]
    exact (Refused.of_same (flushStatements_of_closed hclosed)).map _
  | commit force =>
    rw [perform_commit]
    exact (Refused.of_same (commit_of_closed hclosed)).map _
  | rollback | clearCache | close =>
    rcases h with h | h <;> exact absurd h (by simp [Operation.Sends, Operation.mutation?])

variable (config) in
theorem perform_of_closed (hclosed : s.session.closed = true) (op : Operation) :
    ∃ d p, ((op.perform config).outcome s).2 = { s.withDirty d with parameter := p } := by
  by_cases h : op.Sends ∨ op.mutation? ≠ none
  · obtain ⟨e, d, p, hr⟩ := perform_refused config hclosed h
    exact ⟨d, p, congrArg Prod.snd hr⟩
  · cases op with
    | rollback force =>
      rw [perform_rollback, rollback_of_closed hclosed]
      exact ⟨false, s.parameter, rfl⟩
    | clearCache =>
      rw [perform_clearCache, clearCache_of_closed hclosed]
      exact ⟨s.session.dirty, s.parameter, rfl⟩
    | close =>
      rw [perform_close, close_of_closed hclosed]
      exact ⟨false, s.parameter, rfl⟩
    | _ => exact absurd h (by simp [Operation.Sends, Operation.mutation?])

end Session

namespace World

variable {config : Configuration} {w : World} {op : Session.Operation} {p : Parameter}

theorem onCursor_grows (i : Nat) {work : Cursor → DriverM Cursor}
    (h : ∀ (c : Cursor) (db : Database), Maintains (db.Apart []) (work c) fun _ => True) :
    w.database.log <+: (w.onCursor i work).database.log := by
  unfold onCursor
  split
  · exact List.prefix_rfl
  · next c hc =>
    have hlog := (h c w.database _ (.self _)).1.prefix_log
    rcases hw : (work c).outcome w.database with ⟨e | c', db⟩ <;> rw [hw] at hlog <;> exact hlog

variable (config) in
theorem turn_query {id : String} {bounds : RowBounds} {handler : Option RowHandler}
    (h : op.query? = some (id, bounds, handler)) :
    (w.turn config (.perform op p)).after.database =
        ((Session.query config id bounds handler).outcome (w.scope p)).2.database ∧
      (w.turn config (.perform op p)).after.session =
        ((Session.query config id bounds handler).outcome (w.scope p)).2.session := by
  have hstate := (Session.perform_query config h (w.scope p)).state
  exact ⟨congrArg Scope.database hstate, congrArg Scope.session hstate⟩

variable (config) in
theorem turn_mutation {id : String} (h : op.mutation? = some id) :
    (w.turn config (.perform op p)).result =
        some (((Session.mutate config id).outcome (w.scope p)).1.map .count) ∧
      (w.turn config (.perform op p)).after.database =
        ((Session.mutate config id).outcome (w.scope p)).2.database ∧
      (w.turn config (.perform op p)).after.session =
        ((Session.mutate config id).outcome (w.scope p)).2.session := by
  have hperform := Session.perform_mutation config h (w.scope p)
  have hstate := congrArg Prod.snd hperform
  exact ⟨congrArg some (congrArg Prod.fst hperform), congrArg Scope.database hstate,
    congrArg Scope.session hstate⟩

variable (config op p) in
theorem turn_of_closed (hclosed : w.session.closed = true) :
    ∃ d, (w.turn config (.perform op p)).after.session = { w.session with dirty := d } ∧
      (w.turn config (.perform op p)).after.database = w.database := by
  obtain ⟨d, p', hsame⟩ := Session.perform_of_closed config (s := w.scope p) hclosed op
  exact ⟨d, congrArg Scope.session hsame, congrArg Scope.database hsame⟩

/-- Calls are never taken back. -/
theorem turn_grows (config : Configuration) (w : World) (step : Step) :
    w.database.log <+: (w.turn config step).after.database.log := by
  cases step with
  | perform op p => exact Session.perform_grows op (w.scope p)
  | fetch i =>
    exact w.onCursor_grows i fun c _ => (c.next_apart fun _ _ => List.not_mem_nil).bind
      fun _ _ => .pure trivial
  | closeCursor i =>
    exact w.onCursor_grows i fun c _ => (c.close_apart fun _ _ => List.not_mem_nil).forget
  | rescript script faults => exact List.prefix_rfl

theorem turn_log (config : Configuration) (w : World) (step : Step) :
    (w.turn config step).after.database.log =
      w.database.log ++ (w.turn config step).calls := by
  obtain ⟨calls, hc⟩ := w.turn_grows config step
  rw [Turn.calls, turn_before, ← hc, List.drop_left]

end World

/-- The log holds the calls of the turns and no others. -/
theorem Run.log_eq {config : Configuration} {start w : World} {past : List Turn}
    (hr : Run config start past w) :
    w.database.log = start.database.log ++ past.flatMap Turn.calls := by
  induction hr with
  | start => simp
  | turn _ step ih => simp [World.turn_log, ih]

theorem Run.calls_eq {config : Configuration} {start w : World} {past : List Turn}
    {calls : List LogEntry} (hr : Run config start past w)
    (h : w.database.log = start.database.log ++ calls) : calls = past.flatMap Turn.calls :=
  List.append_cancel_left (h.symm.trans hr.log_eq)

end SqlMapper
