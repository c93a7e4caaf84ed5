import SqlMapper.Proofs.Session.Alike
import SqlMapper.Proofs.Session.Invoking

namespace SqlMapper

open Fallible Database Scope SessionM

variable {D : Invocation → Prop} {H : Statement → Statement → Prop} {C : Prop}
  {m : NameMap Statement} {i : Invocation} {s s' : Statement} {u u' : Scope} {α : Type}

inductive Cursor.Like (H : Statement → Statement → Prop) (c : Cursor) : Cursor → Prop where
  | holding {s s' : Statement} (hc : c.statement = some s) (hs : H s s') :
    Like H c { c with statement := some s' }
  | released (hc : c.statement = none) : Like H c c

/-- At rest again, with `L`. More statements may stand for each other than by `H`. -/
def Scope.Grown (D : Invocation → Prop) (H : Statement → Statement → Prop)
    (L : (Statement → Statement → Prop) → Prop) (u u' : Scope) : Prop :=
  ∃ H', (∀ s s', H s s' → H' s s') ∧ Single H' ∧ L H' ∧ Paired D H' u u'

theorem Scope.Grown.personal (L : (Statement → Statement → Prop) → Prop) :
    Personal (Grown D H L) where
  parameter := fun ⟨_, _, _, _, h⟩ => Paired.personal.parameter h
  withParameter := fun ⟨H', hH, hsingle, hL, h⟩ p =>
    ⟨H', hH, hsingle, hL, Paired.personal.withParameter h p⟩

theorem Statement.closeQuietly_along_left (hs : ∀ t t', H t t' → t ≠ s)
    (hu : Along C m (Alike D H m) u u') :
    ∃ v, (liftM s.closeQuietly : SessionM Unit).outcome u = (.ok (), v) ∧
      Along C m (Alike D H m) v u' := by
  obtain ⟨d, hd, halike⟩ := closeQuietly_left s hs _ _ hu.databases
  refine ⟨{ u with database := d }, ?_, hu.parameter, hu.handled, hu.simple, hu.session,
    hu.connected, halike⟩
  rw [outcome_lift, hd]

namespace Reuse

theorem uses_paired (settings : Settings) (hD : Invocation.Uniform D) (hi : D i)
    {x y : Statement → SessionM α}
    (hxy : ∀ m s s', Agrees (Along (m ≠ []) m (Fitting D H m i s s')) (x s) (y s')
      (fun a b u u' => b = a ∧ Along (m ≠ []) m (Alike D H m) u u')
      (Along (m ≠ []) m (Alike D H m))) :
    Agrees (Along (m ≠ []) m (Alike D H m))
      (i.freshStatement settings >>= fun s => (x s).thenAlways (liftM s.closeQuietly))
      (Reuse.statement settings m i >>= y) (fun a b u u' => b = a ∧ Paired D H u u')
      (Paired D H) := by
  refine (statement_along settings hD hi).bind fun s s' => ?_
  rintro u u' ⟨m', hu⟩
  -- the first statement stands for no cursor's, so it can be closed whatever `x` did to it
  have hs : ∀ t t', H t t' → t ≠ s := fun t t' ht => (hu.databases.others t t' ht).1
  refine (hxy m' s s').thenAlways_left (fun a b v v' hv => ?_) (fun v v' hv => ?_) u u' hu
  · obtain ⟨rfl, hv⟩ := hv
    obtain ⟨v₁, hclose, halike⟩ := s.closeQuietly_along_left hs hv
    exact ⟨v₁, hclose, rfl, m', halike⟩
  · obtain ⟨v₁, hclose, halike⟩ := s.closeQuietly_along_left hs hv
    exact ⟨v₁, hclose, m', halike⟩

theorem closeAll_paired (hu : Along C m (Alike D H m) u u') :
    ∃ v', (closeAll m).outcome u' = (.ok (), v') ∧ Along C [] (Alike D H []) u v' := by
  obtain ⟨d, hd, halike⟩ := hu.databases.emptied.closing_all hu.databases.apart
  refine ⟨⟨d, { u'.session with strategy := .reuse [] }, u'.parameter, u'.handled⟩, ?_,
    hu.parameter, hu.handled, hu.simple, by rw [hu.session], hu.connected, halike⟩
  change (outcome (onDatabase _) _) = _
  rw [onDatabase, outcome_within, hd]

end Reuse

namespace SessionM

variable (config : Configuration)

theorem execute_along (i : Invocation) (s s' : Statement) :
    Agrees (Along C m (Fitting D H m i s s')) (execute config i s) (execute config i s')
      (fun a b u u' => b = a ∧ Along C m (Alike D H m) u u') (Along C m (Alike D H m)) := by
  have herror : ∀ u u', Along C m (Twin D H m i.bound.sql s s') u u' →
      Along C m (Alike D H m) u u' := fun _ _ h => h.mono id fun _ _ h => h.alike
  refine ((lift_along (Fitting.execute i s s')).weaken_error fun _ _ h =>
    h.mono id fun _ _ h => h.alike).bind fun _ _ => ?_
  refine (lift_matches (Twin.updateCount s s')).bind_agrees herror fun count => ?_
  refine (Invocation.takeOutputs_matches s s' i).bind_agrees herror fun _ => ?_
  exact (Keys.after_along config i.command s s').bind fun _ _ => .pure fun _ _ h => ⟨rfl, h⟩

variable {config} {command : Command} {bounds : RowBounds} {handler : Option RowHandler}
  (hD : ∀ i p bounds, Invocation.of command p bounds = .ok i → D i)
  (huniform : Invocation.Uniform D)
include hD huniform

theorem mutate_paired :
    Matches (Paired D H) (SessionM.mutate config command) (SessionM.mutate config command) := by
  refine (paired_matches fun _ => ensureOpen_matches).bind fun _ =>
    (paired_matches fun _ => clearCache_matches).bind fun _ =>
      (paired_matches fun _ => Keys.before_matches config command).bind fun _ => ?_
  refine (invocation_agrees Paired.personal fun i p => hD i p .all).bind_same fun i =>
    .of_fact fun hi => ?_
  refine session_bind_paired fun m w hw => ?_
  rw [hw]
  exact Reuse.uses_paired config.settings huniform hi fun m s s' => execute_along config i s s'

theorem runQuery_paired :
    Matches (Paired D H) (runQuery config command bounds handler)
      (runQuery config command bounds handler) := by
  refine session_bind_paired fun m w hw => ?_
  rw [hw]
  refine ((invocation_agrees Along.personal fun i p => hD i p bounds).weaken_error fun _ _ h =>
    h.paired id).bind_same fun i => .of_fact fun hi => ?_
  refine Reuse.uses_paired config.settings huniform hi fun m s s' => ?_
  exact (i.query_along s s' config.mapper handler).weaken (fun _ _ h => h)
    (fun _ _ _ _ h => ⟨h.1, h.2.mono id fun _ _ h => h.alike⟩) fun _ _ h =>
      h.mono id fun _ _ h => h.alike

omit hD huniform in
theorem endQuery_matches : Matches (Along C m (Alike D H m)) (endQuery config) (endQuery config) := by
  unfold endQuery
  split
  · exact clearCache_matches
  · exact .pure _

theorem cachedQuery_paired :
    Matches (Paired D H) (cachedQuery config command bounds) (cachedQuery config command bounds) := by
  refine parameter_bind_agrees Paired.personal fun p => (Matches.ending _).bind fun bound =>
    (Matches.ending _).bind fun key => session_bind_paired fun m w hw => ?_
  dsimp only
  split
  · exact .pure fun _ _ h => ⟨rfl, h.paired id⟩
  · refine Agrees.weaken_pre (P := Paired D H) ?_ fun _ _ h => h.paired id
    refine (runQuery_paired hD huniform).bind fun rows => Matches.bind (paired_matches fun _ => ?_)
      fun _ => (paired_matches fun _ => endQuery_matches).bind fun _ => .pure rows
    exact changeSession_matches (fun _ => rfl) (fun _ => rfl) fun _ => rfl

omit hD huniform in
theorem flushing_agrees {β : Type} {x y : SessionM β} {Q : β → β → Scope → Scope → Prop}
    (h : Agrees (Paired D H) x y Q (Paired D H)) :
    Agrees (Paired D H)
      (do
        if command.flushesCache then clearCache
        x)
      (do
        if command.flushesCache then clearCache
        y) Q (Paired D H) := by
  split
  · exact (paired_matches fun _ => clearCache_matches).bind_agrees (fun _ _ h => h) fun _ => h
  · exact h

theorem query_paired :
    Matches (Paired D H) (query config command bounds handler)
      (query config command bounds handler) := by
  refine (paired_matches fun _ => ensureOpen_matches).bind fun _ => flushing_agrees ?_
  split
  · exact cachedQuery_paired hD huniform
  · exact (runQuery_paired hD huniform).bind fun rows =>
      (paired_matches fun _ => endQuery_matches).bind fun _ => .pure _

omit hD huniform

theorem freshCursor_paired (hH : Single H) :
    Agrees (Paired D H) (freshCursor config command bounds) (freshCursor config command bounds)
      (fun c c' => Grown D H fun H' => Cursor.Like H' c c') (Paired D H) := by
  refine paired_agrees fun m => ?_
  refine ((invocation_agrees (D := fun _ => True) Along.personal fun _ _ _ =>
    trivial).weaken_error fun _ _ h => h.paired id).bind_same fun i => .of_fact fun _ => ?_
  refine ((Invocation.freshStatement_along config.settings i).weaken_error fun _ _ h =>
    h.paired id).bind fun s s' => .of_fact fun hnew => ?_
  have hexecute := (Fitting.execute (D := D) (H := H) (m := m) i s s').orUndo
    (closeQuietly_agrees hnew)
  refine ((lift_along hexecute).weaken_error fun _ _ h => h.paired fun _ => trivial).bind
    fun _ _ => ?_
  refine .pure fun u u' hu => ⟨fun t t' => H t t' ∨ (t = s ∧ t' = s'), fun _ _ => .inl,
    hH.hold hu.databases.others, .holding rfl (.inr ⟨rfl, rfl⟩), ?_⟩
  exact (hu.mono id fun _ _ h => h.hold hnew).paired fun _ => trivial

theorem openCursor_paired (hH : Single H) :
    Agrees (Paired D H) (openCursor config command bounds) (openCursor config command bounds)
      (fun c c' => Grown D H fun H' => Cursor.Like H' c c') (Paired D H) := by
  refine (paired_matches fun _ => ensureOpen_matches).bind_agrees (fun _ _ h => h) fun _ =>
    flushing_agrees (session_bind_paired fun m w hw => ?_)
  rw [hw]
  exact (freshCursor_paired hH).weaken_pre fun _ _ h => h.paired id

theorem flush_paired : Matches (Paired D H) (flush config) (flush config) := by
  refine session_bind_paired fun m w hw => ?_
  rw [hw]
  intro u u' hu
  obtain ⟨v', hclose, halong⟩ := Reuse.closeAll_paired hu
  have hflush : (Reuse.closeAll m >>= fun _ => pure []).outcome u' =
      ((Except.ok [] : Except Error (List BatchResult)), v') := outcome_bind_of_ok hclose
  rw [hflush]
  exact .ok ⟨rfl, halong.paired nofun⟩

theorem abandon_along (hu : Paired D H u u') :
    ∃ v v', abandon.outcome u = (.ok (), v) ∧ abandon.outcome u' = (.ok (), v') ∧
      Along False [] (Alike D H []) v v' := by
  obtain ⟨m, hu⟩ := hu
  obtain ⟨v', hclose, halong⟩ := Reuse.closeAll_paired hu
  refine ⟨u, v', ?_, ?_, halong.mono False.elim fun _ _ h => h⟩
  · rw [abandon, outcome_session_bind, hu.simple]
    rfl
  · rw [abandon, outcome_session_bind, hu.session]
    exact hclose

end SessionM

namespace Session

variable {config : Configuration} {id : String} {bounds : RowBounds} {handler : Option RowHandler}
  {β : Type}

theorem wrapped_agrees {x y : SessionM α} {Q : α → α → Scope → Scope → Prop}
    (hQ : ∀ a b, Personal (Q a b)) (h : Agrees (Paired D H) x y Q (Paired D H)) :
    Agrees (Paired D H) (wrapped x) (wrapped y) Q (Paired D H) := by
  refine parameter_bind_agrees Paired.personal fun p => ?_
  split
  · exact (withParameter_agrees Paired.personal hQ Paired.personal h _).bind fun _ _ =>
      .pure fun _ _ h => h.2
  · exact h

theorem wrapped_matches {x y : SessionM α} (h : Matches (Paired D H) x y) :
    Matches (Paired D H) (wrapped x) (wrapped y) :=
  wrapped_agrees (fun _ _ => Paired.personal.fact _) h

theorem command_bind_agrees {P S : Scope → Scope → Prop} {Q : α → β → Scope → Scope → Prop}
    {f : Command → SessionM α} {g : Command → SessionM β} (hPS : ∀ u u', P u u' → S u u')
    (h : ∀ c, config.registry.find? id = some c → Agrees P (f c) (g c) Q S) :
    Agrees P (command config id >>= f) (command config id >>= g) Q S := by
  refine Agrees.bind_same (Q := fun c u u' => P u u' ∧ config.registry.find? id = some c)
    (.ending (fun c u u' hc hu => ⟨rfl, hu, ?_⟩) hPS) fun c => .of_fact fun hc => h c hc
  exact Registry.find?_of_get hc

theorem query_paired (huniform : Invocation.Uniform config.Invokes) :
    Matches (Paired config.Invokes H) (query config id bounds handler)
      (query config id bounds handler) :=
  command_bind_agrees (fun _ _ h => h) fun _ hc => wrapped_matches
    (SessionM.query_paired (fun _ p bounds hi => ⟨id, _, p, bounds, hc, hi⟩) huniform)

theorem mutate_paired (huniform : Invocation.Uniform config.Invokes) :
    Matches (Paired config.Invokes H) (mutate config id) (mutate config id) :=
  command_bind_agrees (fun _ _ h => h) fun _ hc => Matches.bind
    (paired_matches fun _ => changeSession_matches (f := ({ · with dirty := true })) (fun _ => rfl)
      (fun _ => rfl) fun _ => rfl) fun _ => wrapped_matches
        (SessionM.mutate_paired (fun _ p bounds hi => ⟨id, _, p, bounds, hc, hi⟩) huniform)

theorem selectCursor_paired (hH : Single H) :
    Agrees (Paired D H) (selectCursor config id bounds) (selectCursor config id bounds)
      (fun c c' => Grown D H fun H' => Cursor.Like H' c c') (Paired D H) :=
  command_bind_agrees (fun _ _ h => h) fun _ _ =>
    wrapped_agrees (fun _ _ => Grown.personal _) (openCursor_paired hH)

theorem selectOne_paired (huniform : Invocation.Uniform config.Invokes) :
    Matches (Paired config.Invokes H) (selectOne config id) (selectOne config id) := by
  refine (query_paired huniform).bind fun rows => ?_
  split
  · exact .pure _
  · exact .pure _
  · exact .throw _

theorem mustFinish_paired (hu : Paired D H u u') (force : Bool) :
    u'.session.mustFinish force = u.session.mustFinish force := by
  obtain ⟨-, hauto, hdirty⟩ := hu.flags
  rw [Session.mustFinish, Session.mustFinish, hauto, hdirty]

theorem finishing_along {finish : Transaction → DriverM Unit} {R : Database → Database → Prop}
    (hfinish : ∀ t, Matches R (finish t) (finish t)) (must : Bool) (a a' : α)
    (hu : Along C m R u u') :
    Ends (fun _ _ => Along C m R) (Along C m R) (finishing must finish (.ok a, u))
      (finishing must finish (.ok a', u')) := by
  have hends := hfinish u.session.transaction _ _ hu.databases
  have htransaction : u'.session.transaction = u.session.transaction := by rw [hu.session]
  unfold finishing
  dsimp only
  rw [htransaction]
  split
  · generalize (finish u.session.transaction).outcome u.database = r at hends
    generalize (finish u.session.transaction).outcome u'.database = r' at hends
    cases hends with
    | ok h => exact .ok ((hu.withDatabase h.2).withDirty false)
    | error h => exact .error (hu.withDatabase h)
  · exact .ok (hu.withDirty false)

theorem commit_paired (force : Bool) :
    Matches (Paired D H) (commit config force) (commit config force) := by
  intro u u' hu
  have hclosed := hu.flags.1
  cases hopen : u.session.closed with
  | true =>
    rw [commit_of_closed hopen, commit_of_closed (hclosed.trans hopen)]
    exact .error hu
  | false =>
    rw [commit_of_open hopen, commit_of_open (hclosed.trans hopen), mustFinish_paired hu]
    have hends : Ends _ _ ((flush config).outcome (u.withCache .empty))
        ((flush config).outcome (u'.withCache .empty)) := flush_paired _ _ (hu.withCache .empty)
    generalize (flush config).outcome (u.withCache .empty) = r at hends
    generalize (flush config).outcome (u'.withCache .empty) = r' at hends
    cases hends with
    | ok h =>
      obtain ⟨-, m, h⟩ := h
      exact (finishing_along (fun t => Alike.steady.finishWith t Alike.steady.commit) _ _ _ h).mono
        (fun _ _ _ _ h => ⟨rfl, m, h⟩) fun _ _ h => ⟨m, h⟩
    | error h => exact .error h

theorem rollback_along (force : Bool) (hu : Paired D H u u') (hopen : u.session.closed = false) :
    Ends (fun _ _ => Along False [] (Alike D H [])) (Along False [] (Alike D H []))
      ((rollback force).outcome u) ((rollback force).outcome u') := by
  rw [rollback_of_open hopen, rollback_of_open (hu.flags.1.trans hopen), mustFinish_paired hu]
  obtain ⟨v, v', ha, ha', halong⟩ := abandon_along (hu.withCache .empty)
  rw [ha, ha']
  exact finishing_along (fun t => Alike.steady.finishWith t Alike.steady.rollback) _ _ _ halong

theorem rollback_paired (force : Bool) :
    Matches (Paired D H) (rollback force) (rollback force) := by
  intro u u' hu
  cases hopen : u.session.closed with
  | true =>
    rw [rollback_of_closed hopen, rollback_of_closed (hu.flags.1.trans hopen)]
    exact .ok ⟨rfl, hu.withDirty false⟩
  | false =>
    exact (rollback_along force hu hopen).mono (fun _ _ _ _ h => ⟨rfl, h.paired nofun⟩)
      fun _ _ h => h.paired nofun

theorem close_paired : Matches (Paired D H) close close := by
  intro u u' hu
  cases hopen : u.session.closed with
  | true =>
    rw [close_of_closed hopen, close_of_closed (hu.flags.1.trans hopen)]
    exact .ok ⟨rfl, hu.withDirty false⟩
  | false =>
    rw [close_of_open hopen, close_of_open (hu.flags.1.trans hopen)]
    have hrolled := (rollback_along false hu hopen).states
    generalize ((rollback false).outcome u).2 = v at hrolled
    generalize ((rollback false).outcome u').2 = v' at hrolled
    have htransaction : v'.session.transaction = v.session.transaction := by rw [hrolled.session]
    have hclosed := (Alike.steady.closeConnection v.session.transaction _ _
      hrolled.databases).same.2
    refine .ok ⟨rfl, [], hrolled.parameter, hrolled.handled, hrolled.simple, ?_, nofun, ?_⟩
    · rw [left, left, hrolled.session]
    · rw [left, left, htransaction]
      exact hclosed

theorem clearCache_paired : Matches (Paired D H) clearCache clearCache := by
  refine session_bind_paired fun m w hw => ?_
  refine Agrees.weaken_pre (P := Paired D H) ?_ fun _ _ h => h.paired id
  dsimp only
  split
  · exact Matches.pure _
  · exact paired_matches fun _ => clearCache_matches

end Session

end SqlMapper
