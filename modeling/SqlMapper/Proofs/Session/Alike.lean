import SqlMapper.Proofs.Statements.Alike

namespace SqlMapper

open Fallible Database

variable {D : Invocation → Prop} {H : Statement → Statement → Prop} {C C' : Prop}
  {m : NameMap Statement} {R R' P E : Database → Database → Prop} {α β : Type}

/-- The first session keeps no statements, the second one keeps `m`; they are the same otherwise,
and so are the parameter objects and the past of the callback. With `C` there is a connection. -/
structure Scope.Along (C : Prop) (m : NameMap Statement) (R : Database → Database → Prop)
    (u u' : Scope) : Prop where
  parameter : u'.parameter = u.parameter
  handled : u'.handled = u.handled
  simple : u.session.strategy = .simple
  session : u'.session = { u.session with strategy := .reuse m }
  connected : C → u.session.transaction.connection? ≠ none
  databases : R u.database u'.database

/-- At rest whatever is kept is of use, and nothing is before there is a connection. -/
def Scope.Paired (D : Invocation → Prop) (H : Statement → Statement → Prop) (u u' : Scope) : Prop :=
  ∃ m, Scope.Along (m ≠ []) m (Alike D H m) u u'

open Scope

namespace Scope

variable {u u' : Scope}

theorem Along.mono (h : Along C m R u u') (hC : C' → C) (hR : ∀ db db', R db db' → R' db db') :
    Along C' m R' u u' :=
  ⟨h.parameter, h.handled, h.simple, h.session, fun hc => h.connected (hC hc),
    hR _ _ h.databases⟩

theorem Along.paired (h : Along C m (Alike D H m) u u') (hC : m ≠ [] → C) : Paired D H u u' :=
  ⟨m, h.mono hC fun _ _ h => h⟩

theorem Along.withDatabase {db db' : Database} (h : Along C m R u u') (hdb : R' db db') :
    Along C m R' { u with database := db } { u' with database := db' } :=
  ⟨h.parameter, h.handled, h.simple, h.session, h.connected, hdb⟩

theorem Along.withCache (h : Along C m R u u') (c : LocalCache) :
    Along C m R (u.withCache c) (u'.withCache c) :=
  ⟨h.parameter, h.handled, h.simple, congrArg (fun w : Session => { w with cache := c }) h.session,
    h.connected, h.databases⟩

theorem Along.withDirty (h : Along C m R u u') (d : Bool) :
    Along C m R (u.withDirty d) (u'.withDirty d) :=
  ⟨h.parameter, h.handled, h.simple, congrArg (fun w : Session => { w with dirty := d }) h.session,
    h.connected, h.databases⟩

theorem Paired.withCache (h : Paired D H u u') (c : LocalCache) :
    Paired D H (u.withCache c) (u'.withCache c) := by
  obtain ⟨m, h⟩ := h
  exact ⟨m, h.withCache c⟩

theorem Paired.withDirty (h : Paired D H u u') (d : Bool) :
    Paired D H (u.withDirty d) (u'.withDirty d) := by
  obtain ⟨m, h⟩ := h
  exact ⟨m, h.withDirty d⟩

theorem Paired.flags (h : Paired D H u u') : u'.session.closed = u.session.closed ∧
    u'.session.autoCommit = u.session.autoCommit ∧ u'.session.dirty = u.session.dirty := by
  obtain ⟨m, h⟩ := h
  rw [h.session]
  exact ⟨rfl, rfl, rfl⟩

theorem Paired.again (h : Paired D H u u') (p : Parameter) (l : List Handling) :
    Paired D H ⟨u.database, u.session, p, l⟩ ⟨u'.database, u'.session, p, l⟩ := by
  obtain ⟨m, h⟩ := h
  exact ⟨m, rfl, rfl, h.simple, h.session, h.connected, h.databases⟩

/-- What a relation has to be closed under where work is done on another parameter object. -/
structure Personal (T : Scope → Scope → Prop) : Prop where
  parameter {u u' : Scope} (h : T u u') : u'.parameter = u.parameter
  withParameter {u u' : Scope} (h : T u u') (p : Parameter) :
    T { u with parameter := p } { u' with parameter := p }

theorem Along.personal : Personal (Along C m R) :=
  ⟨Along.parameter, fun h _ => ⟨rfl, h.handled, h.simple, h.session, h.connected, h.databases⟩⟩

theorem Paired.personal : Personal (Paired D H) where
  parameter := fun ⟨_, h⟩ => h.parameter
  withParameter := fun ⟨m, h⟩ p => ⟨m, Along.personal.withParameter h p⟩

theorem Personal.fact {T : Scope → Scope → Prop} (hT : Personal T) (K : Prop) :
    Personal fun u u' => K ∧ T u u' :=
  ⟨fun h => hT.parameter h.2, fun h p => ⟨h.1, hT.withParameter h.2 p⟩⟩

end Scope

namespace SessionM

variable {T S : Scope → Scope → Prop} {Q : α → β → Scope → Scope → Prop}

section Along

theorem lift_along {x : DriverM α} {y : DriverM β} {Q : α → β → Database → Database → Prop}
    (h : Agrees P x y Q E) :
    Agrees (Along C m P) (liftM x : SessionM α) (liftM y : SessionM β)
      (fun a b => Along C m (Q a b)) (Along C m E) := by
  intro u u' hu
  have hends := h _ _ hu.databases
  rw [outcome_lift, outcome_lift]
  generalize x.outcome u.database = r at hends
  generalize y.outcome u'.database = r' at hends
  cases hends with
  | ok h => exact .ok (hu.withDatabase h)
  | error h => exact .error (hu.withDatabase h)

theorem lift_matches {x y : DriverM α} (h : Matches R x y) :
    Matches (Along C m R) (liftM x : SessionM α) (liftM y : SessionM α) :=
  (lift_along h).weaken_post fun _ _ _ _ hu =>
    ⟨hu.databases.1, hu.mono id fun _ _ h => h.2⟩

theorem session_bind_along {f : Session → SessionM α} {g : Session → SessionM β}
    (h : ∀ w : Session, w.strategy = .simple →
      Agrees (Along C m R) (f w) (g { w with strategy := .reuse m }) Q S) :
    Agrees (Along C m R) (session >>= f) (session >>= g) Q S := by
  intro u u' hu
  rw [outcome_session_bind, outcome_session_bind, hu.session]
  exact h u.session hu.simple u u' hu

theorem changeSession_along {f : Session → Session} (hsimple : ∀ w, (f w).strategy = w.strategy)
    (hsame : ∀ w : Session, f { w with strategy := .reuse m } = { f w with strategy := .reuse m })
    (hconnected : ∀ w : Session, C' → (C → w.transaction.connection? ≠ none) →
      (f w).transaction.connection? ≠ none) :
    Agrees (Along C m R) (changeSession f) (changeSession f) (fun _ _ => Along C' m R) S :=
  .change fun _ _ hu => ⟨hu.parameter, hu.handled, (hsimple _).trans hu.simple,
    (congrArg f hu.session).trans (hsame _), fun hc => hconnected _ hc hu.connected, hu.databases⟩

theorem changeSession_matches {f : Session → Session} (hsimple : ∀ w, (f w).strategy = w.strategy)
    (hsame : ∀ w : Session, f { w with strategy := .reuse m } = { f w with strategy := .reuse m })
    (htransaction : ∀ w, (f w).transaction = w.transaction) :
    Matches (Along C m R) (changeSession f) (changeSession f) :=
  (changeSession_along hsimple hsame fun w hc h => by
    rw [htransaction]
    exact h hc).weaken_post fun _ _ _ _ hu => ⟨rfl, hu⟩

theorem clearCache_matches : Matches (Along C m R) clearCache clearCache :=
  changeSession_matches (fun _ => rfl) (fun _ => rfl) fun _ => rfl

theorem ensureOpen_matches : Matches (Along C m R) ensureOpen ensureOpen := by
  refine session_bind_along fun w _ => ?_
  split
  · exact Matches.throw _
  · exact Matches.pure _

theorem connection_along (hR : Steady R) :
    Agrees (Along C m R) connection connection (fun c c' u u' => c' = c ∧ Along True m R u u')
      (Along C m R) := by
  refine session_bind_along fun w _ => (lift_along (hR.acquire w.transaction)).bind fun r r' => ?_
  intro u u' hu
  obtain ⟨rfl, hconnected, hdb⟩ := hu.databases
  refine .ok ⟨rfl, hu.parameter, hu.handled, hu.simple, ?_, fun _ => hconnected, hdb⟩
  exact congrArg (fun w : Session => { w with transaction := r'.2 }) hu.session

theorem connection_outcome {u : Scope} {c : Connection}
    (h : u.session.transaction.connection? = some c) : connection.outcome u = (.ok c, u) := by
  rw [connection, outcome_session_bind, Transaction.acquire, h]
  rfl

end Along

section Personal

theorem parameter_bind_agrees (hT : Personal T) {f : Parameter → SessionM α}
    {g : Parameter → SessionM β} (h : ∀ p, Agrees T (f p) (g p) Q S) :
    Agrees T (parameter >>= f) (parameter >>= g) Q S := by
  intro u u' hu
  rw [outcome_parameter_bind, outcome_parameter_bind, hT.parameter hu]
  exact h u.parameter u u' hu

theorem onParameter_matches (hT : Personal T) (x : Fallible Parameter α) :
    Matches T (onParameter x) (onParameter x) :=
  .within (fun _ _ h => hT.parameter h) fun _ _ p h => hT.withParameter h p

theorem withParameter_agrees {x : SessionM α} {y : SessionM β} (hT : Personal T)
    (hQ : ∀ a b, Personal (Q a b)) (hS : Personal S) (h : Agrees T x y Q S) (p : Parameter) :
    Agrees T (withParameter p x) (withParameter p y)
      (fun r r' u u' => r'.2 = r.2 ∧ Q r.1 r'.1 u u') S := by
  intro u u' hu
  have hends := h _ _ (hT.withParameter hu p)
  rw [withParameter_outcome, withParameter_outcome, hT.parameter hu]
  generalize x.outcome { u with parameter := p } = r at hends
  generalize y.outcome { u' with parameter := p } = r' at hends
  cases hends with
  | ok h => exact .ok ⟨(hQ _ _).parameter h, (hQ _ _).withParameter h _⟩
  | error h => exact .error (hS.withParameter h _)

theorem invocation_agrees (hT : Personal T) {command : Command} {bounds : RowBounds}
    (hD : ∀ i p, Invocation.of command p bounds = .ok i → D i) :
    Agrees T (invocation command bounds) (invocation command bounds)
      (fun i j u u' => j = i ∧ T u u' ∧ D i) T :=
  parameter_bind_agrees hT fun p => .ending (fun i _ _ hi hu => ⟨rfl, hu, hD i p hi⟩) fun _ _ h => h

end Personal

section Paired

theorem paired_agrees {x : SessionM α} {y : SessionM β}
    (h : ∀ m, Agrees (Along (m ≠ []) m (Alike D H m)) x y Q S) : Agrees (Paired D H) x y Q S :=
  fun u u' ⟨m, hu⟩ => h m u u' hu

theorem paired_matches {x y : SessionM α}
    (h : ∀ m, Matches (Along (m ≠ []) m (Alike D H m)) x y) : Matches (Paired D H) x y :=
  paired_agrees fun m => (h m).weaken (fun _ _ h => h) (fun _ _ _ _ h => ⟨h.1, m, h.2⟩)
    fun _ _ h => ⟨m, h⟩

theorem session_bind_paired {f : Session → SessionM α} {g : Session → SessionM β}
    (h : ∀ m (w : Session), w.strategy = .simple →
      Agrees (Along (m ≠ []) m (Alike D H m)) (f w) (g { w with strategy := .reuse m }) Q S) :
    Agrees (Paired D H) (session >>= f) (session >>= g) Q S :=
  paired_agrees fun m => session_bind_along (h m)

end Paired

end SessionM

open SessionM

variable {sql : String} {i : Invocation} {s s' : Statement}

theorem Statement.closeQuietly_along (hnew : ∀ e ∈ m, e.2 ≠ s') {F : Scope → Scope → Prop}
    (hF : ∀ u u', Along C m (Alike D H m) u u' → F u u') :
    Agrees (Along C m (Using D H m sql s s')) (liftM s.closeQuietly : SessionM Unit)
      (liftM s'.closeQuietly : SessionM Unit) (fun _ _ => F) F :=
  (lift_along (Database.closeQuietly_agrees hnew)).weaken (fun _ _ h => h) (fun _ _ _ _ h => hF _ _ h)
    fun _ _ h => hF _ _ h

theorem SessionM.parameter_bind_comm {γ : Type} {x : SessionM α}
    (hx : ∀ p, Maintains (fun u => u.parameter = p) x fun _ => True)
    (f : α → Parameter → SessionM γ) :
    (x >>= fun a => parameter >>= f a) = parameter >>= fun p => x >>= fun a => f a p := by
  funext u
  have hu := (hx u.parameter u rfl).1
  change (x >>= _).outcome u = (x >>= fun a => f a u.parameter).outcome u
  rw [outcome_bind, outcome_bind]
  rcases hr : x.outcome u with ⟨e | a, v⟩
  · rfl
  · rw [hr] at hu
    change (f a v.parameter).outcome v = _
    rw [hu]

namespace Invocation

variable (settings : Settings) (i : Invocation)

theorem freshStatement_eq :
    i.freshStatement settings = SessionM.session >>= fun w => SessionM.parameter >>= fun p =>
      SessionM.connection >>= fun c =>
        (liftM (i.prepare settings w.transaction.timeout c) : SessionM Statement) >>= fun s =>
          (liftM ((i.parameterize p s).orUndo s.closeQuietly) : SessionM Unit) >>= fun _ =>
            pure s := by
  refine bind_congr fun w => ?_
  refine (bind_congr fun c => ?_).trans
    (parameter_bind_comm SessionM.connection_parameter fun c p => _)
  exact parameter_bind_comm (SessionM.lift_parameter _) _

theorem freshStatement_along :
    Agrees (Along C m (Alike D H m)) (i.freshStatement settings) (i.freshStatement settings)
      (fun s s' u u' => Along True m (Fitting D H m i s s') u u' ∧ ∀ e ∈ m, e.2 ≠ s')
      (Along C m (Alike D H m)) := by
  have herror : ∀ u u', Along True m (Alike D H m) u u' → Along C m (Alike D H m) u u' :=
    fun _ _ h => h.mono (fun _ => trivial) fun _ _ h => h
  rw [freshStatement_eq]
  refine session_bind_along fun w _ => parameter_bind_agrees Along.personal fun p =>
    (connection_along Alike.steady).bind_same fun c => ?_
  refine ((lift_along (prepare_agrees settings _ c i)).weaken_error herror).bind fun s s' => ?_
  intro u u' hu
  have hnew := hu.databases.2
  exact ((lift_along (parameterize_agrees hnew i p)).weaken_error herror).bind
    (fun _ _ => .pure fun _ _ h => ⟨h, hnew⟩) u u' (hu.mono id fun _ _ h => h.1)

end Invocation

namespace Reuse

theorem create_along (settings : Settings) {i : Invocation} (hD : Invocation.Uniform D) (hi : D i) :
    Agrees (Along (m ≠ []) m (Alike D H m)) (i.freshStatement settings) (create settings m i)
      (fun s s' u u' => ∃ m', Along (m' ≠ []) m' (Fitting D H m' i s s') u u') (Paired D H) := by
  rw [Invocation.freshStatement_eq]
  refine session_bind_along fun w _ => parameter_bind_agrees Along.personal fun p => ?_
  refine ((connection_along Alike.steady).weaken_error fun _ _ h => h.paired id).bind_same
    fun c => ?_
  refine ((lift_along (prepare_agrees settings _ c i)).weaken_error fun _ _ h =>
    h.paired fun _ => trivial).bind fun s s' => ?_
  intro u u' hu
  have hnew := hu.databases.2
  have hkept : Along True (m.insert i.bound.sql s')
      (Fitting D H (m.insert i.bound.sql s') i s s') u
      { u' with session := { u'.session with strategy := .reuse (m.insert i.bound.sql s') } } :=
    ⟨hu.parameter, hu.handled, hu.simple, by rw [hu.session], hu.connected,
      hu.databases.1.keep hnew hD hi⟩
  exact ((lift_along (parameterize_kept i p)).weaken_error fun _ _ h =>
    h.paired fun _ => trivial).bind
      (fun _ _ => .pure fun _ _ h => ⟨_, h.mono (fun _ => trivial) fun _ _ h => h⟩) _ _ hkept

theorem renew_along (settings : Settings) {i : Invocation} (hi : D i)
    (hmem : (i.bound.sql, s') ∈ m) :
    Agrees (Along (m ≠ []) m (Alike D H m)) (i.freshStatement settings) (renew settings i s')
      (fun s s' u u' => ∃ m', Along (m' ≠ []) m' (Fitting D H m' i s s') u u') (Paired D H) := by
  rw [Invocation.freshStatement_eq]
  refine session_bind_along fun w _ => parameter_bind_agrees Along.personal fun p => ?_
  have hm : m ≠ [] := List.ne_nil_of_mem hmem
  refine Agrees.left (R := fun _ => Along (m ≠ []) m (Alike D H m)) (fun u u' hu => ?_) fun c => ?_
  · obtain ⟨c, hc⟩ := Option.ne_none_iff_exists'.mp (hu.connected hm)
    exact ⟨c, u, connection_outcome hc, hu⟩
  · refine ((lift_along (prepare_found settings _ c hi hmem)).weaken_error fun _ _ h =>
      h.paired id).bind fun s _ => ?_
    exact ((lift_along (parameterize_kept i p)).weaken_error fun _ _ h =>
      h.paired id).bind fun _ _ => .pure fun _ _ h => ⟨m, h⟩

/-- The one statement is made for the invocation, the other one is kept already or from now on. -/
theorem statement_along (settings : Settings) {i : Invocation} (hD : Invocation.Uniform D)
    (hi : D i) :
    Agrees (Along (m ≠ []) m (Alike D H m)) (i.freshStatement settings) (statement settings m i)
      (fun s s' u u' => ∃ m', Along (m' ≠ []) m' (Fitting D H m' i s s') u u') (Paired D H) := by
  intro u u' hu
  rcases hget : m.get? i.bound.sql with _ | s'
  · rw [statement_of_missing hget]
    exact create_along settings hD hi u u' hu
  · have hmem : (i.bound.sql, s') ∈ m := NameMap.mem_of_get? hget
    have hopen := ((hu.databases.kept _ hmem).fits i hi rfl).isOpen
    rw [statement_of_open hget hopen]
    exact renew_along settings hi hmem u u' hu

end Reuse

namespace Reading

theorem hand_matches (h : RowHandler) (context : ResultContext) (value : Value) :
    Matches (Along C m R) (hand h context value) (hand h context value) := by
  intro u u' hu
  change Ends _ _ ((Except.ok (h.handle u.handled (context.next value)).left : Except Error _), _)
    (Except.ok (h.handle u'.handled (context.next value)).left, _)
  rw [hu.handled]
  refine .ok ⟨rfl, hu.parameter, ?_, hu.simple, hu.session, hu.connected, hu.databases⟩
  change u'.handled ++ _ = u.handled ++ _
  rw [hu.handled]

variable (s s') (read : Row → Except Error Value)

theorem deliver_matches (h : RowHandler) (context : ResultContext) (n : Nat) :
    Matches (Along C m (Twin D H m sql s s')) (deliver s read h context n)
      (deliver s' read h context n) := by
  induction n generalizing context with
  | zero => exact .pure _
  | succ n ih =>
    refine (lift_matches (Twin.nextRow s s')).bind fun row => ?_
    cases row with
    | none => exact .pure _
    | some row =>
      refine (Matches.ending _).bind fun value => (hand_matches h context value).bind fun left => ?_
      split
      · exact .pure _
      · exact ih left

theorem window_matches (bounds : RowBounds) (handler : Option RowHandler) :
    Matches (Along C m (Twin D H m sql s s')) (window s read bounds handler)
      (window s' read bounds handler) := by
  refine (lift_matches (Twin.skipOffset s s' bounds)).bind fun enough => ?_
  split
  · refine (lift_matches (Twin.steps s s' bounds.limit)).bind fun n => ?_
    cases handler with
    | none => exact lift_matches (Twin.collect s s' read n)
    | some h => exact (deliver_matches s s' read h .initial n).bind fun _ => .pure _
  · exact .pure _

end Reading

namespace Invocation

variable (i : Invocation) (s s')

theorem takeOutputs_matches :
    Matches (Along C m (Twin D H m sql s s')) (i.takeOutputs s) (i.takeOutputs s') :=
  .forM _ fun (index, _) => (lift_matches (Twin.outParameter s s' index)).bind fun _ =>
    onParameter_matches Along.personal _

theorem query_along (mapper : RowMapper) (handler : Option RowHandler) :
    Agrees (Along C m (Fitting D H m i s s')) (i.query mapper s handler) (i.query mapper s' handler)
      (fun rows rows' u u' => rows' = rows ∧ Along C m (Using D H m i.bound.sql s s') u u')
      (Along C m (Using D H m i.bound.sql s s')) := by
  have hrest : Matches (Along C m (Twin D H m i.bound.sql s s'))
      (do
        let rows ← Reading.window s (mapper · i.command.resultType) i.bounds handler
        i.takeOutputs s
        return rows)
      (do
        let rows ← Reading.window s' (mapper · i.command.resultType) i.bounds handler
        i.takeOutputs s'
        return rows) :=
    (Reading.window_matches s s' _ i.bounds handler).bind fun _ =>
      (takeOutputs_matches s s' i).bind fun _ => .pure _
  have husing : ∀ u u', Along C m (Twin D H m i.bound.sql s s') u u' →
      Along C m (Using D H m i.bound.sql s s') u u' := fun _ _ h => h.mono id fun _ _ h => h.toUsing
  exact (lift_along (Fitting.execute i s s')).bind fun _ _ =>
    hrest.weaken (fun _ _ h => h) (fun _ _ _ _ h => ⟨h.1, husing _ _ h.2⟩) husing

theorem freshQuery_along (settings : Settings) {x y : Statement → SessionM α}
    (hxy : ∀ s s', Agrees (Along True m (Fitting D H m i s s')) (x s) (y s')
      (fun a b u u' => b = a ∧ Along True m (Using D H m i.bound.sql s s') u u')
      (Along True m (Using D H m i.bound.sql s s'))) :
    Matches (Along C m (Alike D H m))
      (i.freshStatement settings >>= fun s => (x s).thenAlways (liftM s.closeQuietly))
      (i.freshStatement settings >>= fun s => (y s).thenAlways (liftM s.closeQuietly)) := by
  refine (freshStatement_along settings i).bind fun s s' => .of_fact fun hnew => ?_
  have halike : ∀ u u', Along True m (Alike D H m) u u' → Along C m (Alike D H m) u u' :=
    fun _ _ h => h.mono (fun _ => trivial) fun _ _ h => h
  have hclose : Agrees (Along True m (Using D H m i.bound.sql s s')) _ _ _ _ :=
    s.closeQuietly_along hnew halike
  exact (hxy s s').thenAlways (fun _ => hclose) hclose

end Invocation

namespace Keys

variable (config : Configuration)

theorem run_matches (id : String) :
    Matches (Along C m (Alike D H m)) (run config id) (run config id) := by
  refine (Matches.ending _).bind fun command => parameter_bind_agrees Along.personal fun p =>
    (Matches.ending _).bind fun i => ?_
  have hquery : ∀ s s', Agrees (Along True m (Fitting D H m i s s'))
      (withParameter p (i.query config.mapper s none))
      (withParameter p (i.query config.mapper s' none))
      (fun r r' u u' => r' = r ∧ Along True m (Using D H m i.bound.sql s s') u u')
      (Along True m (Using D H m i.bound.sql s s')) := fun s s' =>
    (withParameter_agrees Along.personal (fun _ _ => Along.personal.fact _) Along.personal
      (i.query_along s s' config.mapper none) p).weaken_post fun _ _ _ _ h =>
        ⟨Prod.ext h.2.1 h.1, h.2.2⟩
  have hfresh := i.freshQuery_along (C := C) config.settings hquery
  have hrun := hfresh.bind fun r => Matches.pure r.1
  simpa [bind_assoc] using hrun

theorem select_matches (id property : String) :
    Matches (Along C m (Alike D H m)) (select config id property) (select config id property) := by
  refine (run_matches config id).bind fun keys => ?_
  split
  · exact .throw _
  · exact onParameter_matches Along.personal _
  · exact .throw _

theorem before_matches (command : Command) :
    Matches (Along C m (Alike D H m)) (before config command) (before config command) := by
  unfold before
  split
  · exact select_matches config _ _
  · exact .pure _

theorem after_along (command : Command) (s s' : Statement) :
    Agrees (Along C m (Twin D H m sql s s')) (after config command s) (after config command s')
      (fun _ _ => Along C m (Alike D H m)) (Along C m (Alike D H m)) := by
  have halike : ∀ u u', Along C m (Twin D H m sql s s') u u' → Along C m (Alike D H m) u u' :=
    fun _ _ h => h.mono id fun _ _ h => h.alike
  unfold after
  split
  · refine Agrees.weaken (E := Along C m (Twin D H m sql s s'))
      (Matches.bind (lift_matches (Twin.generatedKeys s s')) fun rows => ?_) (fun _ _ h => h)
      (fun _ _ _ _ h => halike _ _ h.2) halike
    cases rows with
    | nil => exact .pure _
    | cons row rows => exact onParameter_matches Along.personal _
  · exact (select_matches config _ _).weaken halike (fun _ _ _ _ h => h.2) fun _ _ h => h
  · exact .pure halike

end Keys

end SqlMapper
