import SqlMapper.Proofs.Database.Apart
import SqlMapper.Session.Command

namespace SqlMapper

open Fallible

/-- `s` comes from `s₀` by work that left the statements in `kept` alone and, but for the
transaction, the session too. -/
structure Scope.Apart (kept : List Statement) (s₀ s : Scope) : Prop where
  database : s₀.database.Apart kept s.database
  session : { s.session with transaction := s₀.session.transaction } = s₀.session

variable {α : Type} {V : α → Prop} {kept : List Statement} {s₀ : Scope} {db₀ : Database}

namespace Scope.Apart

theorem refl {s : Scope} (h : ∀ t ∈ kept, t.index < s.database.statements.length) :
    s.Apart kept s :=
  ⟨.refl h, rfl⟩

theorem self (s : Scope) : s.Apart [] s := refl nofun

variable {s : Scope}

theorem trans {t : Scope} (h : s₀.Apart kept s) (h' : s.Apart kept t) : s₀.Apart kept t :=
  ⟨h.database.trans h'.database, by rw [← h.session, ← h'.session]⟩

theorem strategy_eq (h : s₀.Apart kept s) : s.session.strategy = s₀.session.strategy := by
  rw [← h.session]

theorem cache_eq (h : s₀.Apart kept s) : s.session.cache = s₀.session.cache := by
  rw [← h.session]

theorem closed_eq (h : s₀.Apart kept s) : s.session.closed = s₀.session.closed := by
  rw [← h.session]

theorem dirty_eq (h : s₀.Apart kept s) : s.session.dirty = s₀.session.dirty := by
  rw [← h.session]

end Scope.Apart

namespace Transaction

theorem openConnection_maintains {I : Database → Prop} (t : Transaction)
    (hconnect : Maintains I connect fun _ => True)
    (hmode : ∀ c : Connection, Maintains I c.autoCommit fun _ => True)
    (hset : ∀ (c : Connection) (mode : Bool), Maintains I (c.setAutoCommit mode) fun _ => True) :
    Maintains I t.openConnection fun _ => True := by
  unfold openConnection
  dsimp only
  split
  · exact (Maintains.throw (V := fun _ => False) _).bind fun _ hf => hf.elim
  · refine hconnect.bind fun c _ => (hmode c).bind fun mode _ => ?_
    split
    · exact (hset c _).bind fun _ _ => .pure trivial
    · exact .pure trivial

theorem acquire_apart (t : Transaction) :
    Maintains (db₀.Apart kept) t.acquire fun _ => True := by
  unfold acquire
  split
  · exact .pure trivial
  · exact (t.openConnection_maintains connect_apart.forget (fun c => c.autoCommit_apart)
      fun c mode => c.setAutoCommit_apart mode).bind fun _ _ => .pure trivial

theorem finishWith_maintains {I : Database → Prop} (t : Transaction)
    {finish : Connection → DriverM Unit}
    (hmode : ∀ c, t.connection? = some c → Maintains I c.autoCommit fun _ => True)
    (h : ∀ c, t.connection? = some c → Maintains I (finish c) fun _ => True) :
    Maintains I (t.finishWith finish) fun _ => True := by
  unfold finishWith
  split
  · exact .pure trivial
  · next c hc =>
    refine (hmode c hc).bind fun mode _ => ?_
    cases mode
    · exact h c hc
    · exact .pure trivial

theorem closeConnection_apart (t : Transaction) :
    Maintains (db₀.Apart kept) t.closeConnection fun _ => True := by
  unfold closeConnection
  split
  · exact .pure trivial
  · exact Connection.close_apart _

end Transaction

namespace SessionM

theorem lift_apart {x : DriverM α} (h : Maintains (s₀.database.Apart kept) x V) :
    Maintains (s₀.Apart kept) (liftM x : SessionM α) V :=
  h.within (fun _ hs => hs.database) fun _ _ hs hdb => ⟨hdb, hs.session⟩

theorem onParameter_apart (x : Fallible Parameter α) :
    Maintains (s₀.Apart kept) (onParameter x) fun _ => True :=
  fun _ hs => ⟨⟨hs.database, hs.session⟩, fun _ _ => trivial⟩

theorem session_apart : Maintains (s₀.Apart kept) session fun _ => True :=
  fun _ hs => ⟨hs, fun _ _ => trivial⟩

theorem parameter_apart : Maintains (s₀.Apart kept) parameter fun _ => True :=
  fun _ hs => ⟨hs, fun _ _ => trivial⟩

theorem setParameter_apart (p : Parameter) :
    Maintains (s₀.Apart kept) (setParameter p) fun _ => True :=
  fun _ hs => ⟨⟨hs.database, hs.session⟩, fun _ _ => trivial⟩

theorem ending_apart (r : Except Error α) :
    Maintains (s₀.Apart kept) (ending r) fun _ => True :=
  .ending fun _ _ => trivial

theorem withParameter_apart {x : SessionM α} (p : Parameter) (h : Maintains (s₀.Apart kept) x V) :
    Maintains (s₀.Apart kept) (withParameter p x) fun r => V r.1 := by
  refine parameter_apart.bind fun own _ => (setParameter_apart p).bind fun _ _ =>
    h.attempt.bind fun r hr => parameter_apart.bind fun p' _ =>
      (setParameter_apart own).bind fun _ _ => ?_
  exact (Maintains.ending hr).bind fun a ha => .pure ha

theorem connection_apart : Maintains (s₀.Apart kept) connection fun _ => True := by
  refine session_apart.bind fun s _ => (lift_apart s.transaction.acquire_apart).bind fun r _ => ?_
  refine Maintains.bind (V := fun _ => True) (.change fun s hs => ⟨hs.database, hs.session⟩)
    fun _ _ => .pure trivial

end SessionM

namespace Reading

variable {s : Statement} {I : Database → Prop} {J : Scope → Prop}

theorem skip_maintains (h : Maintains I s.nextRow fun _ => True) (n : Nat) :
    Maintains I (skip s n) fun _ => True := by
  induction n with
  | zero => exact .pure trivial
  | succ n ih =>
    refine h.bind fun row _ => ?_
    cases row with
    | none => exact .pure trivial
    | some row => exact ih

theorem steps_maintains (n : Nat) : Maintains I (steps s n) fun _ => True :=
  Maintains.bind (V := fun _ => True) (fun _ h => ⟨h, fun _ _ => trivial⟩) fun _ _ => .pure trivial

theorem skipOffset_maintains (h : Maintains I s.nextRow fun _ => True) (bounds : RowBounds) :
    Maintains I (skipOffset s bounds) fun _ => True :=
  (steps_maintains bounds.offset).bind fun n _ => skip_maintains h n

theorem collect_maintains (h : Maintains I s.nextRow fun _ => True)
    (read : Row → Except Error Value) (n : Nat) :
    Maintains I (collect s read n) fun _ => True := by
  induction n with
  | zero => exact .pure trivial
  | succ n ih =>
    refine h.bind fun row _ => ?_
    cases row with
    | none => exact .pure trivial
    | some row =>
      exact (Maintains.ending (V := fun _ => True) fun _ _ => trivial).bind fun _ _ =>
        ih.bind fun _ _ => .pure trivial

theorem hand_maintains (hhandled : ∀ t l, J t → J { t with handled := l }) (h : RowHandler)
    (context : ResultContext) (value : Value) :
    Maintains J (hand h context value) fun _ => True := by
  refine Maintains.state.bind fun t _ => ?_
  exact (Maintains.change fun t ht => hhandled t _ ht).bind fun _ _ => .pure trivial

theorem deliver_maintains (h : Maintains J (liftM s.nextRow : SessionM (Option Row)) fun _ => True)
    (hhandled : ∀ t l, J t → J { t with handled := l }) (read : Row → Except Error Value)
    (handler : RowHandler) (context : ResultContext) (n : Nat) :
    Maintains J (deliver s read handler context n) fun _ => True := by
  induction n generalizing context with
  | zero => exact .pure trivial
  | succ n ih =>
    refine h.bind fun row _ => ?_
    cases row with
    | none => exact .pure trivial
    | some row =>
      refine (Maintains.ending (V := fun _ => True) fun _ _ => trivial).bind fun value _ =>
        (hand_maintains hhandled handler context value).bind fun left _ => ?_
      split
      · exact .pure trivial
      · exact ih left

theorem window_maintains (h : Maintains I s.nextRow fun _ => True)
    (hget : ∀ t, J t → I t.database) (hset : ∀ t db, J t → I db → J { t with database := db })
    (hhandled : ∀ t l, J t → J { t with handled := l }) (read : Row → Except Error Value)
    (bounds : RowBounds) (handler : Option RowHandler) :
    Maintains J (window s read bounds handler) fun _ => True := by
  have hlift : ∀ {α : Type} {x : DriverM α}, Maintains I x (fun _ => True) →
      Maintains J (liftM x : SessionM α) fun _ => True := fun hx => hx.within hget hset
  refine (hlift (skipOffset_maintains h bounds)).bind fun enough _ => ?_
  cases enough with
  | false => exact .pure trivial
  | true =>
    refine (hlift (steps_maintains bounds.limit)).bind fun n _ => ?_
    cases handler with
    | none => exact hlift (collect_maintains h read n)
    | some handler =>
      exact (deliver_maintains (hlift h) hhandled read handler .initial n).bind fun _ _ =>
        .pure trivial

theorem window_apart (hs : s ∉ kept) (read : Row → Except Error Value) (bounds : RowBounds)
    (handler : Option RowHandler) :
    Maintains (s₀.Apart kept) (window s read bounds handler) fun _ => True :=
  window_maintains (Statement.nextRow_apart hs) (fun _ ht => ht.database)
    (fun _ _ ht hdb => ⟨hdb, ht.session⟩) (fun _ _ ht => ⟨ht.database, ht.session⟩) read bounds handler

end Reading

namespace Invocation

variable {i : Invocation} {s : Statement}

theorem applySettings_apart (i : Invocation) (settings : Settings) (timeout : Option Nat)
    (s : Statement) :
    Maintains (db₀.Apart kept) (i.applySettings settings timeout s) fun _ => True := by
  unfold applySettings
  dsimp only
  split
  · refine (s.setTimeout_apart _).bind fun _ _ => ?_
    split
    · exact s.setFetchSize_apart _
    · exact .pure trivial
  · split
    · exact s.setFetchSize_apart _
    · exact .pure trivial

theorem prepare_apart (i : Invocation) (settings : Settings) (timeout : Option Nat)
    (c : Connection) :
    Maintains (db₀.Apart kept) (i.prepare settings timeout c) fun s => s ∉ kept :=
  (c.prepare_apart i.form).bind fun s hs =>
    ((i.applySettings_apart settings timeout s).orUndo (Statement.closeQuietly_apart hs)).bind
      fun _ _ => .pure hs

theorem parameterize_apart (i : Invocation) (p : Parameter) (s : Statement) :
    Maintains (db₀.Apart kept) (i.parameterize p s) fun _ => True := by
  refine (Maintains.forM fun c _ => s.registerOut_apart c.1).bind fun _ _ => .forM fun c _ => ?_
  exact (Maintains.ending (V := fun _ => True) fun _ _ => trivial).bind fun value _ =>
    s.bind_apart c.1 value

theorem execute_apart (i : Invocation) (hs : s ∉ kept) :
    Maintains (db₀.Apart kept) (i.execute s) fun _ => True :=
  (Statement.execute_apart hs i.text).discard

theorem freshStatement_apart (settings : Settings) (i : Invocation) :
    Maintains (s₀.Apart kept) (i.freshStatement settings) fun s => s ∉ kept := by
  refine SessionM.session_apart.bind fun t _ => SessionM.connection_apart.bind fun c _ => ?_
  refine (SessionM.lift_apart (i.prepare_apart settings _ c)).bind fun s hs =>
    SessionM.parameter_apart.bind fun p _ => ?_
  exact (SessionM.lift_apart ((i.parameterize_apart p s).orUndo
    (Statement.closeQuietly_apart hs))).bind fun _ _ => .pure hs

theorem takeOutputs_apart (i : Invocation) (s : Statement) :
    Maintains (s₀.Apart kept) (i.takeOutputs s) fun _ => True :=
  .forM fun c _ => (SessionM.lift_apart (s.outParameter_apart c.1)).bind fun value _ =>
    SessionM.onParameter_apart (Parameter.write c.2 value)

theorem query_apart (mapper : RowMapper) (i : Invocation) (hs : s ∉ kept)
    (handler : Option RowHandler) :
    Maintains (s₀.Apart kept) (i.query mapper s handler) fun _ => True :=
  (SessionM.lift_apart (i.execute_apart hs)).bind fun _ _ =>
    (Reading.window_apart hs _ i.bounds handler).bind fun _ _ =>
      (i.takeOutputs_apart s).bind fun _ _ => .pure trivial

end Invocation

namespace Keys

variable (config : Configuration)

theorem run_apart (id : String) : Maintains (s₀.Apart kept) (run config id) fun _ => True := by
  refine (SessionM.ending_apart (config.registry.get id)).bind fun command _ =>
    SessionM.parameter_apart.bind fun p _ =>
      (SessionM.ending_apart (Invocation.of command p .all)).bind fun i _ =>
        (i.freshStatement_apart config.settings).bind fun s hs => ?_
  have hq : Maintains (s₀.Apart kept) (i.query config.mapper s none) fun _ => True :=
    i.query_apart config.mapper hs none
  exact ((SessionM.withParameter_apart p hq).thenAlways
    (SessionM.lift_apart (Statement.closeQuietly_apart hs))).bind fun _ _ => .pure trivial

theorem select_apart (id property : String) :
    Maintains (s₀.Apart kept) (select config id property) fun _ => True := by
  refine (run_apart config id).bind fun keys _ => ?_
  split
  · exact .throw _
  · exact SessionM.onParameter_apart _
  · exact .throw _

theorem before_apart (command : Command) :
    Maintains (s₀.Apart kept) (before config command) fun _ => True := by
  unfold before
  split
  · exact select_apart config _ _
  · exact .pure trivial

theorem after_apart (command : Command) (s : Statement) :
    Maintains (s₀.Apart kept) (after config command s) fun _ => True := by
  unfold after
  split
  · refine (SessionM.lift_apart s.generatedKeys_apart).bind fun rows _ => ?_
    cases rows with
    | nil => exact .pure trivial
    | cons row rows => exact SessionM.onParameter_apart _
  · exact select_apart config _ _
  · exact .pure trivial

theorem afterBatch_apart (command : Command) (s : Statement) (parameters : List Parameter)
    (counts : List Int) :
    Maintains (s₀.Apart kept) (afterBatch config command s parameters counts) fun _ => True := by
  unfold afterBatch
  split
  · refine (SessionM.lift_apart s.generatedKeys_apart).bind fun rows _ => ?_
    exact (SessionM.ending_apart _).bind fun _ _ => .pure trivial
  · exact (Maintains.mapM (V := fun _ => True) fun p _ =>
      (SessionM.withParameter_apart p (select_apart config _ _)).bind
        fun _ _ => .pure trivial).forget
  · exact .pure trivial

end Keys

namespace SessionM

variable (config : Configuration)

theorem invocation_apart (command : Command) (bounds : RowBounds) :
    Maintains (s₀.Apart kept) (invocation command bounds) fun _ => True :=
  parameter_apart.bind fun _ _ => ending_apart _

theorem freshQuery_apart (command : Command) (bounds : RowBounds) (handler : Option RowHandler) :
    Maintains (s₀.Apart kept) (freshQuery config command bounds handler) fun _ => True :=
  (invocation_apart command bounds).bind fun i _ =>
    (i.freshStatement_apart config.settings).bind fun _ hs =>
      (i.query_apart config.mapper hs handler).thenAlways
        (lift_apart (Statement.closeQuietly_apart hs))

theorem freshCursor_apart (command : Command) (bounds : RowBounds) :
    Maintains (s₀.Apart kept) (freshCursor config command bounds)
      fun c => ∀ s, c.statement = some s → s ∉ kept := by
  refine (invocation_apart command bounds).bind fun i _ =>
    (i.freshStatement_apart config.settings).bind fun s hs => ?_
  refine (lift_apart ((i.execute_apart hs).orUndo (Statement.closeQuietly_apart hs))).bind
    fun _ _ => .pure fun s' hs' => ?_
  cases hs'
  exact hs

end SessionM

end SqlMapper
