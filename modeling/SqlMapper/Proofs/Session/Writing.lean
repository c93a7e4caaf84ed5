import SqlMapper.Proofs.Parameter.Writing
import SqlMapper.Proofs.Session.KeyOrder

namespace SqlMapper

open Fallible Parameter

/-- The properties that an execution of the command has keys for; an early key is there before it. -/
inductive Command.TakesKey (c : Command) : Bool → String → Prop where
  | selected {id property : String} {early : Bool} (keys : c.keys = .selectKey id property early) :
    TakesKey c early property
  | generated {properties : List String} {property : String} (keys : c.keys = .generated properties)
    (mem : property ∈ properties) : TakesKey c false property

/-- The parameter object that a mutation called with `p` is computed from. -/
inductive Command.Starts (c : Command) (p : Parameter) : Parameter → Prop where
  | itself (h : ∀ property, ¬ c.TakesKey true property) : Starts c p p
  | keyed {property : String} {key : Value} {q : Parameter} (h : c.TakesKey true property)
    (assigned : p.assign property key = .ok q) : Starts c p q

namespace Session.Operation

inductive MayWrite (config : Configuration) (u : Scope) (op : Operation) : String → Prop where
  | earlyKey {id property : String} {c : Command} (mutates : op.mutation? = some id)
    (found : config.registry.find? id = some c) (key : c.TakesKey true property) :
    MayWrite config u op property
  | lateKey {id property : String} {c : Command} (mutates : op.mutation? = some id)
    (found : config.registry.find? id = some c)
    (unqueued : u.session.strategy.executorType ≠ .batch) (key : c.TakesKey false property) :
    MayWrite config u op property
  | mutated {id property : String} {c : Command} {p : Parameter} {i : Invocation} {index : Nat}
    (mutates : op.mutation? = some id) (found : config.registry.find? id = some c)
    (unqueued : u.session.strategy.executorType ≠ .batch) (starts : c.Starts u.parameter p)
    (invokes : Invocation.of c p .all = .ok i) (output : (index, property) ∈ i.outputs) :
    MayWrite config u op property
  | queried {id property : String} {bounds : RowBounds} {handler : Option RowHandler} {c : Command}
    {i : Invocation} {index : Nat} (queries : op.query? = some (id, bounds, handler))
    (found : config.registry.find? id = some c)
    (invokes : Invocation.of c u.parameter bounds = .ok i) (output : (index, property) ∈ i.outputs) :
    MayWrite config u op property

/-- The operations that write nothing: any called with a lone array, the queries that call no
procedure, and all that are neither queries nor mutations, cursors among them. -/
inductive Spares (config : Configuration) (u : Scope) (op : Operation) : Prop where
  | lone {items : List Value} (h : u.parameter = .single (.array items))
  | plain {id : String} {bounds : RowBounds} {handler : Option RowHandler} {c : Command}
    (queries : op.query? = some (id, bounds, handler)) (found : config.registry.find? id = some c)
    (h : c.statementKind ≠ .callable)
  | other (query : op.query? = none) (mutation : op.mutation? = none)

end Session.Operation

section Steps

variable {α : Type} {V : α → Prop} {P : String → Prop} {p : Parameter} {config : Configuration}
  {command : Command} {i : Invocation} {property : String}

theorem Parameter.write_writtenAt (hP : P property) (value : Value) :
    Maintains (WrittenAt P p) (write property value) fun _ => True := by
  intro q hq
  cases ha : q.assign property value with
  | ok r =>
    rw [write_of_ok ha]
    exact ⟨.write hq hP ha, fun _ _ => trivial⟩
  | error e =>
    rw [write_of_error ha]
    exact ⟨hq, fun _ _ => trivial⟩

namespace SessionM

theorem maintains_of_parameter {x : SessionM α} (Q : Parameter → Prop)
    (h : ∀ p, Maintains (fun u => u.parameter = p) x V) :
    Maintains (fun u => Q u.parameter) x V := by
  intro u hu
  obtain ⟨hsame, hV⟩ := h u.parameter u rfl
  refine ⟨?_, hV⟩
  change Q (x.outcome u).2.parameter
  rw [hsame]
  exact hu

theorem onParameter_writtenAt {x : Fallible Parameter α} (h : Maintains (WrittenAt P p) x V) :
    Maintains (fun u => WrittenAt P p u.parameter) (onParameter x) V :=
  h.within (fun _ hu => hu) fun _ _ _ hq => hq

end SessionM

theorem Invocation.takeOutputs_writtenAt (s : Statement) (hP : ∀ c ∈ i.outputs, P c.2) :
    Maintains (fun u => WrittenAt P p u.parameter) (i.takeOutputs s) fun _ => True := by
  refine .forM fun c hc => ?_
  exact (SessionM.maintains_of_parameter _ (SessionM.lift_parameter _)).bind fun value _ =>
    SessionM.onParameter_writtenAt (write_writtenAt (hP c hc) value)

theorem Reading.window_parameter (s : Statement) (read : Row → Except Error Value)
    (bounds : RowBounds) (handler : Option RowHandler) (p : Parameter) :
    Maintains (fun u => u.parameter = p) (window s read bounds handler) fun _ => True :=
  window_maintains (I := fun _ => True) (fun _ _ => ⟨trivial, fun _ _ => trivial⟩)
    (fun _ _ => trivial) (fun _ _ h _ => h) (fun _ _ h => h) read bounds handler

theorem Invocation.query_writtenAt (mapper : RowMapper) (s : Statement)
    (handler : Option RowHandler) (hP : ∀ c ∈ i.outputs, P c.2) :
    Maintains (fun u => WrittenAt P p u.parameter) (i.query mapper s handler) fun _ => True :=
  (SessionM.maintains_of_parameter _ (SessionM.lift_parameter _)).bind fun _ _ =>
    (SessionM.maintains_of_parameter _ (Reading.window_parameter _ _ _ _)).bind fun _ _ =>
      (takeOutputs_writtenAt s hP).bind fun _ _ => .pure trivial

namespace Keys

theorem assignRow_writtenAt {properties : List String} (row : Row)
    (hP : ∀ property ∈ properties, P property) :
    Maintains (WrittenAt P p) (assignRow command.id properties row) fun _ => True := by
  unfold assignRow
  split
  · exact .throw _
  · exact .forM fun w hw => write_writtenAt (hP w.1 (List.of_mem_zip hw).1) w.2

theorem select_writtenAt (id : String) (hP : P property) :
    Maintains (fun u => WrittenAt P p u.parameter) (select config id property) fun _ => True := by
  refine (SessionM.maintains_of_parameter _ (run_parameter config id)).bind fun keys _ => ?_
  split
  · exact .throw _
  · exact SessionM.onParameter_writtenAt (write_writtenAt hP _)
  · exact .throw _

theorem before_writtenAt (hP : ∀ property, command.TakesKey true property → P property) :
    Maintains (fun u => WrittenAt P p u.parameter) (before config command) fun _ => True := by
  unfold before
  split
  · next id property hkeys => exact select_writtenAt id (hP property (.selected hkeys))
  · exact .pure trivial

theorem after_writtenAt (s : Statement)
    (hP : ∀ property, command.TakesKey false property → P property) :
    Maintains (fun u => WrittenAt P p u.parameter) (after config command s) fun _ => True := by
  unfold after
  split
  · next properties hkeys =>
    refine (SessionM.maintains_of_parameter _ (SessionM.lift_parameter _)).bind fun rows _ => ?_
    split
    · exact .pure trivial
    · next row _ =>
      exact SessionM.onParameter_writtenAt
        (assignRow_writtenAt row fun property hmem => hP property (.generated hkeys hmem))
  · next id property hkeys => exact select_writtenAt id (hP property (.selected hkeys))
  · exact .pure trivial

theorem starts_of_before {u t : Scope} (h : (before config command).outcome u = (.ok (), t)) :
    command.Starts u.parameter t.parameter := by
  unfold before at h
  split at h
  · next id property hkeys =>
    obtain ⟨key, hwrite⟩ := select_ok h
    exact .keyed (.selected hkeys) (assign_of_write hwrite)
  · next hkeys =>
    cases h
    refine .itself fun property htakes => ?_
    cases htakes with
    | selected hselect => exact hkeys _ _ hselect

end Keys

namespace SessionM

variable {bounds : RowBounds} {handler : Option RowHandler} {u : Scope}

theorem writtenAt_of_parameter (u : Scope) (h : u.parameter = p) : WrittenAt P p u.parameter := by
  rw [h]
  exact .unwritten

theorem invocation_parameter (command : Command) (bounds : RowBounds) (p : Parameter) :
    Maintains (fun u => u.parameter = p) (invocation command bounds)
      fun i => Invocation.of command p bounds = .ok i := by
  rintro u rfl
  exact ⟨rfl, fun _ hi => hi⟩

theorem freshQuery_writtenAt
    (hP : ∀ i c, Invocation.of command p bounds = .ok i → c ∈ i.outputs → P c.2) :
    Leads (fun u => u.parameter = p) (freshQuery config command bounds handler)
      (fun _ u => WrittenAt P p u.parameter) fun u => WrittenAt P p u.parameter := by
  refine (invocation_parameter command bounds p).bind_leads writtenAt_of_parameter fun i hi => ?_
  refine (i.freshStatement_parameter config.settings p).bind_leads writtenAt_of_parameter
    fun s _ => ?_
  exact ((Invocation.query_writtenAt config.mapper s handler fun c hc => hP i c hi hc).thenAlways
    (maintains_of_parameter _ (lift_parameter _))).leads.weaken_pre writtenAt_of_parameter

theorem runQuery_writtenAt
    (hP : ∀ i c, Invocation.of command p bounds = .ok i → c ∈ i.outputs → P c.2) :
    Leads (fun u => u.parameter = p) (runQuery config command bounds handler)
      (fun _ u => WrittenAt P p u.parameter) fun u => WrittenAt P p u.parameter := by
  refine (session_parameter p).bind_leads writtenAt_of_parameter fun w _ => ?_
  cases w.strategy with
  | simple => exact freshQuery_writtenAt hP
  | reuse statements =>
    refine (invocation_parameter command bounds p).bind_leads writtenAt_of_parameter fun i hi => ?_
    refine (Reuse.statement_parameter config.settings statements i p).bind_leads
      writtenAt_of_parameter fun s _ => ?_
    exact (Invocation.query_writtenAt config.mapper s handler fun c hc =>
      hP i c hi hc).leads.weaken_pre writtenAt_of_parameter
  | batch queue =>
    exact (Batch.flush_parameter config p queue).discard.bind_leads writtenAt_of_parameter
      fun _ _ => freshQuery_writtenAt hP

theorem query_writtenAt (config : Configuration) (handler : Option RowHandler)
    (hP : ∀ i c, Invocation.of command u.parameter bounds = .ok i → c ∈ i.outputs → P c.2) :
    WrittenAt P u.parameter ((query config command bounds handler).outcome u).2.parameter := by
  obtain ⟨c, hsame | ⟨handler', c', hrun⟩⟩ := query_state config command bounds handler u
  · rw [hsame]
    exact .unwritten
  · rw [hrun]
    exact (runQuery_writtenAt hP).state (s := u.withCache c) rfl

theorem execute_writtenAt (s : Statement) (houtputs : ∀ c ∈ i.outputs, P c.2)
    (hkeys : ∀ property, i.command.TakesKey false property → P property) :
    Maintains (fun u => WrittenAt P p u.parameter) (execute config i s) fun _ => True :=
  (maintains_of_parameter _ (lift_parameter _)).bind fun _ _ =>
    (maintains_of_parameter _ (lift_parameter _)).bind fun _ _ =>
      (Invocation.takeOutputs_writtenAt s houtputs).bind fun _ _ =>
        (Keys.after_writtenAt s hkeys).bind fun _ _ => .pure trivial

theorem carryOut_writtenAt
    (houtputs : u.session.strategy.executorType ≠ .batch → ∀ c ∈ i.outputs, P c.2)
    (hkeys : u.session.strategy.executorType ≠ .batch →
      ∀ property, i.command.TakesKey false property → P property)
    (hu : WrittenAt P p u.parameter) :
    WrittenAt P p ((carryOut config i).outcome u).2.parameter := by
  rw [carryOut, outcome_session_bind]
  cases hst : u.session.strategy with
  | simple =>
    have hunqueued : u.session.strategy.executorType ≠ .batch := by simp [hst, Strategy.executorType]
    refine (Maintains.bind (W := fun _ => True)
      (maintains_of_parameter (WrittenAt P p) (i.freshStatement_parameter config.settings))
      (fun s _ => ?_) u hu).1
    exact (execute_writtenAt s (houtputs hunqueued) (hkeys hunqueued)).thenAlways
      (maintains_of_parameter _ (lift_parameter _))
  | reuse statements =>
    have hunqueued : u.session.strategy.executorType ≠ .batch := by simp [hst, Strategy.executorType]
    refine (Maintains.bind (W := fun _ => True)
      (maintains_of_parameter (WrittenAt P p) (Reuse.statement_parameter config.settings statements i))
      (fun s _ => ?_) u hu).1
    exact execute_writtenAt s (houtputs hunqueued) (hkeys hunqueued)
  | batch queue =>
    exact (Maintains.bind (W := fun _ => True)
      (maintains_of_parameter (WrittenAt P p) (Batch.enqueue_parameter · config.settings queue i))
      (fun _ _ => .pure trivial) u hu).1

theorem mutate_writtenAt (config : Configuration)
    (hearly : ∀ property, command.TakesKey true property → P property)
    (hlate : u.session.strategy.executorType ≠ .batch →
      ∀ property, command.TakesKey false property → P property)
    (houtputs : u.session.strategy.executorType ≠ .batch → ∀ q i c, command.Starts u.parameter q →
      Invocation.of command q .all = .ok i → c ∈ i.outputs → P c.2) :
    WrittenAt P u.parameter ((mutate config command).outcome u).2.parameter := by
  cases hopen : u.session.closed with
  | true =>
    rw [mutate_of_closed hopen]
    exact .unwritten
  | false =>
    have hbefore : WrittenAt P u.parameter
        ((Keys.before config command).outcome (u.withCache .empty)).2.parameter :=
      (Keys.before_writtenAt hearly (u.withCache .empty) .unwritten).1
    obtain ⟨e, hx⟩ | ⟨i, t, ht, hi, -, hx⟩ := mutate_cases config command hopen
    · rw [hx]
      exact hbefore
    · rw [hx]
      rw [ht] at hbefore
      have hapart := kept ht (Keys.before_apart config command) (.self (u.withCache .empty))
      have hstrategy : t.session.strategy = (u.withCache .empty).session.strategy := by
        rw [← hapart.session]
      have hstarts : command.Starts u.parameter t.parameter :=
        Keys.starts_of_before (u := u.withCache .empty) ht
      refine carryOut_writtenAt (fun hunqueued c hc => ?_) (fun hunqueued => ?_) hbefore
      · rw [hstrategy] at hunqueued
        exact houtputs hunqueued t.parameter i c hstarts hi hc
      · rw [hstrategy] at hunqueued
        rw [Invocation.command_of hi]
        exact hlate hunqueued

end SessionM

end Steps

namespace Session

variable {config : Configuration} {op : Operation} {u : Scope}

/-- Work on the arguments under a lone array's names does not reach the array. -/
theorem wrapped_of_lone {α : Type} {items : List Value} (h : u.parameter = .single (.array items))
    (x : SessionM α) : ((wrapped x).outcome u).2.parameter = u.parameter := by
  rw [wrapped, SessionM.outcome_parameter_bind, h]
  dsimp only
  rw [outcome_bind, SessionM.withParameter_outcome]
  rcases x.outcome { u with parameter := (Parameter.single (.array items)).wrapCollection } with
    ⟨e | a, t⟩ <;> exact h

theorem wrapped_of_not_lone {α : Type} (h : ∀ items, u.parameter ≠ .single (.array items))
    (x : SessionM α) : (wrapped x).outcome u = x.outcome u := by
  rw [wrapped, SessionM.outcome_parameter_bind]
  split
  · next items hp => exact absurd hp (h items)
  · rfl

variable (config) in
theorem perform_of_lone {items : List Value} (h : u.parameter = .single (.array items))
    (hop : op.query? ≠ none ∨ op.mutation? ≠ none) :
    ((op.perform config).outcome u).2.parameter = u.parameter := by
  rcases hquery : op.query? with _ | ⟨id, bounds, handler⟩
  · obtain ⟨id, hmutation⟩ := Option.ne_none_iff_exists'.mp (hop.resolve_left (absurd hquery))
    rw [perform_mutation config hmutation]
    cases hc : config.registry.find? id with
    | none => rw [mutate_of_missing hc]
    | some c =>
      have hdirty : (u.withDirty true).parameter = .single (.array items) := h
      rw [mutate, command_bind_of_found hc]
      exact wrapped_of_lone hdirty _
  · rw [(perform_query config hquery u).state]
    cases hc : config.registry.find? id with
    | none => rw [query_of_missing hc]
    | some c =>
      rw [query, command_bind_of_found hc]
      exact wrapped_of_lone h _

theorem openCursor_parameter (c : Command) (bounds : RowBounds) :
    ((SessionM.openCursor config c bounds).outcome u).2.parameter = u.parameter := by
  have hfresh : Maintains (fun t => t.parameter = u.parameter) (SessionM.freshCursor config c bounds)
      fun _ => True :=
    (SessionM.invocation_parameter c bounds _).bind fun i _ =>
      (i.freshStatement_parameter config.settings _).bind fun s _ =>
        (SessionM.lift_parameter _ _).bind fun _ _ => .pure trivial
  cases hopen : u.session.closed with
  | true => rw [SessionM.openCursor_of_closed hopen]
  | false =>
    have hstart : (u.flushedFor c).parameter = u.parameter := by rw [Scope.flushedFor_eq]; rfl
    rw [SessionM.openCursor_of_open hopen]
    split
    · exact ((Batch.flush_parameter config _ _).discard.bind (fun _ _ => hfresh) _ hstart).1
    · exact (hfresh _ hstart).1

theorem selectCursor_parameter (id : String) (bounds : RowBounds) :
    ((selectCursor config id bounds).outcome u).2.parameter = u.parameter := by
  cases hc : config.registry.find? id with
  | none => rw [selectCursor_of_missing hc]
  | some c =>
    rw [selectCursor, command_bind_of_found hc]
    by_cases h : ∃ items, u.parameter = .single (.array items)
    · obtain ⟨items, h⟩ := h
      exact wrapped_of_lone h _
    · rw [wrapped_of_not_lone (not_exists.mp h)]
      exact openCursor_parameter c bounds

theorem flush_parameter (u : Scope) :
    ((SessionM.flush config).outcome u).2.parameter = u.parameter := by
  rw [SessionM.flush, SessionM.outcome_session_bind]
  cases u.session.strategy with
  | simple => rfl
  | reuse statements =>
    dsimp only
    rw [snd_bind fun _ _ => rfl]
    rfl
  | batch queue => exact (Batch.flush_parameter config u.parameter queue u rfl).1

theorem abandon_parameter (u : Scope) : (SessionM.abandon.outcome u).2.parameter = u.parameter := by
  rw [SessionM.abandon, SessionM.outcome_session_bind]
  cases u.session.strategy <;> rfl

theorem finishing_parameter {α : Type} (must : Bool) (finish : Transaction → DriverM Unit)
    (x : Except Error α × Scope) : (finishing must finish x).2.parameter = x.2.parameter := by
  obtain ⟨e | a, t⟩ := x
  · rfl
  · unfold finishing
    dsimp only
    split
    · rcases (finish t.session.transaction).outcome t.database with ⟨e | _, db⟩ <;> rfl
    · rfl

theorem commit_parameter (force : Bool) :
    ((commit config force).outcome u).2.parameter = u.parameter := by
  cases hopen : u.session.closed with
  | true => rw [commit_of_closed hopen]
  | false => rw [commit_of_open hopen, finishing_parameter, flush_parameter]; rfl

theorem rollback_parameter (force : Bool) :
    ((rollback force).outcome u).2.parameter = u.parameter := by
  cases hopen : u.session.closed with
  | true => rw [rollback_of_closed hopen]; rfl
  | false => rw [rollback_of_open hopen, finishing_parameter, abandon_parameter]; rfl

theorem close_parameter : (close.outcome u).2.parameter = u.parameter := by
  cases hopen : u.session.closed with
  | true => rw [close_of_closed hopen]; rfl
  | false =>
    rw [close_of_open hopen]
    exact rollback_parameter false

variable (config u) in
theorem perform_other (hquery : op.query? = none) (hmutation : op.mutation? = none) :
    ((op.perform config).outcome u).2.parameter = u.parameter := by
  cases op with
  | selectCursor id bounds =>
    rw [perform_selectCursor]
    exact selectCursor_parameter id bounds
  | flushStatements =>
    rw [perform_flushStatements]
    cases hopen : u.session.closed with
    | true => rw [flushStatements_of_closed hopen]
    | false =>
      rw [flushStatements_of_open hopen]
      exact flush_parameter u
  | commit force =>
    rw [perform_commit]
    exact commit_parameter force
  | rollback force =>
    rw [perform_rollback]
    exact rollback_parameter force
  | clearCache =>
    rw [perform_clearCache]
    cases hopen : u.session.closed with
    | true => rw [clearCache_of_closed hopen]
    | false => rw [clearCache_of_open hopen]; rfl
  | close =>
    rw [perform_close]
    exact close_parameter
  | selectOne | selectList | selectMap | selectWithHandler => cases hquery
  | insert | update | delete => cases hmutation

variable {P : String → Prop} {id : String}

variable (config u) in
theorem perform_query_writtenAt {bounds : RowBounds} {handler : Option RowHandler}
    (queries : op.query? = some (id, bounds, handler))
    (hP : ∀ c i output, config.registry.find? id = some c →
      Invocation.of c u.parameter bounds = .ok i → output ∈ i.outputs → P output.2) :
    WrittenAt P u.parameter ((op.perform config).outcome u).2.parameter := by
  by_cases hlone : ∃ items, u.parameter = .single (.array items)
  · obtain ⟨items, hlone⟩ := hlone
    rw [perform_of_lone config hlone (.inl (by simp [queries]))]
    exact .unwritten
  · rw [(perform_query config queries u).state]
    cases hc : config.registry.find? id with
    | none =>
      rw [query_of_missing hc]
      exact .unwritten
    | some c =>
      rw [query, command_bind_of_found hc, wrapped_of_not_lone (not_exists.mp hlone)]
      exact SessionM.query_writtenAt config handler fun i output => hP c i output hc

variable (config) in
theorem perform_mutation_writtenAt (mutates : op.mutation? = some id)
    (hearly : ∀ c property, config.registry.find? id = some c → c.TakesKey true property → P property)
    (hlate : u.session.strategy.executorType ≠ .batch → ∀ c property,
      config.registry.find? id = some c → c.TakesKey false property → P property)
    (houtputs : u.session.strategy.executorType ≠ .batch → ∀ c p i output,
      config.registry.find? id = some c → c.Starts u.parameter p →
        Invocation.of c p .all = .ok i → output ∈ i.outputs → P output.2) :
    WrittenAt P u.parameter ((op.perform config).outcome u).2.parameter := by
  by_cases hlone : ∃ items, u.parameter = .single (.array items)
  · obtain ⟨items, hlone⟩ := hlone
    rw [perform_of_lone config hlone (.inr (by simp [mutates]))]
    exact .unwritten
  · rw [perform_mutation config mutates]
    cases hc : config.registry.find? id with
    | none =>
      rw [mutate_of_missing hc]
      exact .unwritten
    | some c =>
      have hnot : ∀ items, (u.withDirty true).parameter ≠ .single (.array items) :=
        not_exists.mp hlone
      rw [mutate, command_bind_of_found hc, SessionM.outcome_changeSession_bind]
      change WrittenAt P u.parameter ((wrapped _).outcome (u.withDirty true)).2.parameter
      rw [wrapped_of_not_lone hnot]
      exact SessionM.mutate_writtenAt (u := u.withDirty true) config (hearly c · hc)
        (fun hunqueued property => hlate hunqueued c property hc)
        fun hunqueued p i output => houtputs hunqueued c p i output hc

/-- However an operation ends, the caller's parameter object has come of assignments to properties that
the operation may write, and the lookup of any other matter answers as it did. A query that calls no
procedure writes nothing, nor does a cursor or what is called with a lone array, and a mutation that is
queued at most the key selected before it. -/
theorem perform_writes (config : Configuration) (op : Operation) (u : Scope) :
    WrittenAt (op.MayWrite config u) u.parameter ((op.perform config).outcome u).2.parameter ∧
    (∀ property, (∀ written, op.MayWrite config u written →
        PathsApart (segments written) (segments property)) →
      AnswersAlike (u.parameter.lookup property)
        (((op.perform config).outcome u).2.parameter.lookup property)) ∧
    (op.Spares config u → ((op.perform config).outcome u).2.parameter = u.parameter) ∧
    ∀ id c, op.mutation? = some id → config.registry.find? id = some c →
      u.session.strategy.executorType = .batch →
        WrittenAt (c.TakesKey true) u.parameter ((op.perform config).outcome u).2.parameter := by
  have hwritten : WrittenAt (op.MayWrite config u) u.parameter
      ((op.perform config).outcome u).2.parameter := by
    rcases hquery : op.query? with _ | ⟨id, bounds, handler⟩
    · cases hmutation : op.mutation? with
      | none =>
        rw [perform_other config u hquery hmutation]
        exact .unwritten
      | some id =>
        exact perform_mutation_writtenAt config hmutation
          (fun c property hc hkey => .earlyKey hmutation hc hkey)
          (fun hunqueued c property hc hkey => .lateKey hmutation hc hunqueued hkey)
          fun hunqueued c p i output hc hstarts hi hmem =>
            .mutated hmutation hc hunqueued hstarts hi hmem
    · exact perform_query_writtenAt config u hquery fun c i output hc hi hmem =>
        .queried hquery hc hi hmem
  refine ⟨hwritten, fun property ha => hwritten.lookup ha, fun hspares => ?_, ?_⟩
  · cases hspares with
    | lone hlone =>
      by_cases hop : op.query? ≠ none ∨ op.mutation? ≠ none
      · exact perform_of_lone config hlone hop
      · simp only [ne_eq, not_or, not_not] at hop
        exact perform_other config u hop.1 hop.2
    | plain queries found hkind =>
      refine (perform_query_writtenAt (P := fun _ => False) config u queries
        fun c i output hc hi hmem => ?_).eq_of_forall_not fun _ h => h
      rw [found] at hc
      cases hc
      have hnone : i.outputs = [] := by
        unfold Invocation.outputs
        rw [Invocation.command_of hi]
        split
        · exact absurd ‹_› hkind
        · rfl
      rw [hnone] at hmem
      cases hmem
    | other hquery hmutation => exact perform_other config u hquery hmutation
  · intro id c mutates found hbatch
    refine perform_mutation_writtenAt config mutates (fun c' property hc hkey => ?_)
      (fun hunqueued => absurd hbatch hunqueued) fun hunqueued => absurd hbatch hunqueued
    rw [found] at hc
    cases hc
    exact hkey

end Session

end SqlMapper
