import SqlMapper.Proofs.Database.Custody
import SqlMapper.Proofs.Session.Command

namespace SqlMapper

open Fallible

def Strategy.statements : Strategy → List Statement
  | simple => []
  | reuse statements => statements.map Prod.snd
  | batch queue => queue.map QueuedStatement.statement

def Strategy.Sorted : Strategy → Prop
  | reuse statements => NameMap.Sorted statements
  | _ => True

variable {α β : Type} {H : Transaction → List Statement → Database → Prop} {st : Strategy}
  {tr : Transaction} {held extra : List Statement} {s : Statement}

structure Scope.Keeps (H : Transaction → List Statement → Database → Prop) (st : Strategy)
    (held : List Statement) (u : Scope) : Prop where
  strategy : u.session.strategy = st
  holding : Holding H u.session.transaction held u.database

/-- The strategy is one of `type`. In hand are its statements and those in `extra`. -/
structure Scope.Tends (H : Transaction → List Statement → Database → Prop) (type : ExecutorType)
    (extra : List Statement) (u : Scope) : Prop where
  kind : u.session.strategy.executorType = type
  sorted : u.session.strategy.Sorted
  holding : Holding H u.session.transaction (u.session.strategy.statements ++ extra) u.database

namespace Scope

variable {u : Scope} {type : ExecutorType}

theorem Keeps.tends (h : u.Keeps H st (st.statements ++ extra)) (hkind : st.executorType = type)
    (hst : st.Sorted) : u.Tends H type extra := by
  obtain ⟨rfl, hold⟩ := h
  exact ⟨hkind, hst, hold⟩

theorem Keeps.perm (hH : Custody H) {held' : List Statement} (hperm : held.Perm held')
    (h : u.Keeps H st held) : u.Keeps H st held' := ⟨h.strategy, h.holding.perm hH hperm⟩

theorem Tends.keeps (h : u.Tends H type extra) :
    u.Keeps H u.session.strategy (u.session.strategy.statements ++ extra) := ⟨rfl, h.holding⟩

theorem Tends.same {v : Scope} (h : u.Tends H type extra)
    (htransaction : v.session.transaction = u.session.transaction)
    (hstrategy : v.session.strategy = u.session.strategy) (hdatabase : v.database = u.database) :
    v.Tends H type extra := by
  refine ⟨hstrategy ▸ h.kind, hstrategy ▸ h.sorted, ?_⟩
  rw [htransaction, hstrategy, hdatabase]
  exact h.holding

end Scope

open Scope

theorem Fallible.Maintains.inHand {x : DriverM α} {V : α → Prop}
    (h : ∀ db₀ : Database, Maintains (db₀.Apart held) x V) :
    Maintains (Database.InHand held) x V := by
  intro db hin
  obtain ⟨ha, hV⟩ := h db db (.refl fun t ht => Database.index_lt_of_open (hin.isOpen t ht))
  exact ⟨⟨hin.nodup, fun t ht => by rw [ha.same t ht, hin.isOpen t ht]⟩, hV⟩

theorem Transaction.acquire_holding (hH : Custody H) (tr : Transaction) (held : List Statement) :
    Leads (Holding H tr held) tr.acquire
      (fun r db => Holding H r.2 held db ∧ r.2.connection? = some r.1) (Holding H tr held) := by
  have hholds : Leads (H tr held) tr.acquire
      (fun r db => H r.2 held db ∧ r.2.connection? = some r.1) (H tr held) := by
    unfold acquire
    split
    · next c hc => exact .pure fun _ h => ⟨h, hc⟩
    · next hnone => exact (hH.opened hnone held).bind fun _ => .pure fun _ h => ⟨h, rfl⟩
  exact (hholds.and (.inHand fun _ => tr.acquire_apart)).weaken (fun _ h => ⟨h.holds, h.inHand⟩)
    (fun _ _ h => ⟨⟨h.2, h.1.1⟩, h.1.2⟩) fun _ h => ⟨h.2, h.1⟩

namespace SessionM

theorem lift_leads_of {T : Transaction → Prop} {x : DriverM α} {after : α → List Statement}
    {failed : Transaction → Database → Prop} {E : Scope → Prop}
    (h : ∀ tr, T tr → Leads (Holding H tr held) x (fun a => Holding H tr (after a)) (failed tr))
    (hE : ∀ u : Scope, u.session.strategy = st → failed u.session.transaction u.database → E u) :
    Leads (fun u => Keeps H st held u ∧ T u.session.transaction) (liftM x : SessionM α)
      (fun a => Keeps H st (after a)) E := by
  rintro u ⟨hu, hT⟩
  rw [outcome_lift]
  refine ⟨fun a v hv => ?_, fun e v hv => ?_⟩ <;> obtain ⟨hx, rfl⟩ := Prod.mk.inj hv
  · exact ⟨hu.strategy, (h _ hT).ok (Prod.ext hx rfl) hu.holding⟩
  · exact hE _ hu.strategy ((h _ hT).error (Prod.ext hx rfl) hu.holding)

theorem lift_leads {x : DriverM α} {held' : List Statement} {after : α → List Statement}
    (h : ∀ tr, Leads (Holding H tr held) x (fun a => Holding H tr (after a))
      (Holding H tr held')) :
    Leads (Keeps H st held) (liftM x : SessionM α) (fun a => Keeps H st (after a))
      (Keeps H st held') :=
  (lift_leads_of (T := fun _ => True) (fun tr _ => h tr) fun _ hst hold => ⟨hst, hold⟩).weaken_pre
    fun _ hu => ⟨hu, trivial⟩

theorem lift_quiet {x : DriverM α} {held' : List Statement} (E : Scope → Prop)
    (h : ∀ tr, Leads (Holding H tr held) x (fun _ => Holding H tr held') fun _ => False) :
    Leads (Keeps H st held) (liftM x : SessionM α) (fun _ => Keeps H st held') E :=
  (lift_leads_of (T := fun _ => True) (fun tr _ => h tr) fun _ _ hf => hf.elim).weaken_pre
    fun _ hu => ⟨hu, trivial⟩

theorem lift_inHand {x : DriverM α} {V : α → Prop}
    (h : ∀ tr, Maintains (Holding H tr held) x V) :
    Maintains (Keeps H st held) (liftM x : SessionM α) V := by
  intro u hu
  obtain ⟨hold, hV⟩ := h u.session.transaction u.database hu.holding
  exact ⟨⟨hu.strategy, hold⟩, hV⟩

theorem closeQuietly_inHand (hH : Custody H) (s : Statement) (held : List Statement)
    (E : Scope → Prop) :
    Leads (Keeps H st (s :: held)) (liftM s.closeQuietly : SessionM Unit)
      (fun _ => Keeps H st held) E :=
  lift_quiet E fun _ => s.closeQuietly_holding hH held _

theorem maintains_of_same {x : SessionM α} (h : ∀ u, (x.outcome u).2.session = u.session ∧
    (x.outcome u).2.database = u.database) : Maintains (Keeps H st held) x fun _ => True := by
  intro u hu
  obtain ⟨hs, hd⟩ := h u
  refine ⟨⟨?_, ?_⟩, fun _ _ => trivial⟩
  · rw [hs]
    exact hu.strategy
  · rw [hs, hd]
    exact hu.holding

theorem session_inHand : Maintains (Keeps H st held) session fun _ => True :=
  maintains_of_same fun _ => ⟨rfl, rfl⟩

theorem parameter_inHand : Maintains (Keeps H st held) parameter fun _ => True :=
  maintains_of_same fun _ => ⟨rfl, rfl⟩

theorem onParameter_inHand (x : Fallible Parameter α) :
    Maintains (Keeps H st held) (onParameter x) fun _ => True :=
  maintains_of_same fun _ => ⟨rfl, rfl⟩

theorem ending_inHand (r : Except Error α) :
    Maintains (Keeps H st held) (ending r) fun _ => True := .ending fun _ _ => trivial

theorem invocation_inHand (command : Command) (bounds : RowBounds) :
    Maintains (Keeps H st held) (invocation command bounds) fun _ => True :=
  maintains_of_same fun _ => ⟨rfl, rfl⟩

theorem withParameter_inHand (p : Parameter) {x : SessionM α} {V : α → Prop}
    (h : Maintains (Keeps H st held) x V) :
    Maintains (Keeps H st held) (withParameter p x) fun r => V r.1 := by
  intro u hu
  obtain ⟨hk, hV⟩ := h { u with parameter := p } ⟨hu.strategy, hu.holding⟩
  rw [withParameter_outcome]
  refine ⟨⟨hk.strategy, hk.holding⟩, fun r hr => ?_⟩
  rcases hx : (x.outcome { u with parameter := p }).1 with e | a <;> rw [hx] at hr hV <;> cases hr
  exact hV a rfl

theorem session_bind_leads {P E : Scope → Prop} {Q : α → Scope → Prop} {f : Session → SessionM α}
    (h : ∀ w : Session, Leads (fun u => P u ∧ u.session = w) (f w) Q E) :
    Leads P (session >>= f) Q E := by
  intro u hu
  rw [outcome_session_bind]
  exact h u.session u ⟨hu, rfl⟩

theorem parameter_bind_leads {P E : Scope → Prop} {Q : α → Scope → Prop}
    {f : Parameter → SessionM α} (h : ∀ p, Leads P (f p) Q E) : Leads P (parameter >>= f) Q E := by
  intro u hu
  rw [outcome_parameter_bind]
  exact h u.parameter u hu

theorem connection_inHand (hH : Custody H) :
    Leads (Keeps H st held) connection
      (fun c u => Keeps H st held u ∧ u.session.transaction.connection? = some c)
      (Keeps H st held) := by
  refine session_bind_leads fun w => ?_
  have hacquire : Leads (fun u => Keeps H st held u ∧ u.session = w)
      (liftM w.transaction.acquire : SessionM (Connection × Transaction))
      (fun r u => u.session.strategy = st ∧ Holding H r.2 held u.database ∧
        r.2.connection? = some r.1) (Keeps H st held) := by
    rintro u ⟨hu, rfl⟩
    have hleads := u.session.transaction.acquire_holding hH held
    rw [outcome_lift]
    refine ⟨fun r v hv => ?_, fun e v hv => ?_⟩ <;> obtain ⟨hx, rfl⟩ := Prod.mk.inj hv
    · exact ⟨hu.strategy, hleads.ok (Prod.ext hx rfl) hu.holding⟩
    · exact ⟨hu.strategy, hleads.error (Prod.ext hx rfl) hu.holding⟩
  refine hacquire.bind fun r => ?_
  exact (Leads.change fun u hu => ⟨⟨hu.1, hu.2.1⟩, hu.2.2⟩).bind fun _ => .pure fun _ h => h

end SessionM

namespace Reading

theorem window_inHand (hH : Custody H) (hs : s ∈ held) (read : Row → Except Error Value)
    (bounds : RowBounds) (handler : Option RowHandler) :
    Maintains (Keeps H st held) (window s read bounds handler) fun _ => True := by
  intro u hu
  have hwindow : Maintains (fun v => v.session = u.session ∧
      Holding H u.session.transaction held v.database) (window s read bounds handler)
      fun _ => True :=
    window_maintains (s.nextRow_holding hH hs) (fun _ hv => hv.2) (fun _ _ hv hdb => ⟨hv.1, hdb⟩)
      (fun _ _ hv => hv) read bounds handler
  obtain ⟨⟨hsame, hold⟩, -⟩ := hwindow u ⟨rfl, hu.holding⟩
  refine ⟨⟨?_, ?_⟩, fun _ _ => trivial⟩ <;> rw [hsame]
  · exact hu.strategy
  · exact hold

end Reading

namespace Invocation

variable {settings : Settings} {i : Invocation}

theorem applySettings_holding (hH : Custody H) (hs : s ∈ held) (timeout : Option Nat) :
    Maintains (Holding H tr held) (i.applySettings settings timeout s) fun _ => True := by
  unfold applySettings
  dsimp only
  split
  · refine (s.setTimeout_holding hH hs _).bind fun _ _ => ?_
    split
    · exact s.setFetchSize_holding hH hs _
    · exact .pure trivial
  · split
    · exact s.setFetchSize_holding hH hs _
    · exact .pure trivial

theorem parameterize_holding (hH : Custody H) (hs : s ∈ held) (p : Parameter) :
    Maintains (Holding H tr held) (i.parameterize p s) fun _ => True := by
  refine (Maintains.forM fun c _ => s.registerOut_holding hH hs c.1).bind fun _ _ =>
    .forM fun c _ => ?_
  exact (Maintains.ending (V := fun _ => True) fun _ _ => trivial).bind fun value _ =>
    s.bind_holding hH hs c.1 value

theorem prepare_holding (hH : Custody H) {c : Connection} (hc : tr.connection? = some c)
    (timeout : Option Nat) :
    Leads (Holding H tr held) (i.prepare settings timeout c) (fun s => Holding H tr (s :: held))
      (Holding H tr held) :=
  (c.prepare_holding hH hc held i.form).bind fun s =>
    ((applySettings_holding hH List.mem_cons_self timeout).leads.orUndo
      (s.closeQuietly_holding hH held _)).bind fun _ => .pure fun _ h => h

theorem prepare_inHand (hH : Custody H) (c : Connection) (timeout : Option Nat) :
    Leads (fun u => Keeps H st held u ∧ u.session.transaction.connection? = some c)
      (liftM (i.prepare settings timeout c) : SessionM Statement)
      (fun s => Keeps H st (s :: held)) (Keeps H st held) :=
  SessionM.lift_leads_of (fun _ hc => prepare_holding hH hc timeout) fun _ hst hold => ⟨hst, hold⟩

theorem parameterize_inHand (hH : Custody H) (hs : s ∈ held) (p : Parameter) :
    Maintains (Keeps H st held) (liftM (i.parameterize p s) : SessionM Unit) fun _ => True :=
  SessionM.lift_inHand fun _ => parameterize_holding hH hs p

theorem execute_inHand (hH : Custody H) (hs : s ∈ held) :
    Maintains (Keeps H st held) (liftM (i.execute s) : SessionM Unit) fun _ => True :=
  SessionM.lift_inHand fun _ => (s.execute_holding hH hs i.text).discard

theorem addBatch_inHand (hH : Custody H) (hs : s ∈ held) :
    Maintains (Keeps H st held) (liftM (i.addBatch s) : SessionM Unit) fun _ => True :=
  SessionM.lift_inHand fun _ => s.addBatch_holding hH hs i.text

theorem takeOutputs_inHand (hH : Custody H) (hs : s ∈ held) :
    Maintains (Keeps H st held) (i.takeOutputs s) fun _ => True :=
  .forM fun c _ => (SessionM.lift_inHand fun _ => s.outParameter_holding hH hs c.1).bind
    fun value _ => SessionM.onParameter_inHand (Parameter.write c.2 value)

theorem orClose_inHand (hH : Custody H) {x : DriverM Unit}
    (h : ∀ tr, Maintains (Holding H tr (s :: held)) x fun _ => True) :
    Leads (Keeps H st (s :: held)) (liftM (x.orUndo s.closeQuietly) : SessionM Unit)
      (fun _ => Keeps H st (s :: held)) (Keeps H st held) :=
  SessionM.lift_leads fun tr => (h tr).leads.orUndo (s.closeQuietly_holding hH held _)

theorem freshStatement_inHand (hH : Custody H) :
    Leads (Keeps H st held) (i.freshStatement settings) (fun s => Keeps H st (s :: held))
      (Keeps H st held) := by
  refine SessionM.session_inHand.leads.bind fun t => (SessionM.connection_inHand hH).bind fun c =>
    (prepare_inHand hH c _).bind fun s => SessionM.parameter_bind_leads fun p => ?_
  exact (orClose_inHand hH fun _ => parameterize_holding hH List.mem_cons_self p).bind
    fun _ => .pure fun _ h => h

theorem query_inHand (hH : Custody H) (hs : s ∈ held) (mapper : RowMapper)
    (handler : Option RowHandler) :
    Maintains (Keeps H st held) (i.query mapper s handler) fun _ => True :=
  (execute_inHand hH hs).bind fun _ _ => (Reading.window_inHand hH hs _ i.bounds handler).bind
    fun _ _ => (takeOutputs_inHand hH hs).bind fun _ _ => .pure trivial

end Invocation

theorem SessionM.thenClose_inHand (hH : Custody H) {x : SessionM α}
    (h : Maintains (Keeps H st (s :: held)) x fun _ => True) :
    Leads (Keeps H st (s :: held)) (x.thenAlways (liftM s.closeQuietly))
      (fun _ => Keeps H st held) (Keeps H st held) :=
  h.leads.thenAlways (fun _ => closeQuietly_inHand hH s held _) (closeQuietly_inHand hH s held _)

namespace Keys

variable (config : Configuration)

theorem run_inHand (hH : Custody H) (id : String) :
    Maintains (Keeps H st held) (run config id) fun _ => True := by
  refine (SessionM.ending_inHand (config.registry.get id)).bind fun command _ =>
    SessionM.parameter_inHand.bind fun p _ =>
      (SessionM.ending_inHand (Invocation.of command p .all)).bind fun i _ => ?_
  refine Leads.maintains ((Invocation.freshStatement_inHand hH).bind fun s => ?_)
  have hquery : Maintains (Keeps H st (s :: held)) (i.query config.mapper s none) fun _ => True :=
    i.query_inHand hH List.mem_cons_self config.mapper none
  exact (SessionM.thenClose_inHand hH (SessionM.withParameter_inHand p hquery)).bind fun _ =>
    .pure fun _ h => h

theorem select_inHand (hH : Custody H) (id property : String) :
    Maintains (Keeps H st held) (select config id property) fun _ => True := by
  refine (run_inHand config hH id).bind fun keys _ => ?_
  split
  · exact .throw _
  · exact SessionM.onParameter_inHand _
  · exact .throw _

theorem before_inHand (hH : Custody H) (command : Command) :
    Maintains (Keeps H st held) (before config command) fun _ => True := by
  unfold before
  split
  · exact select_inHand config hH _ _
  · exact .pure trivial

theorem generatedKeys_inHand (hH : Custody H) (hs : s ∈ held) :
    Maintains (Keeps H st held) (liftM s.generatedKeys : SessionM (List Row)) fun _ => True :=
  SessionM.lift_inHand fun _ => s.generatedKeys_holding hH hs

theorem after_inHand (hH : Custody H) (hs : s ∈ held) (command : Command) :
    Maintains (Keeps H st held) (after config command s) fun _ => True := by
  unfold after
  split
  · refine (generatedKeys_inHand hH hs).bind fun rows _ => ?_
    cases rows with
    | nil => exact .pure trivial
    | cons row rows => exact SessionM.onParameter_inHand _
  · exact select_inHand config hH _ _
  · exact .pure trivial

theorem afterBatch_inHand (hH : Custody H) (hs : s ∈ held) (command : Command)
    (parameters : List Parameter) (counts : List Int) :
    Maintains (Keeps H st held) (afterBatch config command s parameters counts) fun _ => True := by
  unfold afterBatch
  split
  · refine (generatedKeys_inHand hH hs).bind fun rows _ => ?_
    exact (SessionM.ending_inHand _).bind fun _ _ => .pure trivial
  · exact (Maintains.mapM (V := fun _ => True) fun p _ =>
      (SessionM.withParameter_inHand p (select_inHand config hH _ _)).bind
        fun _ _ => .pure trivial).forget
  · exact .pure trivial

end Keys

structure Cursor.Owns (c : Cursor) (s : Statement) : Prop where
  statement : c.statement = some s
  isOpen : c.state = .isOpen

namespace SessionM

variable (config : Configuration)

theorem updateCount_holding (s : Statement) :
    Maintains (Holding H tr held) s.updateCount fun _ => True :=
  fun _ h => ⟨h, fun _ _ => trivial⟩

theorem execute_inHand (hH : Custody H) (hs : s ∈ held) (i : Invocation) :
    Maintains (Keeps H st held) (execute config i s) fun _ => True :=
  (Invocation.execute_inHand hH hs).bind fun _ _ =>
    (lift_inHand fun _ => updateCount_holding s).bind fun _ _ =>
      (Invocation.takeOutputs_inHand hH hs).bind fun _ _ =>
        (Keys.after_inHand config hH hs i.command).bind fun _ _ => .pure trivial

theorem freshQuery_inHand (hH : Custody H) (command : Command) (bounds : RowBounds)
    (handler : Option RowHandler) :
    Maintains (Keeps H st held) (freshQuery config command bounds handler) fun _ => True := by
  refine (invocation_inHand command bounds).bind fun i _ => ?_
  exact ((Invocation.freshStatement_inHand hH).bind fun s => thenClose_inHand hH
    (Invocation.query_inHand hH List.mem_cons_self config.mapper handler)).maintains

theorem freshCursor_inHand (hH : Custody H) (command : Command) (bounds : RowBounds) :
    Leads (Keeps H st held) (freshCursor config command bounds)
      (fun c u => ∃ s, c.Owns s ∧ Keeps H st (s :: held) u) (Keeps H st held) := by
  refine (invocation_inHand command bounds).leads.bind fun i =>
    (Invocation.freshStatement_inHand hH).bind fun s => ?_
  refine (Invocation.orClose_inHand hH fun _ => ?_).bind fun _ => .pure fun u h => ⟨s, ⟨rfl, rfl⟩, h⟩
  exact (s.execute_holding hH List.mem_cons_self i.text).discard

end SessionM

end SqlMapper
