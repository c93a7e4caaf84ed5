import SqlMapper.Proofs.Batch.Results
import SqlMapper.Proofs.Session.Blind
import SqlMapper.Proofs.Session.Custody
import SqlMapper.Proofs.Session.Invoking

namespace SqlMapper

open Fallible

/-- In a session of the given type whose transaction has the given timeout, `K` is said of what is
kept and of the database between two runs. `A` is said of a statement once it has the settings of an
invocation, and `R` once it has the values too. The runs are those in `D`, and those that are queued
are in `B`. -/
structure Attending (config : Configuration) (type : ExecutorType) (timeout : Option Nat)
    (D B : Invocation → Parameter → Prop) (K : Strategy → Database → Prop)
    (A : Invocation → Statement → Strategy → Database → Prop)
    (R : Invocation → Parameter → Statement → Strategy → Database → Prop) : Prop where
  idle {st : Strategy} {db db' : Database} (hdb : db.Idles db') (h : K st db) : K st db'
  created {st : Strategy} {i : Invocation} {p : Parameter} (hst : st.executorType = type)
    (hi : D i p) (c : Connection) :
    Leads (K st) (i.prepare config.settings timeout c) (fun s => A i s st) (K st)
  again {m : NameMap Statement} {i : Invocation} {p : Parameter} {s : Statement}
    (htype : type = .reuse) (hi : D i p) (hs : m.get? i.bound.sql = some s) :
    Leads (K (.reuse m)) (i.applySettings config.settings timeout s) (fun _ => A i s (.reuse m))
      (K (.reuse m))
  kept {m : NameMap Statement} {i : Invocation} {s : Statement} {db : Database}
    (h : A i s (.reuse m) db) : A i s (.reuse (m.insert i.bound.sql s)) db
  dropped {m : NameMap Statement} {sql : String} {db : Database} (h : K (.reuse m) db) :
    K (.reuse (m.erase sql)) db
  given {st : Strategy} {i : Invocation} {p : Parameter} {s : Statement} (hi : D i p) :
    Leads (A i s st) (i.parameterize p s) (fun _ => R i p s st) (K st)
  executed {st : Strategy} {i : Invocation} {p : Parameter} {s : Statement} :
    Leads (R i p s st) (i.execute s) (fun _ => K st) (K st)
  joined {init : List QueuedStatement} {last : QueuedStatement} {i : Invocation} {p : Parameter}
    (htype : type = .batch) (hi : D i p) (hb : B i p)
    (hj : last.command.id = i.command.id ∧ last.sql = i.bound.sql) :
    Leads (K (.batch (init ++ [last])))
      (do
        i.parameterize p last.statement
        i.addBatch last.statement)
      (fun _ => K (.batch (init ++ [Batch.addParameter last p]))) (K (.batch (init ++ [last])))
  queued {queue : List QueuedStatement} {i : Invocation} {p : Parameter} {s : Statement}
    (htype : type = .batch) (hb : B i p) :
    Leads (R i p s (.batch queue)) (i.addBatch s)
      (fun _ => K (.batch (queue ++ [⟨s, i.command, i.bound.sql, [p]⟩]))) (K (.batch queue))
  sent {queue : List QueuedStatement} {s : Statement} (htype : type = .batch) :
    Maintains (K (.batch queue)) s.executeBatch fun _ => True
  emptied {st : Strategy} {db : Database} (h : K st db) : K (.ofType type) db

/-- The session is of the given type and keeps `st`, its transaction has the given timeout, the
caller's parameter object is `p`, and the database has `J`. -/
structure Scope.At (type : ExecutorType) (timeout : Option Nat) (p : Parameter) (st : Strategy)
    (J : Database → Prop) (u : Scope) : Prop where
  type : st.executorType = type
  timeout : u.session.transaction.timeout = timeout
  parameter : u.parameter = p
  strategy : u.session.strategy = st
  database : J u.database

structure Scope.Rests (type : ExecutorType) (timeout : Option Nat)
    (K : Strategy → Database → Prop) (u : Scope) : Prop where
  type : u.session.strategy.executorType = type
  timeout : u.session.transaction.timeout = timeout
  kept : K u.session.strategy u.database

open Scope

variable {α : Type} {V W : α → Prop} {config : Configuration} {type : ExecutorType}
  {timeout : Option Nat} {D B : Invocation → Parameter → Prop} {K : Strategy → Database → Prop}
  {A : Invocation → Statement → Strategy → Database → Prop}
  {R : Invocation → Parameter → Statement → Strategy → Database → Prop} {i : Invocation}
  {p : Parameter} {s : Statement} {st : Strategy} {u : Scope}

theorem Scope.At.rests (h : u.At type timeout p st (K st)) : u.Rests type timeout K := by
  refine ⟨?_, h.timeout, ?_⟩
  · rw [h.strategy, h.type]
  · rw [h.strategy]
    exact h.database

theorem Scope.Rests.at (h : u.Rests type timeout K) :
    u.At type timeout u.parameter u.session.strategy (K u.session.strategy) :=
  ⟨h.type, h.timeout, rfl, rfl, h.kept⟩

theorem Scope.Rests.blind : Blind (Rests type timeout K) := by
  refine ⟨fun h ht hs hd => ⟨?_, ?_, ?_⟩⟩
  · rw [hs, h.type]
  · rw [ht, h.timeout]
  · rw [hs, hd]
    exact h.kept

namespace SessionM

theorem lift_at {J F : Database → Prop} {G : α → Database → Prop} {x : DriverM α}
    (h : Leads J x G F) :
    Leads (At type timeout p st J) (liftM x : SessionM α) (fun a => At type timeout p st (G a))
      (At type timeout p st F) := by
  intro u hu
  rw [outcome_lift]
  refine ⟨fun a v hv => ?_, fun e v hv => ?_⟩ <;> obtain ⟨hx, rfl⟩ := Prod.mk.inj hv
  · exact ⟨hu.type, hu.timeout, hu.parameter, hu.strategy, h.ok (Prod.ext hx rfl) hu.database⟩
  · exact ⟨hu.type, hu.timeout, hu.parameter, hu.strategy, h.error (Prod.ext hx rfl) hu.database⟩

theorem lift_bind {β : Type} (x : DriverM α) (f : α → DriverM β) :
    (liftM (x >>= f) : SessionM β) = (liftM x : SessionM α) >>= fun a => liftM (f a) := by
  funext u
  change (liftM (x >>= f) : SessionM β).outcome u = _
  have h := outcome_lift_bind (s := u) x fun a => (liftM (f a) : SessionM β)
  rw [outcome_lift, outcome_bind]
  refine Eq.trans ?_ h.symm
  rcases x.outcome u.database with ⟨e | a, db⟩ <;> rfl

theorem at_leads {x : SessionM α} {Q : α → Scope → Prop} {E : Scope → Prop}
    (h : ∀ st, Leads (At type timeout p st (K st)) x Q E) :
    Leads (fun u => Rests type timeout K u ∧ u.parameter = p) x Q E := by
  rintro u ⟨hu, rfl⟩
  exact h _ u hu.at

theorem session_bind_at {J : Database → Prop} {f : Session → SessionM α} {Q : α → Scope → Prop}
    {E : Scope → Prop} (h : ∀ w : Session, st.executorType = type → w.strategy = st →
      w.transaction.timeout = timeout → Leads (At type timeout p st J) (f w) Q E) :
    Leads (At type timeout p st J) (session >>= f) Q E := by
  intro u hu
  rw [outcome_session_bind]
  exact h u.session hu.type hu.strategy hu.timeout u hu

theorem parameter_bind_at {P E : Scope → Prop} {Q : α → Scope → Prop}
    {f : Parameter → SessionM α} (hp : ∀ u, P u → u.parameter = p) (h : Leads P (f p) Q E) :
    Leads P (parameter >>= f) Q E := by
  intro u hu
  rw [outcome_parameter_bind, hp u hu]
  exact h u hu

theorem invocation_leads {command : Command} {bounds : RowBounds} {P E : Scope → Prop} {Q : α → Scope → Prop}
    {f : Invocation → SessionM α} (hp : ∀ u, P u → u.parameter = p) (hE : ∀ u, P u → E u)
    (h : ∀ i, Invocation.of command p bounds = .ok i → Leads P (f i) Q E) :
    Leads P (invocation command bounds >>= f) Q E := by
  rw [invocation, bind_assoc]
  exact parameter_bind_at hp ((Maintains.ending fun _ hi => hi).bind_leads hE h)

variable (hS : Attending config type timeout D B K A R)
include hS

theorem rests_of_idles {x : SessionM α} (h : ∀ u₀ : Scope, Maintains u₀.Idles x V) :
    Maintains (Rests type timeout K) x V := by
  intro u hu
  obtain ⟨hidle, hV⟩ := h u u (.refl u)
  refine ⟨⟨?_, hidle.timeout.trans hu.timeout, ?_⟩, hV⟩
  · rw [hidle.strategy, hu.type]
  · rw [hidle.strategy]
    exact hS.idle hidle.database hu.kept

theorem at_of_idles {x : SessionM α} (h : ∀ u₀ : Scope, Maintains u₀.Idles x V)
    (hp : Maintains (fun u => u.parameter = p) x W) :
    Maintains (At type timeout p st (K st)) x V := by
  intro u hu
  obtain ⟨hidle, hV⟩ := h u u (.refl u)
  exact ⟨⟨hu.type, hidle.timeout.trans hu.timeout, (hp u hu.parameter).1,
    hidle.strategy.trans hu.strategy, hS.idle hidle.database hu.database⟩, hV⟩

theorem closeQuietly_rests (s : Statement) :
    Maintains (Rests type timeout K) (liftM s.closeQuietly : SessionM Unit) fun _ => True :=
  rests_of_idles hS fun _ => lift_idles s.closeQuietly_idles

end SessionM

section Attending

variable (hS : Attending config type timeout D B K A R)
include hS

namespace Invocation

theorem closeQuietly_leads (s : Statement) :
    Leads (K st) s.closeQuietly (fun _ => K st) (K st) :=
  (Maintains.of_idles (fun _ => s.closeQuietly_idles) hS.idle).leads

theorem freshStatement_at (hi : D i p) :
    Leads (At type timeout p st (K st)) (i.freshStatement config.settings)
      (fun s => At type timeout p st (R i p s st)) (At type timeout p st (K st)) := by
  unfold freshStatement
  refine SessionM.session_bind_at fun w htype _ ht => ?_
  have hconnection : Maintains (At type timeout p st (K st)) SessionM.connection fun _ => True :=
    SessionM.at_of_idles hS (fun _ => SessionM.connection_idles) (SessionM.connection_parameter p)
  rw [ht]
  refine hconnection.leads.bind fun c => (SessionM.lift_at (hS.created htype hi c)).bind fun s =>
    SessionM.parameter_bind_at (fun _ h => h.parameter) ?_
  exact (SessionM.lift_at ((hS.given hi).orUndo (closeQuietly_leads hS s))).bind fun _ =>
    .pure fun _ h => h

theorem query_at (mapper : RowMapper) (handler : Option RowHandler) :
    Leads (At type timeout p st (R i p s st)) (i.query mapper s handler)
      (fun _ => Rests type timeout K) (Rests type timeout K) := by
  have hexecute : Leads (At type timeout p st (R i p s st)) (liftM (i.execute s) : SessionM Unit)
      (fun _ => Rests type timeout K) (Rests type timeout K) :=
    (SessionM.lift_at hS.executed).weaken (fun _ h => h) (fun _ _ h => h.rests) fun _ h => h.rests
  exact hexecute.bind fun _ =>
    (SessionM.rests_of_idles hS fun _ => i.results_idles _ s handler).leads

theorem takeOutputs_rests :
    Leads (fun u => Rests type timeout K u ∧ u.parameter = p) (i.takeOutputs s)
      (fun _ u => Rests type timeout K u ∧
        Parameter.Written (i.outputs.map Prod.snd) p u.parameter) (Rests type timeout K) := by
  rintro u ⟨hu, rfl⟩
  have hrests := SessionM.rests_of_idles hS fun _ => i.takeOutputs_idles s
  exact ⟨fun _ v hv => ⟨kept hv hrests hu, takeOutputs_written hv⟩, fun _ v hv => kept hv hrests hu⟩

end Invocation

namespace Keys

theorem run_rests {id : String} (hD : ∀ i, Selects config id p i → D i p) :
    Leads (fun u => Rests type timeout K u ∧ u.parameter = p) (run config id)
      (fun _ => Rests type timeout K) (Rests type timeout K) := by
  refine (Maintains.ending fun _ => Registry.find?_of_get).bind_leads (fun _ h => h.1) fun command hc =>
    SessionM.parameter_bind_at (fun _ h => h.2)
      ((Maintains.ending (V := fun i => D i p) fun i hi => hD i ⟨command, hc, hi⟩).bind_leads
        (fun _ h => h.1) fun i hi => ?_)
  refine SessionM.at_leads fun st => ((Invocation.freshStatement_at hS hi).weaken_error
    fun _ h => h.rests).bind fun s => ?_
  have hquery : Leads (At type timeout p st (R i p s st))
      (SessionM.withParameter p (i.query config.mapper s none))
      (fun _ => Rests type timeout K) (Rests type timeout K) :=
    SessionM.withParameter_leads (fun _ h => ⟨h.type, h.timeout, rfl, h.strategy, h.database⟩)
      (fun _ => Rests.blind) Rests.blind (Invocation.query_at hS config.mapper none)
  have hclose := (SessionM.closeQuietly_rests hS s).leads
  exact (hquery.thenAlways (fun _ => hclose) hclose).bind fun _ => .pure fun _ h => h

theorem select_rests {id property : String} (hD : ∀ i, Selects config id p i → D i p) :
    Leads (fun u => Rests type timeout K u ∧ u.parameter = p) (select config id property)
      (fun _ => Rests type timeout K) (Rests type timeout K) := by
  refine (run_rests hS hD).bind fun keys => ?_
  split
  · exact .throw fun _ h => h
  · exact (SessionM.maintains_of_blind Rests.blind fun _ => ⟨rfl, rfl, rfl⟩).leads
  · exact .throw fun _ h => h

theorem before_rests {command : Command} (hD : ∀ id property i,
      command.keys = .selectKey id property true → Selects config id p i → D i p) :
    Leads (fun u => Rests type timeout K u ∧ u.parameter = p) (before config command)
      (fun _ => Rests type timeout K) (Rests type timeout K) := by
  unfold before
  split
  · next id property hk => exact select_rests hS fun i hi => hD id property i hk hi
  · exact .pure fun _ h => h.1

theorem after_rests {command : Command} (hD : ∀ id property i,
      command.keys = .selectKey id property false → Selects config id p i → D i p) :
    Leads (fun u => Rests type timeout K u ∧ u.parameter = p) (after config command s)
      (fun _ => Rests type timeout K) (Rests type timeout K) := by
  unfold after
  split
  · have hkeys : Maintains (Rests type timeout K)
        (liftM s.generatedKeys : SessionM (List Row)) fun _ => True :=
      SessionM.rests_of_idles hS fun _ => SessionM.lift_idles s.generatedKeys_idles
    refine Leads.weaken_pre (hkeys.leads.bind fun rows => ?_) fun _ h => h.1
    cases rows with
    | nil => exact .pure fun _ h => h
    | cons row rows =>
      exact (SessionM.maintains_of_blind Rests.blind fun _ => ⟨rfl, rfl, rfl⟩).leads
  · next id property hk => exact select_rests hS fun i hi => hD id property i hk hi
  · exact .pure fun _ h => h.1

theorem afterBatch_rests {command : Command} {parameters : List Parameter} {counts : List Int}
    (hD : ∀ id property q i, command.keys = .selectKey id property false → q ∈ parameters →
      Selects config id q i → D i q) :
    Maintains (Rests type timeout K) (afterBatch config command s parameters counts)
      fun _ => True := by
  unfold afterBatch
  split
  · refine (SessionM.rests_of_idles hS fun _ =>
      SessionM.lift_idles s.generatedKeys_idles).bind fun rows _ => ?_
    exact (Maintains.ending (V := fun _ => True) fun _ _ => trivial).bind fun _ _ => .pure trivial
  · next id property hk =>
    refine (Maintains.mapM (V := fun _ => True) fun q hq => Leads.maintains ?_).forget
    have hselect : Leads (Rests type timeout K)
        (SessionM.withParameter q (select config id property)) (fun _ => Rests type timeout K)
        (Rests type timeout K) :=
      SessionM.withParameter_leads (fun _ hu => ⟨Rests.blind.same hu rfl rfl rfl, rfl⟩)
        (fun _ => Rests.blind) Rests.blind
        (select_rests hS fun i hi => hD id property q i hk hq hi)
    exact hselect.bind fun _ => .pure fun _ h => h
  · exact .pure trivial

end Keys

namespace Reuse

variable {m : NameMap Statement}

theorem parameterize_at (hi : D i p) (s : Statement) :
    Leads (At type timeout p (.reuse m) (A i s (.reuse m)))
      (liftM (i.parameterize p s) : SessionM Unit)
      (fun _ u => ∃ m', At type timeout p (.reuse m') (R i p s (.reuse m')) u)
      (Rests type timeout K) :=
  (SessionM.lift_at (hS.given hi)).weaken (fun _ h => h) (fun _ _ h => ⟨m, h⟩) fun _ h => h.rests

theorem create_at (hi : D i p) :
    Leads (At type timeout p (.reuse m) (K (.reuse m))) (create config.settings m i)
      (fun s u => ∃ m', At type timeout p (.reuse m') (R i p s (.reuse m')) u)
      (Rests type timeout K) := by
  refine SessionM.session_bind_at fun w htype _ ht => ?_
  rw [ht]
  refine SessionM.parameter_bind_at (fun _ h => h.parameter) ?_
  have hconnection : Maintains (At type timeout p (.reuse m) (K (.reuse m))) SessionM.connection
      fun _ => True :=
    SessionM.at_of_idles hS (fun _ => SessionM.connection_idles) (SessionM.connection_parameter p)
  have hset : ∀ s, Leads (At type timeout p (.reuse m) (A i s (.reuse m)))
      (setStatements (m.insert i.bound.sql s))
      (fun _ => At type timeout p (.reuse (m.insert i.bound.sql s))
        (A i s (.reuse (m.insert i.bound.sql s)))) (Rests type timeout K) := fun s =>
    .change fun u h => ⟨h.type, h.timeout, h.parameter, rfl, hS.kept h.database⟩
  refine (hconnection.leads.weaken_error fun _ h => h.rests).bind fun c => ?_
  exact ((SessionM.lift_at (hS.created htype hi c)).weaken_error fun _ h => h.rests).bind
    fun s => (hset s).bind fun _ => (parameterize_at hS hi s).bind fun _ => .pure fun _ h => h

theorem renew_at (hi : D i p) (hget : m.get? i.bound.sql = some s) :
    Leads (At type timeout p (.reuse m) (K (.reuse m))) (renew config.settings i s)
      (fun s u => ∃ m', At type timeout p (.reuse m') (R i p s (.reuse m')) u)
      (Rests type timeout K) := by
  refine SessionM.session_bind_at fun w htype _ ht => ?_
  rw [ht]
  refine SessionM.parameter_bind_at (fun _ h => h.parameter) ?_
  exact ((SessionM.lift_at (hS.again htype.symm hi hget)).weaken_error fun _ h =>
    h.rests).bind fun _ => (parameterize_at hS hi s).bind fun _ => .pure fun _ h => h

theorem statement_at (hi : D i p) :
    Leads (At type timeout p (.reuse m) (K (.reuse m))) (statement config.settings m i)
      (fun s u => ∃ m', At type timeout p (.reuse m') (R i p s (.reuse m')) u)
      (Rests type timeout K) := by
  have hread : ∀ s : Statement, Maintains (At type timeout p (.reuse m) (K (.reuse m)))
      (liftM s.isClosed : SessionM Bool) fun _ => True := fun s _ h => ⟨h, fun _ _ => trivial⟩
  have hdrop : Leads (At type timeout p (.reuse m) (K (.reuse m)))
      (setStatements (m.erase i.bound.sql))
      (fun _ => At type timeout p (.reuse (m.erase i.bound.sql))
        (K (.reuse (m.erase i.bound.sql)))) (Rests type timeout K) :=
    .change fun u h => ⟨h.type, h.timeout, h.parameter, rfl, hS.dropped h.database⟩
  unfold statement
  split
  · next s hget =>
    refine ((hread s).leads.weaken_error fun _ h => h.rests).bind fun closed => ?_
    split
    · exact hdrop.bind fun _ => create_at hS hi
    · exact renew_at hS hi hget
  · exact create_at hS hi

theorem closeAll_rests :
    Leads (At type timeout p (.reuse m) (K (.reuse m))) (closeAll m)
      (fun _ => Rests type timeout K) (Rests type timeout K) := by
  have hset : Leads (At type timeout p (.reuse m) (K (.reuse m))) (setStatements [])
      (fun _ => Rests type timeout K) (Rests type timeout K) := by
    refine .change fun u h => ⟨h.type, h.timeout, ?_⟩
    have hempty := hS.emptied h.database
    rwa [← h.type] at hempty
  have hclose : ∀ u₀ : Scope, Maintains u₀.Idles
      (liftM (m.forM fun e => e.2.closeQuietly : DriverM Unit) : SessionM Unit) fun _ => True :=
    fun _ => SessionM.lift_idles (.forM fun e _ => e.2.closeQuietly_idles)
  exact hset.bind fun _ => (SessionM.rests_of_idles hS hclose).leads

end Reuse

namespace Batch

variable {queue : List QueuedStatement}

theorem enqueue_rests (hi : D i p) (hb : B i p) :
    Leads (At type timeout p (.batch queue) (K (.batch queue))) (enqueue config.settings queue i)
      (fun _ => Rests type timeout K) (Rests type timeout K) := by
  have hset : ∀ queue', Leads (At type timeout p (.batch queue) (K (.batch queue')))
      (setQueue queue') (fun _ => Rests type timeout K) (Rests type timeout K) := fun queue' =>
    .change fun u h => ⟨h.type, h.timeout, h.database⟩
  unfold enqueue
  refine SessionM.parameter_bind_at (fun _ h => h.parameter) ?_
  split
  · next last hfind =>
    obtain ⟨hlast, hjoins⟩ := Option.filter_eq_some_iff.mp hfind
    obtain ⟨init, rfl⟩ := List.getLast?_eq_some_iff.mp hlast
    rw [List.dropLast_concat]
    intro u hu
    have hjoin : Leads (At type timeout p (.batch (init ++ [last])) (K (.batch (init ++ [last]))))
        (liftM (do
          i.parameterize p last.statement
          i.addBatch last.statement : DriverM Unit) : SessionM Unit)
        (fun _ => At type timeout p (.batch (init ++ [last]))
          (K (.batch (init ++ [addParameter last p])))) (Rests type timeout K) :=
      (SessionM.lift_at (hS.joined hu.type.symm hi hb (of_decide_eq_true hjoins))).weaken_error
        fun _ h => h.rests
    have hleads := hjoin.bind fun _ => hset (init ++ [addParameter last p])
    rw [SessionM.lift_bind, bind_assoc] at hleads
    exact hleads u hu
  · refine ((Invocation.freshStatement_at hS hi).weaken_error fun _ h => h.rests).bind fun s => ?_
    intro u hu
    have hadd : Leads (R i p s (.batch queue)) ((i.addBatch s).orUndo s.closeQuietly)
        (fun _ => K (.batch (queue ++ [⟨s, i.command, i.bound.sql, [p]⟩]))) (K (.batch queue)) :=
      (hS.queued hu.type.symm hb).orUndo (Invocation.closeQuietly_leads hS s)
    exact (((SessionM.lift_at hadd).weaken_error fun _ h => h.rests).bind fun _ => hset _) u hu

theorem send_rests (htype : type = .batch) (successful : List BatchResult)
    (hD : ∀ x ∈ queue, ∀ i p, x.Selects config i p → D i p) :
    Maintains (Rests type timeout K) (send config successful queue) fun _ => True := by
  induction queue generalizing successful with
  | nil => exact .pure trivial
  | cons x rest ih =>
    have hsent : Maintains (Rests type timeout K)
        (liftM x.statement.executeBatch : SessionM (List Int)) fun _ => True := by
      refine fun u hu => ⟨?_, fun _ _ => trivial⟩
      obtain ⟨hu', ht, hkept⟩ := hu
      rw [SessionM.outcome_lift]
      refine ⟨hu', ht, ?_⟩
      change K u.session.strategy _
      cases hst : u.session.strategy with
      | batch queue' =>
        rw [hst] at hkept
        exact (hS.sent htype u.database hkept).1
      | _ =>
        rw [hst, htype] at hu'
        cases hu'
    have hexecute : Maintains (Rests type timeout K) (execute config x) fun _ => True := by
      refine hsent.attempt.bind fun r _ => ?_
      cases r with
      | error e => exact .pure trivial
      | ok counts =>
        refine (Keys.afterBatch_rests hS fun id property q i hk hq hi =>
          hD x List.mem_cons_self i q (.entry hk hq hi)).attempt.bind fun r _ => ?_
        cases r <;> exact .pure trivial
    refine (hexecute.thenAlways (SessionM.closeQuietly_rests hS x.statement)).bind fun r _ => ?_
    cases r with
    | ok result => exact ih _ fun y hy => hD y (List.mem_cons_of_mem x hy)
    | error e =>
      have hclose : Maintains (Rests type timeout K) (liftM (closeAll rest) : SessionM Unit)
          fun _ => True :=
        SessionM.rests_of_idles hS fun _ =>
          SessionM.lift_idles (.forM fun y _ => y.statement.closeQuietly_idles)
      exact hclose.bind fun _ _ => .throw _

theorem setQueue_rests :
    Leads (At type timeout p (.batch queue) (K (.batch queue))) (setQueue [])
      (fun _ => Rests type timeout K) (Rests type timeout K) := by
  refine .change fun u h => ⟨h.type, h.timeout, ?_⟩
  have hempty := hS.emptied h.database
  rwa [← h.type] at hempty

theorem flush_rests (hD : ∀ x ∈ queue, ∀ i p, x.Selects config i p → D i p) :
    Leads (At type timeout p (.batch queue) (K (.batch queue))) (flush config queue)
      (fun _ => Rests type timeout K) (Rests type timeout K) := by
  intro u hu
  exact ((setQueue_rests hS).bind fun _ => (send_rests hS hu.type.symm [] hD).leads) u hu

theorem abandon_rests :
    Leads (At type timeout p (.batch queue) (K (.batch queue))) (abandon queue)
      (fun _ => Rests type timeout K) (Rests type timeout K) :=
  (setQueue_rests hS).bind fun _ => (SessionM.rests_of_idles hS fun _ =>
    SessionM.lift_idles (.forM fun y _ => y.statement.closeQuietly_idles)).leads

end Batch

namespace SessionM

variable {command : Command} {bounds : RowBounds} {handler : Option RowHandler}

theorem execute_rests (hD : ∀ id property q j, i.command.keys = .selectKey id property false →
      Parameter.Written (i.outputs.map Prod.snd) p q → Keys.Selects config id q j → D j q) :
    Leads (At type timeout p st (R i p s st)) (execute config i s)
      (fun _ => Rests type timeout K) (Rests type timeout K) := by
  have hcount : Maintains (At type timeout p st (K st))
      (liftM s.updateCount : SessionM (Option Int)) fun _ => True := fun u hu =>
    ⟨⟨hu.type, hu.timeout, hu.parameter, hu.strategy, hu.database⟩, fun _ _ => trivial⟩
  refine ((lift_at hS.executed).weaken_error fun _ h => h.rests).bind fun _ =>
    (hcount.leads.weaken_error fun _ h => h.rests).bind fun count => ?_
  refine ((Invocation.takeOutputs_rests hS).weaken_pre fun _ h => ⟨h.rests, h.parameter⟩).bind
    fun _ => ?_
  rintro u ⟨hu, hwritten⟩
  have hafter : Leads (fun v => Rests type timeout K v ∧ v.parameter = u.parameter)
      (do
        Keys.after config i.command s
        return count.getD 0) (fun _ => Rests type timeout K) (Rests type timeout K) :=
    (Keys.after_rests hS fun id property j hk hj => hD id property u.parameter j hk hwritten hj).bind
      fun _ => .pure fun _ h => h
  exact hafter u ⟨hu, rfl⟩

theorem carryOut_rests (hi : D i p)
    (hD : ∀ id property q j, i.command.keys = .selectKey id property false →
      Parameter.Written (i.outputs.map Prod.snd) p q → Keys.Selects config id q j → D j q)
    (hb : B i p) :
    Leads (At type timeout p st (K st)) (carryOut config i) (fun _ => Rests type timeout K)
      (Rests type timeout K) := by
  refine session_bind_at fun w _ hst _ => ?_
  rw [hst]
  cases st with
  | simple =>
    have hclose := fun s => (closeQuietly_rests hS s).leads
    exact ((Invocation.freshStatement_at hS hi).weaken_error fun _ h => h.rests).bind fun s =>
      (execute_rests hS hD).thenAlways (fun _ => hclose s) (hclose s)
  | reuse m =>
    refine (Reuse.statement_at hS hi).bind fun s => ?_
    rintro v ⟨m', hv⟩
    exact execute_rests hS hD v hv
  | batch queue => exact (Batch.enqueue_rests hS hi hb).bind fun _ => .pure fun _ h => h

theorem mutate_rests (hD : ∀ i p, Mutates config command u i p → D i p)
    (hB : ∀ x, submission config command u = .ok x → B x.invocation x.parameter)
    (hu : u.Rests type timeout K) :
    ((mutate config command).outcome u).2.Rests type timeout K := by
  cases hopen : u.session.closed with
  | true => rwa [mutate_of_closed hopen]
  | false =>
    have hclear : (u.withCache .empty).Rests type timeout K := Rests.blind.same hu rfl rfl rfl
    have hbefore := Keys.before_rests hS (p := u.parameter) fun id property i hk hi =>
      hD i _ (.before hk hi)
    obtain ⟨e, hm⟩ | ⟨i, v, hb, hi, hx, hm⟩ := mutate_cases config command hopen <;> rw [hm]
    · exact (hbefore.weaken_pre fun _ h => h).state ⟨hclear, rfl⟩
    · have hitself : D i v.parameter := hD _ _ (.itself hx)
      have hafter : ∀ id property q j, i.command.keys = .selectKey id property false →
          Parameter.Written (i.outputs.map Prod.snd) v.parameter q →
            Keys.Selects config id q j → D j q := fun id property q j hk hq hj =>
        hD j q (.after hx (Invocation.command_of hi ▸ hk) hq hj)
      exact (carryOut_rests hS hitself hafter (hB _ hx)).state (hbefore.ok hb ⟨hclear, rfl⟩).at

theorem freshQuery_rests (hD : ∀ i, Invocation.of command p bounds = .ok i → D i p) :
    Leads (fun u => Rests type timeout K u ∧ u.parameter = p)
      (freshQuery config command bounds handler) (fun _ => Rests type timeout K)
      (Rests type timeout K) := by
  refine invocation_leads (fun _ h => h.2) (fun _ h => h.1) fun i hi => at_leads fun st => ?_
  have hclose := fun s => (closeQuietly_rests hS s).leads
  exact ((Invocation.freshStatement_at hS (hD i hi)).weaken_error fun _ h => h.rests).bind fun s =>
    (Invocation.query_at hS config.mapper handler).thenAlways (fun _ => hclose s) (hclose s)

theorem discard_flush_rests {queue : List QueuedStatement}
    (hQ : ∀ x ∈ queue, ∀ i p, x.Selects config i p → D i p) :
    Leads (At type timeout p (.batch queue) (K (.batch queue)))
      (discard (Batch.flush config queue)) (fun _ u => Rests type timeout K u ∧ u.parameter = p)
      (Rests type timeout K) := by
  have hflush := (Batch.flush_rests hS (p := p) hQ).and (Batch.flush_parameter config p queue)
  exact (hflush.weaken (fun _ h => ⟨h, h.parameter⟩) (fun _ _ h => h) fun _ h => h.1).discard

theorem runQuery_rests (hD : ∀ i, Invocation.of command p bounds = .ok i → D i p)
    (hQ : ∀ queue x i q, st = .batch queue → x ∈ queue → x.Selects config i q → D i q) :
    Leads (At type timeout p st (K st)) (runQuery config command bounds handler)
      (fun _ => Rests type timeout K) (Rests type timeout K) := by
  refine session_bind_at fun w _ hst _ => ?_
  rw [hst]
  cases st with
  | simple => exact (freshQuery_rests hS hD).weaken_pre fun _ h => ⟨h.rests, h.parameter⟩
  | reuse m =>
    refine invocation_leads (fun _ h => h.parameter) (fun _ h => h.rests) fun i hi =>
      (Reuse.statement_at hS (hD i hi)).bind fun s => ?_
    rintro v ⟨m', hv⟩
    exact Invocation.query_at hS config.mapper handler v hv
  | batch queue =>
    exact (discard_flush_rests hS fun x hx i q hq => hQ queue x i q rfl hx hq).bind fun _ =>
      freshQuery_rests hS hD

theorem freshCursor_rests (hD : ∀ i, Invocation.of command p bounds = .ok i → D i p) :
    Leads (fun u => Rests type timeout K u ∧ u.parameter = p) (freshCursor config command bounds)
      (fun _ => Rests type timeout K) (Rests type timeout K) := by
  refine invocation_leads (fun _ h => h.2) (fun _ h => h.1) fun i hi => at_leads fun st => ?_
  refine ((Invocation.freshStatement_at hS (hD i hi)).weaken_error fun _ h => h.rests).bind
    fun s => ?_
  have hexecute : Leads (R i p s st) ((i.execute s).orUndo s.closeQuietly) (fun _ => K st) (K st) :=
    hS.executed.orUndo (Invocation.closeQuietly_leads hS s)
  exact ((lift_at hexecute).weaken (fun _ h => h) (fun _ _ h => h.rests) fun _ h => h.rests).bind
    fun _ => .pure fun _ h => h

theorem openCursor_rests (hD : ∀ i, Invocation.of command u.parameter bounds = .ok i →
      D i u.parameter)
    (hQ : ∀ queue x i q, u.session.strategy = .batch queue → x ∈ queue → x.Selects config i q →
      D i q)
    (hu : u.Rests type timeout K) :
    ((openCursor config command bounds).outcome u).2.Rests type timeout K := by
  cases hopen : u.session.closed with
  | true => rwa [openCursor_of_closed hopen]
  | false =>
    have hcache : (u.flushedFor command).Rests type timeout K := by
      rw [Scope.flushedFor_eq]
      exact Rests.blind.same hu rfl rfl rfl
    have hparameter : (u.flushedFor command).parameter = u.parameter := by
      rw [Scope.flushedFor_eq]
      rfl
    have hstrategy : (u.flushedFor command).session.strategy = u.session.strategy := by
      rw [Scope.flushedFor_eq]
      rfl
    rw [openCursor_of_open hopen]
    split
    · next queue hst =>
      have hat := hcache.at
      rw [hparameter, hstrategy, hst] at hat
      exact ((discard_flush_rests hS fun x hx i q hq => hQ queue x i q hst hx hq).bind fun _ =>
        freshCursor_rests hS hD).state hat
    · exact (freshCursor_rests hS hD).state ⟨hcache, hparameter⟩

theorem flush_rests (hQ : ∀ queue x i q, st = .batch queue → x ∈ queue →
      x.Selects config i q → D i q) :
    Leads (At type timeout p st (K st)) (flush config) (fun _ => Rests type timeout K)
      (Rests type timeout K) := by
  refine session_bind_at fun w _ hst _ => ?_
  rw [hst]
  cases st with
  | simple => exact .pure fun _ h => h.rests
  | reuse m => exact (Reuse.closeAll_rests hS).bind fun _ => .pure fun _ h => h
  | batch queue => exact Batch.flush_rests hS fun x hx i q hq => hQ queue x i q rfl hx hq

theorem abandon_rests :
    Leads (At type timeout p st (K st)) abandon (fun _ => Rests type timeout K)
      (Rests type timeout K) := by
  refine session_bind_at fun w _ hst _ => ?_
  rw [hst]
  cases st with
  | simple => exact .pure fun _ h => h.rests
  | reuse m => exact Reuse.closeAll_rests hS
  | batch queue => exact Batch.abandon_rests hS

end SessionM

namespace Session

variable {op : Operation} {id : String} {bounds : RowBounds} {handler : Option RowHandler}

theorem query_rests (hop : op.query? = some (id, bounds, handler))
    (hD : ∀ i p, Session.Invokes config u op i p → D i p) (hu : u.Rests type timeout K) :
    ((query config id bounds handler).outcome u).2.Rests type timeout K := by
  cases hc : config.registry.find? id with
  | none => rwa [query_of_missing hc]
  | some c =>
    have hat := hu.at
    obtain ⟨p, hq⟩ := query_of_found (s := u) hc bounds handler
    rw [hq]
    obtain ⟨cache, hsame | ⟨handler', cache', hran⟩⟩ :=
      SessionM.query_state config c bounds handler u.wrapped
    · rw [hsame]
      exact Rests.blind.same hu rfl rfl rfl
    · have hstart : (u.wrapped.withCache cache).At type timeout u.wrapped.parameter
          u.session.strategy (K u.session.strategy) :=
        ⟨hat.type, hat.timeout, rfl, rfl, hat.database⟩
      have hrun : ((SessionM.runQuery config c bounds handler').outcome
          (u.wrapped.withCache cache)).2.Rests type timeout K := (SessionM.runQuery_rests hS
        (fun i hi => hD _ _ (.query hop hc hi)) fun queue x i q hq hx hi =>
          hD i q (.queued (Operation.sends_of_query hop) hq hx hi)).state hstart
      rw [hran]
      exact Rests.blind.same hrun rfl rfl rfl

theorem mutate_rests (hop : op.mutation? = some id)
    (hD : ∀ i p, Session.Invokes config u op i p → D i p)
    (hB : ∀ c x, config.registry.find? id = some c →
      SessionM.submission config c (u.withDirty true).wrapped = .ok x → B x.invocation x.parameter)
    (hu : u.Rests type timeout K) :
    ((mutate config id).outcome u).2.Rests type timeout K := by
  cases hc : config.registry.find? id with
  | none => rwa [mutate_of_missing hc]
  | some c =>
    have hdirty : (u.withDirty true).wrapped.Rests type timeout K :=
      Rests.blind.same hu rfl rfl rfl
    obtain ⟨p, hm⟩ := mutate_of_found (s := u) hc
    rw [hm]
    exact Rests.blind.same (SessionM.mutate_rests hS (fun i q h => hD i q (.mutation hop hc h))
      (fun x hx => hB c x hc hx) hdirty) rfl rfl rfl

theorem selectCursor_rests
    (hD : ∀ i p, Session.Invokes config u (.selectCursor id bounds) i p → D i p)
    (hu : u.Rests type timeout K) :
    ((selectCursor config id bounds).outcome u).2.Rests type timeout K := by
  cases hc : config.registry.find? id with
  | none => rwa [selectCursor_of_missing hc]
  | some c =>
    have hwrapped : u.wrapped.Rests type timeout K := Rests.blind.same hu rfl rfl rfl
    obtain ⟨p, hs⟩ := selectCursor_of_found (s := u) hc bounds
    rw [hs]
    exact Rests.blind.same (SessionM.openCursor_rests hS (fun i hi => hD _ _ (.cursor hc hi))
      (fun queue x i q hq hx hi => hD i q (.queued trivial hq hx hi)) hwrapped) rfl rfl rfl

theorem finishing_rests {finish : Transaction → DriverM Unit}
    (hfinish : ∀ (t : Transaction) (db₀ : Database), Maintains db₀.Idles (finish t) fun _ => True)
    (must : Bool) {x : Except Error α × Scope} (hx : x.2.Rests type timeout K) :
    (finishing must finish x).2.Rests type timeout K := by
  refine finishing_blind Rests.blind (fun u hu => ⟨hu.type, hu.timeout, ?_⟩) must hx
  exact hS.idle (hfinish _ _ _ (.refl _)).1 hu.kept

theorem commit_rests {force : Bool} (hop : op.Sends)
    (hD : ∀ i p, Session.Invokes config u op i p → D i p) (hu : u.Rests type timeout K) :
    ((commit config force).outcome u).2.Rests type timeout K := by
  cases hopen : u.session.closed with
  | true => rwa [commit_of_closed hopen]
  | false =>
    have hclear : (u.withCache .empty).Rests type timeout K := Rests.blind.same hu rfl rfl rfl
    rw [commit_of_open hopen]
    exact finishing_rests hS (fun t _ => t.commit_idles) _ ((SessionM.flush_rests hS
      fun queue x i q hq hx hi => hD i q (.queued hop hq hx hi)).state hclear.at)

theorem rollback_rests (force : Bool) (hu : u.Rests type timeout K) :
    ((rollback force).outcome u).2.Rests type timeout K := by
  cases hopen : u.session.closed with
  | true =>
    rw [rollback_of_closed hopen]
    exact Rests.blind.same hu rfl rfl rfl
  | false =>
    have hclear : (u.withCache .empty).Rests type timeout K := Rests.blind.same hu rfl rfl rfl
    rw [rollback_of_open hopen]
    exact finishing_rests hS (fun t _ => t.rollback_idles) _
      ((SessionM.abandon_rests hS).state hclear.at)

theorem close_rests (hu : u.Rests type timeout K) :
    (close.outcome u).2.Rests type timeout K := by
  cases hopen : u.session.closed with
  | true =>
    rw [close_of_closed hopen]
    exact Rests.blind.same hu rfl rfl rfl
  | false =>
    have hrolled := rollback_rests hS false hu
    rw [close_of_open hopen]
    exact ⟨hrolled.type, hrolled.timeout,
      hS.idle (Transaction.closeConnection_idles _ _ (.refl _)).1 hrolled.kept⟩

theorem perform_rests (op : Operation) (hD : ∀ i p, Session.Invokes config u op i p → D i p)
    (hB : ∀ id c x, op.mutation? = some id → config.registry.find? id = some c →
      SessionM.submission config c (u.withDirty true).wrapped = .ok x → B x.invocation x.parameter)
    (hu : u.Rests type timeout K) : ((op.perform config).outcome u).2.Rests type timeout K := by
  cases op with
  | selectOne | selectList | selectMap | selectWithHandler =>
    rw [(perform_query config rfl u).state]
    exact query_rests hS rfl hD hu
  | insert id | update id | delete id =>
    rw [perform_mutation config rfl]
    exact mutate_rests hS rfl hD (fun c x => hB id c x rfl) hu
  | selectCursor id bounds =>
    rw [perform_selectCursor]
    exact selectCursor_rests hS hD hu
  | flushStatements =>
    rw [perform_flushStatements]
    cases hopen : u.session.closed with
    | true => rwa [flushStatements_of_closed hopen]
    | false =>
      rw [flushStatements_of_open hopen]
      exact (SessionM.flush_rests hS fun queue x i q hq hx hi =>
        hD i q (.queued trivial hq hx hi)).state hu.at
  | commit force =>
    rw [perform_commit]
    have hsends : (Operation.commit force).Sends := trivial
    exact commit_rests hS hsends hD hu
  | rollback force =>
    rw [perform_rollback]
    exact rollback_rests hS force hu
  | clearCache =>
    rw [perform_clearCache]
    exact (clearCache_blind Rests.blind u hu).1
  | close =>
    rw [perform_close]
    exact close_rests hS hu

end Session

namespace World

variable {w : World}

theorem turn_rests {step : Step}
    (hD : ∀ op p i q, step = .perform op p → Session.Invokes config (w.scope p) op i q → D i q)
    (hB : ∀ x, (w.turn config step).submission? config = some x → B x.invocation x.parameter)
    (h : (w.scope .absent).Rests type timeout K) :
    ((w.turn config step).after.scope .absent).Rests type timeout K := by
  have honCursor : ∀ (j : Nat) (work : Cursor → DriverM Cursor),
      (∀ (c : Cursor) (db₀ : Database), Maintains db₀.Idles (work c) fun _ => True) →
        ((w.onCursor j work).scope .absent).Rests type timeout K := by
    intro j work hwork
    have hidle : w.database.Idles (w.onCursor j work).database := by
      unfold onCursor
      split
      · exact .refl _
      · next c _ =>
        have hc := (hwork c w.database _ (.refl _)).1
        rcases hx : (work c).outcome w.database with ⟨e | c', db⟩ <;> rw [hx] at hc <;> exact hc
    have hsession := w.onCursor_session j work
    refine ⟨?_, ?_, ?_⟩
    · exact (congrArg (fun x : Session => x.strategy.executorType) hsession).trans h.type
    · exact (congrArg (fun x : Session => x.transaction.timeout) hsession).trans h.timeout
    · change K (w.onCursor j work).session.strategy _
      rw [hsession]
      exact hS.idle hidle h.kept
  cases step with
  | perform op p =>
    have hstart : (w.scope p).Rests type timeout K := Rests.blind.same h rfl rfl rfl
    have hafter := Session.perform_rests hS op (fun i q => hD op p i q rfl)
      (fun id c x hm hc hx => hB x (submission?_of_found hm hc hx)) hstart
    exact Rests.blind.same hafter rfl rfl rfl
  | fetch j => exact honCursor j _ fun c _ => (c.next_maintains Statement.closeQuietly_idles
      Statement.nextRow_idles).bind fun _ _ => .pure trivial
  | closeCursor j => exact honCursor j _ fun c _ => c.close_maintains Statement.closeQuietly_idles
  | rescript script faults =>
    have hidle := Database.Idles.refl w.database
    exact ⟨h.type, h.timeout,
      hS.idle ⟨hidle.log, hidle.length, hidle.sql, hidle.closed⟩ h.kept⟩

end World

end Attending

end SqlMapper
