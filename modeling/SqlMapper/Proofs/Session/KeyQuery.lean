import SqlMapper.Proofs.Batch.Results
import SqlMapper.Proofs.Session.Blind
import SqlMapper.Proofs.Session.Issuing
import SqlMapper.Proofs.Statements.Given

namespace SqlMapper

open Fallible

inductive Call.Fetches (s : Statement) : Call → Prop where
  | row : Fetches s (.nextRow s)
  | output (index : Nat) : Fetches s (.outParameter s index)

/-- The calls of a query that goes well on a statement of its own: it is created, made ready, executed
and read, and last of all it is closed. The connection may have to be opened before. -/
def Invocation.Course (settings : Settings) (timeout : Option Nat) (i : Invocation) (p : Parameter)
    (s : Statement) (calls : List LogEntry) : Prop :=
  ∃ opening c bindings reading sql o, (∀ e ∈ opening, e.call.Opens) ∧ i.Bindings p s bindings ∧
    (∀ e ∈ reading, e.call.Fetches s) ∧
    calls = opening ++ ⟨.prepare c s i.form, .succeeded⟩ :: i.settingCalls settings timeout s ++
      bindings ++ ⟨.execute s i.bound.sql, .succeeded⟩ :: reading ++ [⟨.closeStatement s sql, o⟩]

/-- The key query `id` has come from `t` to `k` by these calls. They are made on a new statement, from
its creation to its end if there is an answer. -/
structure Keys.Ran (config : Configuration) (id : String) (t : Scope)
    (r : Except Error (List Value)) (k : Scope) (calls : List LogEntry) : Prop where
  outcome : (run config id).outcome t = (r, k)
  log : k.database.log = t.database.log ++ calls
  issued : ∀ e ∈ calls, ∃ i, Selects config id t.parameter i ∧
    i.Issues t.parameter ⟨t.database.statements.length⟩ i.bound.sql e.call
  answered : ∀ keys, r = .ok keys → ∃ i, Selects config id t.parameter i ∧
    i.Course config.settings t.session.transaction.timeout t.parameter
      ⟨t.database.statements.length⟩ calls
  parameter : k.parameter = t.parameter
  session : { k.session with transaction := t.session.transaction } = t.session
  others : ∀ s : Statement, s.index < t.database.statements.length →
    k.database.statement s = t.database.statement s

theorem Custody.trivial : Custody fun _ _ _ => True where
  perm _ _ := .intro
  used _ _ _ _ _ := .intro
  created _ _ _ := .intro
  uncreated _ _ _ _ := .intro
  closed _ _ _ := .intro
  unclosed _ _ _ := .intro
  opened _ _ := fun _ _ => ⟨fun _ _ _ => .intro, fun _ _ _ => .intro⟩

namespace Invocation

variable {i : Invocation} {p : Parameter} {s : Statement} {sql : String} {u v : Scope}
  {settings : Settings} {base : Database}

theorem querying_issues (mapper : RowMapper) (own : Parameter) :
    Leads (fun u : Scope => i.Poised p s sql base u.database)
      (SessionM.withParameter own (i.query mapper s none))
      (fun _ u => base.Makes (i.Issues p s sql) u.database)
      (fun u => base.Makes (i.Issues p s sql) u.database) := by
  have hblind : Scope.Blind fun u : Scope => base.Makes (i.Issues p s sql) u.database :=
    ⟨fun h _ _ hd => by rw [hd]; exact h⟩
  exact SessionM.withParameter_leads (fun _ h => h) (fun _ => hblind) hblind
    (query_issues mapper none)

theorem prepare_log {timeout : Option Nat} {c : Connection} {db db' : Database}
    (h : (i.prepare settings timeout c).outcome db = (.ok s, db')) :
    db'.log = db.log ++ ⟨.prepare c s i.form, .succeeded⟩ :: i.settingCalls settings timeout s := by
  obtain ⟨s', db₁, hcreate, h⟩ := ok_of_bind_ok h
  obtain ⟨_, db₂, hsettings, h⟩ := ok_of_bind_ok h
  cases h
  rw [Connection.prepare, outcome_of] at hcreate
  obtain ⟨-, db₀, hact, rfl⟩ := Database.perform_eq_ok hcreate
  cases hact
  rw [applySettings_log (ok_of_orUndo_ok hsettings)]
  exact List.append_assoc _ _ _

theorem freshStatement_calls (h : (i.freshStatement settings).outcome u = (.ok s, v)) :
    ∃ opening c bindings, (∀ e ∈ opening, e.call.Opens) ∧ i.Bindings u.parameter s bindings ∧
      v.database.log = u.database.log ++ (opening ++ ⟨.prepare c s i.form, .succeeded⟩ ::
        i.settingCalls settings u.session.transaction.timeout s ++ bindings) := by
  obtain ⟨ses, u₁, hses, h⟩ := ok_of_bind_ok h
  cases hses
  obtain ⟨c, u₂, hc, h⟩ := ok_of_bind_ok h
  obtain ⟨s', u₃, hprepare, h⟩ := ok_of_bind_ok h
  obtain ⟨p, u₄, h₄, h⟩ := ok_of_bind_ok h
  cases h₄
  obtain ⟨_, u₅, hbind, h⟩ := ok_of_bind_ok h
  cases h
  obtain ⟨hconnected, hp⟩ := kept hc
    (SessionM.connection_sees fun t : Transaction => t.acquire_makes fun _ hcall => hcall)
    (⟨.refl _ _, rfl⟩ : u.Sees u.parameter (u.database.Makes Call.Opens))
  obtain ⟨opening, hopening, hopens⟩ := hconnected
  obtain ⟨bindings, hbindings, hlog⟩ :=
    parameterize_log (ok_of_orUndo_ok (SessionM.ok_of_lift_ok hbind).1)
  have hp₃ : u₃.parameter = u.parameter := by
    rw [(SessionM.ok_of_lift_ok hprepare).2]
    exact hp
  rw [hp₃] at hbindings
  refine ⟨opening, c, bindings, hopens, hbindings, ?_⟩
  rw [hlog, prepare_log (SessionM.ok_of_lift_ok hprepare).1, hopening]
  simp

theorem query_calls {mapper : RowMapper} {rows : List Value}
    (h : (i.query mapper s none).outcome u = (.ok rows, v))
    (hs : u.database.Created s i.form.sql) :
    ∃ reading, (∀ e ∈ reading, e.call.Fetches s) ∧ v.database.log =
      u.database.log ++ ⟨.execute s i.bound.sql, .succeeded⟩ :: reading := by
  obtain ⟨_, u₁, hx, h⟩ := ok_of_bind_ok h
  have hlog := execute_eq_ok (SessionM.ok_of_lift_ok hx).1
  rw [text_of_created hs] at hlog
  obtain ⟨reading, hreading, hfetches⟩ :=
    kept h (results_makes mapper none Call.Fetches.row fun c _ => .output c.1) (.refl _ _)
  refine ⟨reading, hfetches, ?_⟩
  rw [hreading, hlog, List.append_assoc]
  rfl

end Invocation

namespace Keys

variable {config : Configuration} {id : String} {t k : Scope} {keys : List Value}

/-- Whether or not it goes well, a key query makes calls for nothing but itself. -/
theorem run_issues (config : Configuration) (id : String) (t : Scope) :
    t.database.Makes (fun call => ∃ i, Selects config id t.parameter i ∧
        i.Issues t.parameter ⟨t.database.statements.length⟩ i.bound.sql call)
      ((run config id).outcome t).2.database := by
  rw [run]
  cases hc : config.registry.get id with
  | error e => exact .refl _ _
  | ok command =>
    rw [SessionM.outcome_ok_bind, SessionM.outcome_parameter_bind]
    cases hi : Invocation.of command t.parameter .all with
    | error e => exact .refl _ _
    | ok i =>
      refine Database.Makes.mono ?_ fun call hcall => ⟨i, ⟨command, Registry.find?_of_get hc, hi⟩, hcall⟩
      rw [SessionM.outcome_ok_bind]
      refine (i.freshStatement_readied config.settings t).issues ?_
      exact ((Invocation.querying_issues config.mapper t.parameter).thenAlways
        (fun _ => SessionM.closing_issues) SessionM.closing_issues).bind fun _ => .pure fun _ h => h

theorem run_course (h : (run config id).outcome t = (.ok keys, k)) :
    ∃ i calls, Selects config id t.parameter i ∧ k.database.log = t.database.log ++ calls ∧
      i.Course config.settings t.session.transaction.timeout t.parameter
        ⟨t.database.statements.length⟩ calls := by
  obtain ⟨command, t₁, hc, h⟩ := ok_of_bind_ok h
  obtain ⟨hcommand, rfl⟩ := Prod.mk.inj hc
  rw [SessionM.outcome_parameter_bind] at h
  obtain ⟨i, t₂, hi, h⟩ := ok_of_bind_ok h
  obtain ⟨hinvocation, rfl⟩ := Prod.mk.inj hi
  obtain ⟨s, u, hs, h⟩ := ok_of_bind_ok h
  obtain ⟨⟨rows, p⟩, w, hx, h⟩ := ok_of_bind_ok h
  cases h
  obtain ⟨v, hq, hclose⟩ := ok_of_thenAlways_ok hx
  rw [SessionM.withParameter_outcome] at hq
  rcases hquery : (i.query config.mapper s none).outcome { u with parameter := t.parameter } with
    ⟨e | rows, w⟩ <;> rw [hquery] at hq <;> cases hq
  have hready := i.freshStatement_readied config.settings t
  rw [hs] at hready
  obtain ⟨rfl, -⟩ := hready.answer s rfl
  obtain ⟨opening, c, bindings, hopening, hbindings, hlog⟩ := Invocation.freshStatement_calls hs
  have hcreated := Invocation.created_of_freshStatement_ok hs
  obtain ⟨reading, hreading, hlog'⟩ := Invocation.query_calls hquery hcreated
  -- the statement stays open until it is closed here
  have hfresh : u.Keeps (fun _ _ _ => True) t.session.strategy [_] :=
    (Invocation.freshStatement_inHand .trivial).ok hs ⟨rfl, ⟨List.nodup_nil, nofun⟩, .intro⟩
  have hread := kept hquery
    (i.query_inHand .trivial (List.mem_singleton_self _) config.mapper none)
    ⟨hfresh.strategy, hfresh.holding⟩
  obtain ⟨sql, o, hlast⟩ :=
    Statement.closeQuietly_log (hread.holding.inHand.isOpen _ (List.mem_singleton_self _))
  have hk := (SessionM.ok_of_lift_ok hclose).1
  refine ⟨i, _, ⟨command, Registry.find?_of_get hcommand, hinvocation⟩, ?_, opening, c, bindings,
    reading, sql, o, hopening, hbindings, hreading, rfl⟩
  rw [hk] at hlast
  rw [hlast, hlog', hlog]
  simp

theorem run_ran (config : Configuration) (id : String) (t : Scope) :
    ∃ calls, Ran config id t ((run config id).outcome t).1 ((run config id).outcome t).2 calls := by
  obtain ⟨calls, hlog, hissued⟩ := run_issues config id t
  have hapart : ∀ kept : List Statement,
      (∀ s ∈ kept, s.index < t.database.statements.length) →
        t.Apart kept ((run config id).outcome t).2 := fun kept hkept =>
    (run_apart config id t (.refl hkept)).1
  refine ⟨calls, rfl, hlog, hissued, fun keys hr => ?_, ?_, ?_, fun s hs => ?_⟩
  · obtain ⟨i, calls', hi, hlog', hcourse⟩ := run_course (Prod.ext hr rfl)
    rw [hlog] at hlog'
    cases List.append_cancel_left hlog'
    exact ⟨i, hi, hcourse⟩
  · exact (run_parameter config id t.parameter t rfl).1
  · exact (hapart [] nofun).session
  · exact (hapart [s] fun s' hs' => List.mem_singleton.mp hs' ▸ hs).database.same s
      (List.mem_singleton_self s)

end Keys

end SqlMapper
