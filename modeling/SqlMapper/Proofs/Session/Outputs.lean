import SqlMapper.Proofs.Session.Assigning
import SqlMapper.Proofs.Session.Writing

namespace SqlMapper

open Fallible Parameter

/-- The calls by which a run gets the statement `s` with its settings, a new one or one that is kept. For
a new one the connection may have to be opened. -/
inductive Invocation.Obtains (settings : Settings) (timeout : Option Nat) (i : Invocation)
    (s : Statement) : List LogEntry → Prop where
  | created {opening : List LogEntry} (c : Connection) (opens : ∀ e ∈ opening, e.call.Opens) :
    Obtains settings timeout i s
      (opening ++ ⟨.prepare c s i.form, .succeeded⟩ :: i.settingCalls settings timeout s)
  | kept : Obtains settings timeout i s (i.settingCalls settings timeout s)

/-- A run that went well has come from `u` to `v`. Its statement was obtained, the outputs were
registered and the inputs bound; then it was executed, and the database answered that execution with
`r`. After the rows all outputs were read, and assigned as they were in `r`. -/
inductive Invocation.Called (config : Configuration) (i : Invocation) (u v : Scope) :
    Response → Prop where
  | mk {s : Statement} {sql : String} {before bindings reading closing : List LogEntry}
    {outs : List Value} {r : Response} (takes : i.Takes u s sql)
    (obtains : i.Obtains config.settings u.session.transaction.timeout s before)
    (binds : i.Bindings u.parameter s bindings)
    (answered : r = u.database.script.response (u.database.log ++ (before ++ bindings)).length sql)
    (reads : ∀ e ∈ reading, e.call = .nextRow s)
    (closes : ∀ e ∈ closing, ∃ text, e.call = .closeStatement s text)
    (log : v.database.log = u.database.log ++ (before ++ bindings) ++
      ⟨.execute s sql, .succeeded⟩ :: reading ++
        (i.outputs.map fun c => ⟨.outParameter s c.1, .succeeded⟩) ++ closing)
    (given : List.Forall₂ (fun c out => r.outValues.lookup c.1 = some out) i.outputs outs)
    (assigned : u.parameter.assignAll ((i.outputs.map Prod.snd).zip outs) = .ok v.parameter) :
    Called config i u v r

/-- The operation runs the command `id`, a query for these rows. -/
inductive Session.Operation.Runs (op : Operation) (id : String) : RowBounds → Prop where
  | mutation (h : op.mutation? = some id) : Runs op id .all
  | query {bounds : RowBounds} {handler : Option RowHandler}
    (h : op.query? = some (id, bounds, handler)) : Runs op id bounds

theorem Database.maintains_of_act {α : Type} {I : Database → Prop} {call : Database → Call}
    {refusal : Database → Option Error} {act : Database → Database → Except Error α × Database}
    (hrecord : ∀ db call o, I db → I (db.record call o)) (hact : ∀ db, I db → I (act db db).2) :
    Maintains I (.of fun db => perform (call db) (refusal db) (act db) db) fun _ => True := by
  refine Leads.maintains (Leads.perform (fun db h _ => hrecord db _ _ h) (fun db e db' h hr => ?_)
    fun db a db' h hr => ?_) <;>
  · have hI := hact db h
    rw [hr] at hI
    exact hrecord db' _ _ hI

section Script

variable {α : Type} {x : Script}

theorem Database.maintains_script {call : Database → Call} {refusal : Database → Option Error}
    {act : Database → Database → Except Error α × Database}
    (hact : ∀ db, (act db db).2.script = db.script) :
    Maintains (fun db => db.script = x)
      (.of fun db => perform (call db) (refusal db) (act db) db) fun _ => True :=
  maintains_of_act (fun _ _ _ h => h) fun db h => (hact db).trans h

theorem Transaction.acquire_script (t : Transaction) :
    Maintains (fun db => db.script = x) t.acquire fun _ => True := by
  unfold acquire
  split
  · exact .pure trivial
  · exact (t.openConnection_maintains (Database.maintains_script fun _ => rfl)
      (fun _ => Database.maintains_script fun _ => rfl)
      fun _ _ => Database.maintains_script fun _ => rfl).bind fun _ _ => .pure trivial

namespace Invocation

variable {i : Invocation} {s : Statement} {settings : Settings} {timeout : Option Nat}

theorem applySettings_script :
    Maintains (fun db => db.script = x) (i.applySettings settings timeout s) fun _ => True :=
  i.applySettings_keeps (fun _ _ _ _ h => h) settings timeout s

theorem parameterize_script (p : Parameter) :
    Maintains (fun db => db.script = x) (i.parameterize p s) fun _ => True :=
  i.parameterize_keeps (fun _ _ _ _ h => h) p s

theorem script_of_prepare_ok {c : Connection} {db db' : Database}
    (h : (i.prepare settings timeout c).outcome db = (.ok s, db')) : db'.script = db.script := by
  obtain ⟨s', db₁, hcreate, h⟩ := ok_of_bind_ok h
  obtain ⟨_, db₂, hsettings, h⟩ := ok_of_bind_ok h
  cases h
  rw [Connection.prepare, outcome_of] at hcreate
  obtain ⟨-, db₀, hact, rfl⟩ := Database.perform_eq_ok hcreate
  cases hact
  exact kept (I := fun d => d.script = db.script) (ok_of_orUndo_ok hsettings) applySettings_script rfl

end Invocation

theorem SessionM.connection_script :
    Maintains (fun u => u.database.script = x) connection fun _ => True := by
  have hacquire : ∀ t : Transaction, Maintains (fun u => u.database.script = x)
      (liftM t.acquire : SessionM (Connection × Transaction)) fun _ => True := fun t =>
    t.acquire_script.within (fun _ h => h) fun _ _ _ h => h
  refine Maintains.bind (V := fun _ => True) (fun _ h => ⟨h, fun _ _ => trivial⟩) fun w _ => ?_
  exact (hacquire w.transaction).bind fun _ _ =>
    Maintains.bind (V := fun _ => True) (.change fun _ h => h) fun _ _ => .pure trivial

end Script

structure Invocation.Prepared (settings : Settings) (i : Invocation) (u : Scope) (s : Statement)
    (sql : String) (before bindings : List LogEntry) (v : Scope) : Prop where
  takes : i.Takes u s sql
  obtains : i.Obtains settings u.session.transaction.timeout s before
  binds : i.Bindings u.parameter s bindings
  log : v.database.log = u.database.log ++ (before ++ bindings)
  script : v.database.script = u.database.script
  parameter : v.parameter = u.parameter
  text : i.text.getD (v.database.statement s).sql = sql

/-- From `v` the statement was executed, and answered with `r`; what it gave was read and assigned. -/
structure Invocation.Performed (i : Invocation) (s : Statement) (v : Scope) (r : Response)
    (reading : List LogEntry) (outs : List Value) (w : Scope) : Prop where
  answered : r = v.database.response (i.text.getD (v.database.statement s).sql)
  reads : ∀ e ∈ reading, e.call = .nextRow s
  log : w.database.log = v.database.log ++
    ⟨.execute s (i.text.getD (v.database.statement s).sql), .succeeded⟩ :: reading ++
      i.outputs.map fun c => ⟨.outParameter s c.1, .succeeded⟩
  given : List.Forall₂ (fun c out => r.outValues.lookup c.1 = some out) i.outputs outs
  assigned : v.parameter.assignAll ((i.outputs.map Prod.snd).zip outs) = .ok w.parameter

section Preparing

variable {settings : Settings} {i : Invocation} {u v : Scope} {s : Statement}

namespace Invocation

theorem script_of_freshStatement_ok (h : (i.freshStatement settings).outcome u = (.ok s, v)) :
    v.database.script = u.database.script := by
  obtain ⟨ses, u₁, hses, h⟩ := ok_of_bind_ok h
  cases hses
  obtain ⟨c, u₂, hc, h⟩ := ok_of_bind_ok h
  obtain ⟨s', u₃, hprepare, h⟩ := ok_of_bind_ok h
  obtain ⟨p, u₄, h₄, h⟩ := ok_of_bind_ok h
  cases h₄
  obtain ⟨_, u₅, hbind, h⟩ := ok_of_bind_ok h
  cases h
  have hconnected := kept (I := fun t => t.database.script = u.database.script) hc
    SessionM.connection_script rfl
  have hprepared := script_of_prepare_ok (SessionM.ok_of_lift_ok hprepare).1
  have hbound := kept (I := fun d => d.script = u₃.database.script)
    (ok_of_orUndo_ok (SessionM.ok_of_lift_ok hbind).1) (parameterize_script _) rfl
  exact hbound.trans (hprepared.trans hconnected)

theorem freshStatement_prepared (h : (i.freshStatement settings).outcome u = (.ok s, v)) :
    ∃ sql before bindings, i.Prepared settings u s sql before bindings v := by
  have hready := i.freshStatement_readied settings u
  rw [h] at hready
  obtain ⟨rfl, htext⟩ := hready.answer s rfl
  obtain ⟨opening, c, bindings, hopening, hbindings, hlog⟩ := freshStatement_calls h
  exact ⟨_, _, bindings, hready.takes, .created c hopening, hbindings, hlog,
    script_of_freshStatement_ok h, hready.parameter, htext⟩

end Invocation

namespace Reuse

variable {m : NameMap Statement}

theorem create_prepared (h : (create settings m i).outcome u = (.ok s, v)) :
    s = ⟨u.database.statements.length⟩ ∧
      ∃ before bindings, i.Prepared settings u s i.bound.sql before bindings v := by
  have hready := create_readied settings m i u
  rw [h] at hready
  obtain ⟨rfl, htext⟩ := hready.answer s rfl
  rw [create, SessionM.outcome_session_bind, SessionM.outcome_parameter_bind] at h
  obtain ⟨c, u₁, hc, h⟩ := ok_of_bind_ok h
  obtain ⟨s', u₂, hprepare, h⟩ := ok_of_bind_ok h
  obtain ⟨_, u₃, hset, h⟩ := ok_of_bind_ok h
  cases hset
  obtain ⟨_, u₄, hbind, h⟩ := ok_of_bind_ok h
  cases h
  have hprepare := (SessionM.ok_of_lift_ok hprepare).1
  have hbind := (SessionM.ok_of_lift_ok hbind).1
  obtain ⟨opening, hopening, hopens⟩ := (kept hc
    (SessionM.connection_sees fun t : Transaction => t.acquire_makes fun _ hcall => hcall)
    (⟨.refl _ _, rfl⟩ : u.Sees u.parameter (u.database.Makes Call.Opens))).database
  obtain ⟨bindings, hbindings, hlog⟩ := Invocation.parameterize_log hbind
  have hconnected := kept (I := fun t => t.database.script = u.database.script) hc
    SessionM.connection_script rfl
  have hprepared := Invocation.script_of_prepare_ok hprepare
  have hbound := kept (I := fun d => d.script = u₂.database.script) hbind
    (Invocation.parameterize_script _) rfl
  refine ⟨rfl, _, bindings, hready.takes, .created c hopens, hbindings, ?_,
    hbound.trans (hprepared.trans hconnected), hready.parameter, htext⟩
  have hcreated := Invocation.prepare_log hprepare
  rw [hlog]
  change u₂.database.log ++ bindings = _
  rw [hcreated, hopening]
  simp

theorem renew_prepared {s' : Statement} (hst : u.session.strategy = .reuse m)
    (hs : m.get? i.bound.sql = some s') (h : (renew settings i s').outcome u = (.ok s, v)) :
    ∃ sql before bindings, i.Prepared settings u s sql before bindings v := by
  have hready := renew_readied settings i hst hs
  rw [h] at hready
  obtain ⟨rfl, htext⟩ := hready.answer s rfl
  rw [renew, SessionM.outcome_session_bind, SessionM.outcome_parameter_bind] at h
  obtain ⟨_, u₁, hsettings, h⟩ := ok_of_bind_ok h
  obtain ⟨_, u₂, hbind, h⟩ := ok_of_bind_ok h
  cases h
  have hsettings := (SessionM.ok_of_lift_ok hsettings).1
  have hbind := (SessionM.ok_of_lift_ok hbind).1
  obtain ⟨bindings, hbindings, hlog⟩ := Invocation.parameterize_log hbind
  have htuned := kept (I := fun d => d.script = u.database.script) hsettings
    Invocation.applySettings_script rfl
  have hbound := kept (I := fun d => d.script = u.database.script) hbind
    (Invocation.parameterize_script _) htuned
  refine ⟨_, _, bindings, hready.takes, .kept, hbindings, ?_, hbound, hready.parameter, htext⟩
  rw [hlog, Invocation.applySettings_log hsettings, List.append_assoc]

theorem statement_prepared (hst : u.session.strategy = .reuse m)
    (h : (statement settings m i).outcome u = (.ok s, v)) :
    ∃ sql before bindings, i.Prepared settings u s sql before bindings v := by
  cases hs : m.get? i.bound.sql with
  | none =>
    rw [statement_of_missing hs] at h
    exact ⟨_, (create_prepared h).2⟩
  | some s' =>
    cases hclosed : (u.database.statement s').closed with
    | false =>
      rw [statement_of_open hs hclosed] at h
      exact renew_prepared hst hs h
    | true =>
      rw [statement_of_closed hs hclosed] at h
      obtain ⟨rfl, before, bindings, hprepared⟩ := create_prepared h
      exact ⟨_, before, bindings, .fresh, hprepared.obtains, hprepared.binds, hprepared.log,
        hprepared.script, hprepared.parameter, hprepared.text⟩

end Reuse

end Preparing

section Performing

variable {i : Invocation} {s : Statement} {db db' : Database} {v w : Scope}

theorem Database.made_of_closedError (h : db.closedError s = none) :
    s.index < db.statements.length := by
  by_contra hlength
  have hnone : db.statements[s.index]? = none := List.getElem?_eq_none (Nat.le_of_not_lt hlength)
  simp [closedError, statement, hnone] at h

namespace Invocation

theorem outValues_of_execute_ok (h : (i.execute s).outcome db = (.ok (), db')) :
    (db'.statement s).outValues =
      (db.response (i.text.getD (db.statement s).sql)).outValues := by
  obtain ⟨b, he⟩ := ok_of_discard_ok h
  rw [Statement.execute, outcome_of] at he
  obtain ⟨hopen, db₁, hact, rfl⟩ := Database.perform_eq_ok he
  dsimp only at hact
  split at hact
  · cases hact
  · cases hact
    change ((db.change s _).statement s).outValues = _
    rw [Database.statement_change_self (Database.made_of_closedError hopen)]
    rfl

theorem takeOutput_ok {c : Nat × String} (h : (takeOutput s c).outcome v = (.ok (), w)) :
    ∃ out, (v.database.statement s).outValues.lookup c.1 = some out ∧
      v.parameter.assign c.2 out = .ok w.parameter ∧
      w.database = v.database.record (.outParameter s c.1) .succeeded := by
  obtain ⟨out, t, hread, hwrite⟩ := ok_of_bind_ok h
  obtain ⟨hout, ht⟩ := SessionM.ok_of_lift_ok hread
  have hassign := assign_of_write (SessionM.ok_of_onParameter_ok hwrite)
  rw [SessionM.parameter_kept hread (SessionM.lift_parameter _ _)] at hassign
  have hdatabase : w.database = t.database := by
    rw [SessionM.onParameter, outcome_within] at hwrite
    rw [← (Prod.mk.inj hwrite).2]
  rw [Statement.outParameter, outcome_of] at hout
  obtain ⟨-, db, hact, hrecord⟩ := Database.perform_eq_ok hout
  split at hact
  · next value hvalue =>
    cases hact
    exact ⟨out, hvalue, hassign, hdatabase.trans hrecord⟩
  · cases hact

theorem takeOutputs_ok (h : (i.takeOutputs s).outcome v = (.ok (), w)) :
    ∃ outs, List.Forall₂ (fun c out => (v.database.statement s).outValues.lookup c.1 = some out)
        i.outputs outs ∧
      v.parameter.assignAll ((i.outputs.map Prod.snd).zip outs) = .ok w.parameter ∧
      w.database.log = v.database.log ++
        i.outputs.map fun c => ⟨.outParameter s c.1, .succeeded⟩ := by
  rw [takeOutputs_eq_forM] at h
  generalize i.outputs = outputs at h ⊢
  induction outputs generalizing v with
  | nil =>
    cases h
    exact ⟨[], .nil, rfl, (List.append_nil _).symm⟩
  | cons c outputs ih =>
    obtain ⟨_, t, htake, hrest⟩ := ok_of_bind_ok h
    obtain ⟨out, hout, hassign, hdatabase⟩ := takeOutput_ok htake
    obtain ⟨outs, hgiven, hassigned, hlog⟩ := ih hrest
    rw [hdatabase] at hgiven hlog
    refine ⟨out :: outs, .cons hout hgiven, assignAll_cons hassign hassigned, ?_⟩
    rw [hlog, Database.record, List.append_assoc]
    rfl

end Invocation

theorem Statement.nextRow_outValues {outs : List (Nat × Value)} :
    Maintains (fun db => (db.statement s).outValues = outs) s.nextRow fun _ => True := by
  refine Database.maintains_of_act (fun _ _ _ h => h) fun db h => ?_
  dsimp only
  split
  · exact h
  · split
    · exact h
    · obtain hsame | hchanged := db.statement_change (s := s) _ s
      · rw [hsame]
        exact h
      · rw [hchanged]
        exact h

namespace Invocation

theorem window_ok {read : Row → Except Error Value} {bounds : RowBounds}
    {handler : Option RowHandler} {rows : List Value}
    (h : (Reading.window s read bounds handler).outcome v = (.ok rows, w)) :
    (∃ reading, w.database.log = v.database.log ++ reading ∧ ∀ e ∈ reading, e.call = .nextRow s) ∧
      (w.database.statement s).outValues = (v.database.statement s).outValues ∧
      w.parameter = v.parameter := by
  have hrow : Maintains (fun db => v.database.Makes (· = .nextRow s) db ∧
      (db.statement s).outValues = (v.database.statement s).outValues) s.nextRow fun _ => True :=
    fun db hdb => ⟨⟨(Statement.nextRow_makes (P := (· = .nextRow s)) rfl db hdb.1).1,
      (Statement.nextRow_outValues db hdb.2).1⟩, fun _ _ => trivial⟩
  have hkept := kept (I := fun t : Scope => v.database.Makes (· = .nextRow s) t.database ∧
      (t.database.statement s).outValues = (v.database.statement s).outValues) h
    (Reading.window_maintains hrow (fun _ ht => ht) (fun _ _ _ hdb => hdb) (fun _ _ ht => ht) read
      bounds handler) ⟨.refl _ _, rfl⟩
  exact ⟨hkept.1, hkept.2, SessionM.parameter_kept h (Reading.window_parameter _ _ _ _ _)⟩

theorem query_performed {mapper : RowMapper} {handler : Option RowHandler} {rows : List Value}
    (h : (i.query mapper s handler).outcome v = (.ok rows, w)) :
    ∃ r reading outs, i.Performed s v r reading outs w := by
  obtain ⟨_, v₁, hx, h⟩ := ok_of_bind_ok h
  obtain ⟨read, v₂, hwindow, h⟩ := ok_of_bind_ok h
  obtain ⟨_, v₃, htake, h⟩ := ok_of_bind_ok h
  cases h
  have hexecute := (SessionM.ok_of_lift_ok hx).1
  obtain ⟨⟨reading, hread, hreads⟩, hvalues, hparameter⟩ := window_ok hwindow
  obtain ⟨outs, hgiven, hassigned, hlog⟩ := takeOutputs_ok htake
  rw [hvalues, outValues_of_execute_ok hexecute] at hgiven
  rw [hparameter, SessionM.parameter_kept hx (SessionM.lift_parameter _ _)] at hassigned
  refine ⟨_, reading, outs, rfl, hreads, ?_, hgiven, hassigned⟩
  rw [hlog, hread, execute_eq_ok hexecute]
  simp

end Invocation

namespace SessionM

theorem execute_performed {config : Configuration} {n : Int} (hkeys : i.command.keys = .none)
    (h : (execute config i s).outcome v = (.ok n, w)) :
    ∃ r reading outs, i.Performed s v r reading outs w := by
  obtain ⟨_, v₁, hx, h⟩ := ok_of_bind_ok h
  have hcount : (liftM s.updateCount : SessionM (Option Int)).outcome v₁ =
      (.ok (v₁.database.statement s).updateCount, v₁) := rfl
  rw [outcome_bind_of_ok hcount] at h
  obtain ⟨_, v₂, htake, h⟩ := ok_of_bind_ok h
  have hafter : Keys.after config i.command s = pure () := by rw [Keys.after, hkeys]
  rw [hafter] at h
  cases h
  have hexecute := (ok_of_lift_ok hx).1
  obtain ⟨outs, hgiven, hassigned, hlog⟩ := Invocation.takeOutputs_ok htake
  rw [Invocation.outValues_of_execute_ok hexecute] at hgiven
  rw [parameter_kept hx (lift_parameter _ _)] at hassigned
  refine ⟨_, [], outs, rfl, fun _ he => absurd he List.not_mem_nil, ?_, hgiven, hassigned⟩
  rw [hlog, Invocation.execute_eq_ok hexecute]

end SessionM

end Performing

section Called

variable {config : Configuration} {i : Invocation} {s : Statement} {sql : String}
  {before bindings reading : List LogEntry} {outs : List Value} {r : Response} {u v w x : Scope}

namespace Invocation

theorem Prepared.called (h : i.Prepared config.settings u s sql before bindings v)
    (hperformed : i.Performed s v r reading outs w) {closing : List LogEntry}
    (hlog : x.database.log = w.database.log ++ closing)
    (hcloses : ∀ e ∈ closing, ∃ text, e.call = .closeStatement s text)
    (hparameter : x.parameter = w.parameter) : i.Called config u x r := by
  have hanswered := hperformed.answered
  have hran := hperformed.log
  have hassigned := hperformed.assigned
  rw [Database.response, h.script, h.log, h.text] at hanswered
  rw [h.log, h.text] at hran
  rw [h.parameter, ← hparameter] at hassigned
  refine .mk h.takes h.obtains h.binds hanswered hperformed.reads hcloses ?_ hperformed.given hassigned
  rw [hlog, hran]

section Work

variable {α : Type} {work : Statement → SessionM α} {a : α}

theorem called_of_fresh
    (hwork : ∀ s v w a, (work s).outcome v = (.ok a, w) →
      ∃ r reading outs, i.Performed s v r reading outs w)
    (h : (do
      let s ← i.freshStatement config.settings
      (work s).thenAlways (liftM s.closeQuietly)).outcome u = (.ok a, x)) :
    ∃ r, i.Called config u x r := by
  obtain ⟨s, v, hs, h⟩ := ok_of_bind_ok h
  obtain ⟨sql, before, bindings, hprepared⟩ := freshStatement_prepared hs
  obtain ⟨t, closing, hclose, hparameter, hlog, hcloses⟩ := SessionM.thenClose_outcome (work s) s v
  obtain ⟨ha, rfl⟩ := Prod.mk.inj (hclose.symm.trans h)
  obtain ⟨r, reading, outs, hperformed⟩ := hwork s v _ a (Prod.ext ha rfl)
  exact ⟨r, hprepared.called hperformed hlog hcloses hparameter⟩

theorem called_of_kept {m : NameMap Statement} (hst : u.session.strategy = .reuse m)
    (hwork : ∀ s v w a, (work s).outcome v = (.ok a, w) →
      ∃ r reading outs, i.Performed s v r reading outs w)
    (h : (do
      let s ← Reuse.statement config.settings m i
      work s).outcome u = (.ok a, x)) :
    ∃ r, i.Called config u x r := by
  obtain ⟨s, v, hs, hx⟩ := ok_of_bind_ok h
  obtain ⟨sql, before, bindings, hprepared⟩ := Reuse.statement_prepared hst hs
  obtain ⟨r, reading, outs, hperformed⟩ := hwork s v x a hx
  exact ⟨r, hprepared.called hperformed (List.append_nil _).symm (by simp) rfl⟩

end Work

theorem Called.of_session {ses : Session} (h : i.Called config { u with session := ses } v r)
    (hstrategy : ses.strategy = u.session.strategy)
    (htransaction : ses.transaction = u.session.transaction) : i.Called config u v r := by
  cases h with
  | mk takes obtains binds answered reads closes log given assigned =>
    rw [htransaction] at obtains
    refine .mk ?_ obtains binds answered reads closes log given assigned
    cases takes with
    | fresh => exact .fresh
    | kept strategy kept => exact .kept (hstrategy ▸ strategy) kept
    | queued strategy joins => exact .queued (hstrategy ▸ strategy) joins

theorem Called.withCache (h : i.Called config u v r) (cache : LocalCache) :
    i.Called config u (v.withCache cache) r := by
  cases h with
  | mk takes obtains binds answered reads closes log given assigned =>
    exact .mk takes obtains binds answered reads closes log given assigned

end Invocation

namespace SessionM

variable {command : Command} {bounds : RowBounds} {handler : Option RowHandler} {rows : List Value}
  {n : Int}

theorem runQuery_called (hunqueued : u.session.strategy.executorType ≠ .batch)
    (h : (runQuery config command bounds handler).outcome u = (.ok rows, v)) :
    ∃ i r, Invocation.of command u.parameter bounds = .ok i ∧ i.Called config u v r := by
  rw [runQuery, outcome_session_bind] at h
  cases hst : u.session.strategy with
  | simple =>
    rw [hst] at h
    obtain ⟨i, u₁, hi, h⟩ := ok_of_bind_ok h
    obtain ⟨hof, rfl⟩ := Prod.mk.inj hi
    obtain ⟨r, hcalled⟩ := Invocation.called_of_fresh (fun _ _ _ _ => Invocation.query_performed) h
    exact ⟨i, r, hof, hcalled⟩
  | reuse m =>
    rw [hst] at h
    obtain ⟨i, u₁, hi, h⟩ := ok_of_bind_ok h
    obtain ⟨hof, rfl⟩ := Prod.mk.inj hi
    obtain ⟨r, hcalled⟩ :=
      Invocation.called_of_kept hst (fun _ _ _ _ => Invocation.query_performed) h
    exact ⟨i, r, hof, hcalled⟩
  | batch queue =>
    rw [hst] at hunqueued
    exact absurd rfl hunqueued

/-- Procedures are called whatever is in the cache. -/
theorem query_called (hkind : command.statementKind = .callable)
    (hunqueued : u.session.strategy.executorType ≠ .batch)
    (h : (query config command bounds handler).outcome u = (.ok rows, v)) :
    ∃ i r, Invocation.of command u.parameter bounds = .ok i ∧ i.Called config u v r := by
  cases hopen : u.session.closed with
  | true =>
    rw [query_of_closed hopen] at h
    cases h
  | false =>
    have huncached : command.isCached handler = false := by simp [Command.isCached, hkind]
    obtain ⟨cache, hcache⟩ : ∃ cache, u.flushedFor command = u.withCache cache :=
      ⟨_, u.flushedFor_eq command⟩
    rw [query_of_open hopen, huncached, if_neg (by simp), hcache] at h
    rcases hx : (runQuery config command bounds handler).outcome (u.withCache cache) with
      ⟨e | rows', w⟩ <;> rw [hx] at h
    · cases h
    · obtain ⟨i, r, hi, hcalled⟩ := runQuery_called (u := u.withCache cache) hunqueued hx
      obtain ⟨-, rfl⟩ := Prod.mk.inj h
      refine ⟨i, r, hi, ?_⟩
      split
      · exact (hcalled.of_session rfl rfl).withCache .empty
      · exact hcalled.of_session rfl rfl

theorem carryOut_called (hkeys : i.command.keys = .none)
    (hunqueued : u.session.strategy.executorType ≠ .batch)
    (h : (carryOut config i).outcome u = (.ok n, v)) : ∃ r, i.Called config u v r := by
  rw [carryOut, outcome_session_bind] at h
  cases hst : u.session.strategy with
  | simple =>
    rw [hst] at h
    exact Invocation.called_of_fresh (fun _ _ _ _ => execute_performed hkeys) h
  | reuse m =>
    rw [hst] at h
    exact Invocation.called_of_kept hst (fun _ _ _ _ => execute_performed hkeys) h
  | batch queue =>
    rw [hst] at hunqueued
    exact absurd rfl hunqueued

theorem mutate_called (hkeys : command.keys = .none)
    (hunqueued : u.session.strategy.executorType ≠ .batch)
    (h : (mutate config command).outcome u = (.ok n, v)) :
    ∃ i r, Invocation.of command u.parameter .all = .ok i ∧ i.Called config u v r := by
  cases hopen : u.session.closed with
  | true =>
    rw [mutate_of_closed hopen] at h
    cases h
  | false =>
    have hbefore : (Keys.before config command).outcome (u.withCache .empty) =
        (.ok (), u.withCache .empty) := by
      rw [Keys.before, hkeys]
      rfl
    rw [mutate_of_open hopen, outcome_bind_of_ok hbefore] at h
    obtain ⟨i, u₁, hi, h⟩ := ok_of_bind_ok h
    obtain ⟨hof, rfl⟩ := Prod.mk.inj hi
    have hkeys' : i.command.keys = .none := by rw [Invocation.command_of hof, hkeys]
    obtain ⟨r, hcalled⟩ := carryOut_called (u := u.withCache .empty) hkeys' hunqueued h
    exact ⟨i, r, hof, hcalled.of_session rfl rfl⟩

end SessionM

namespace Session

variable {op : Operation} {id : String} {bounds : RowBounds} {c : Command} {a : Answer}

theorem perform_called (hruns : op.Runs id bounds) (hc : config.registry.find? id = some c)
    (hkind : c.statementKind = .callable) (hkeys : c.keys = .none)
    (hunqueued : u.session.strategy.executorType ≠ .batch)
    (hlone : ∀ items, u.parameter ≠ .single (.array items))
    (h : (op.perform config).outcome u = (.ok a, v)) :
    ∃ i r, Invocation.of c u.parameter bounds = .ok i ∧ i.Called config u v r := by
  cases hruns with
  | mutation hop =>
    have hnot : ∀ items, (u.withDirty true).parameter ≠ .single (.array items) := hlone
    rw [perform_mutation config hop, mutate, command_bind_of_found hc,
      SessionM.outcome_changeSession_bind] at h
    change (((wrapped _).outcome (u.withDirty true)).1.map _,
      ((wrapped _).outcome (u.withDirty true)).2) = _ at h
    rw [wrapped_of_not_lone hnot] at h
    rcases hx : (SessionM.mutate config c).outcome (u.withDirty true) with ⟨e | n, w⟩ <;>
      rw [hx] at h <;> cases h
    obtain ⟨i, r, hi, hcalled⟩ := SessionM.mutate_called (u := u.withDirty true) hkeys hunqueued hx
    exact ⟨i, r, hi, hcalled.of_session rfl rfl⟩
  | query hop =>
    have hfollows := perform_query config hop u
    obtain ⟨rows, hrows⟩ := hfollows.ok a (congrArg Prod.fst h)
    have hstate := hfollows.state
    rw [h] at hstate
    have hquery : (query config id bounds _).outcome u = (.ok rows, v) := Prod.ext hrows hstate.symm
    rw [query, command_bind_of_found hc, wrapped_of_not_lone hlone] at hquery
    exact SessionM.query_called hkind hunqueued hquery

end Session

theorem Parameter.lookup_of_given {outputs : List (Nat × String)} {p q : Parameter}
    (hgiven : List.Forall₂ (fun c out => r.outValues.lookup c.1 = some out) outputs outs)
    (hassigned : p.assignAll ((outputs.map Prod.snd).zip outs) = .ok q)
    (hapart : outputs.Pairwise fun x y => PathsApart (segments x.2) (segments y.2))
    {c : Nat × String} (hc : c ∈ outputs) :
    ∃ out, r.outValues.lookup c.1 = some out ∧ q.lookup c.2 = .ok out := by
  obtain ⟨k, hk, rfl⟩ := List.mem_iff_getElem.mp hc
  have hk' : k < outs.length := hgiven.length_eq ▸ hk
  have hpairwise : ((outputs.map Prod.snd).zip outs).Pairwise
      fun w w' => PathsApart (segments w.1) (segments w'.1) := by
    have hfst : ((outputs.map Prod.snd).zip outs).map Prod.fst = outputs.map Prod.snd :=
      List.map_fst_zip (by rw [List.length_map, hgiven.length_eq])
    have hproperties : (outputs.map Prod.snd).Pairwise
        fun x y => PathsApart (segments x) (segments y) := List.pairwise_map.mpr hapart
    rw [← hfst, List.pairwise_map] at hproperties
    exact hproperties
  have hlength : k < ((outputs.map Prod.snd).zip outs).length := by
    rw [List.length_zip, List.length_map]
    exact Nat.lt_min.mpr ⟨hk, hk'⟩
  have hmem : (outputs[k].2, outs[k]) ∈ (outputs.map Prod.snd).zip outs :=
    List.mem_iff_getElem.mpr ⟨k, hlength, by simp⟩
  have hout := (List.forall₂_iff_get.mp hgiven).2 k hk hk'
  have hread := lookup_of_assignAll hassigned hpairwise hmem
  exact ⟨outs[k], hout, hread⟩

namespace Session

variable {op : Operation} {id : String} {bounds : RowBounds} {c : Command} {a : Answer}

/-- A mutation or a query that calls a procedure, and goes well, does so whatever was called before: the
outputs are registered, the inputs bound, and after the execution the outputs are read. If no two of
them are for one matter, each property has what the database gave at its position, and what is another
matter is as it was. -/
theorem perform_reads_outputs (hruns : op.Runs id bounds)
    (hc : config.registry.find? id = some c) (hkind : c.statementKind = .callable)
    (hkeys : c.keys = .none) (hunqueued : u.session.strategy.executorType ≠ .batch)
    (hlone : ∀ items, u.parameter ≠ .single (.array items))
    (h : (op.perform config).outcome u = (.ok a, v)) :
    ∃ i r, Invocation.of c u.parameter bounds = .ok i ∧ i.Called config u v r ∧
      i.bound.Positions ParameterMode.isInput i.inputs ∧
      i.bound.Positions ParameterMode.isOutput i.outputs ∧
      (i.outputs.Pairwise (fun x y => PathsApart (segments x.2) (segments y.2)) →
        (∀ n property, (n, property) ∈ i.outputs →
          ∃ out, r.outValues.lookup n = some out ∧ v.parameter.lookup property = .ok out) ∧
        ∀ property value, (∀ e ∈ i.outputs, PathsApart (segments e.2) (segments property)) →
          u.parameter.lookup property = .ok value → v.parameter.lookup property = .ok value) := by
  obtain ⟨i, r, hi, hcalled⟩ := perform_called hruns hc hkind hkeys hunqueued hlone h
  have hcallable : i.command.statementKind = .callable := by rw [Invocation.command_of hi, hkind]
  obtain ⟨hinputs, houtputs⟩ := Invocation.positions hcallable
  refine ⟨i, r, hi, hcalled, hinputs, houtputs, fun hapart => ?_⟩
  cases hcalled with
  | mk takes obtains binds answered reads closes log given assigned =>
    refine ⟨fun n property hmem => lookup_of_given given assigned hapart hmem,
      fun property value hother hvalue => ?_⟩
    have hwritten := writtenAt_of_assignAll (P := (· ∈ i.outputs.map Prod.snd)) assigned
      fun w hw => (List.of_mem_zip hw).1
    refine (hwritten.lookup fun written hmem => ?_).eq_ok hvalue
    obtain ⟨e, he, rfl⟩ := List.mem_map.mp hmem
    exact hother e he

end Session

end Called

/-- A procedure that moves what is in a box, and tells where it is then. -/
def moveCommand : Command :=
  { smallCommand "move" .select "CALL move(?, ?, ?)" with
    source := .template ⟨"CALL move(?, ?, ?)",
      [⟨"by", .input⟩, ⟨"box.at", .inOut⟩, ⟨"note", .output⟩]⟩
    statementKind? := some .callable }

def moveConfig : Configuration := { smallConfig with registry := .insert .empty moveCommand }

def moveParameter : Parameter :=
  .named [("box", .object [("at", .int 1), ("unit", .string "m")]), ("by", .int 2), ("note", .null)]

def moveResponse (time : Nat) : Response :=
  { Response.empty with
    outValues := [(2, .int (if time < 10 then 3 else 4)), (3, .string "moved")] }

def moveScope : Scope where
  database := .ofScript ⟨fun time => [("CALL move(?, ?, ?)", moveResponse time)]⟩
  session := .new .reuse (.overSource false none) false
  parameter := moveParameter
  handled := []

def move : Session.Operation := .selectList "move" .all

def movedScope : Scope :=
  { ((move.perform moveConfig).outcome moveScope).2 with parameter := moveParameter }

/-- The same query once more: it is made again, and what it has then is read. -/
theorem second_move_read :
    ∃ (a : Session.Answer) (v : Scope) (i : Invocation) (r : Response),
      (move.perform moveConfig).outcome movedScope = (.ok a, v) ∧
      i.Called moveConfig movedScope v r ∧ i.outputs = [(2, "box.at"), (3, "note")] ∧
      v.database.log = movedScope.database.log ++ [⟨.registerOut ⟨0⟩ 2, .succeeded⟩,
        ⟨.registerOut ⟨0⟩ 3, .succeeded⟩, ⟨.bind ⟨0⟩ 1 (.int 2), .succeeded⟩,
        ⟨.bind ⟨0⟩ 2 (.int 1), .succeeded⟩, ⟨.execute ⟨0⟩ "CALL move(?, ?, ?)", .succeeded⟩,
        ⟨.nextRow ⟨0⟩, .succeeded⟩, ⟨.outParameter ⟨0⟩ 2, .succeeded⟩,
        ⟨.outParameter ⟨0⟩ 3, .succeeded⟩] ∧
      (∃ out, r.outValues.lookup 2 = some out ∧ v.parameter.lookup "box.at" = .ok out) ∧
      v.parameter.lookup "box.at" = .ok (.int 4) ∧
      v.parameter.lookup "box.unit" = .ok (.string "m") := by
  have h : (move.perform moveConfig).outcome movedScope =
      (.ok (.rows []), ((move.perform moveConfig).outcome movedScope).2) := rfl
  have hlone : ∀ items, movedScope.parameter ≠ .single (.array items) := fun _ h => by cases h
  obtain ⟨i, r, hi, hcalled, -, -, hread⟩ :=
    Session.perform_reads_outputs (.query rfl) rfl rfl rfl (by decide) hlone h
  have houtputs : i.outputs = [(2, "box.at"), (3, "note")] := by
    cases hi
    rfl
  rw [houtputs] at hread
  have hapart : PathsApart (segments "box.at") (segments "note") :=
    pathsApart_of_head_ne (by decide) _ _
  have hunit : PathsApart (segments "box.at") (segments "box.unit") :=
    pathsApart_cons_iff.mpr (pathsApart_of_head_ne (by decide) _ _)
  have hnote : PathsApart (segments "note") (segments "box.unit") :=
    pathsApart_of_head_ne (by decide) _ _
  have hbefore : movedScope.parameter.lookup "box.unit" = .ok (.string "m") :=
    show moveParameter.lookup "box.unit" = _ from rfl
  obtain ⟨hgiven, hothers⟩ := hread (by simpa using hapart)
  refine ⟨_, _, i, r, h, hcalled, houtputs, rfl, hgiven 2 "box.at" (by decide), rfl, ?_⟩
  exact hothers "box.unit" (.string "m") (by simp [hunit, hnote]) hbefore

end SqlMapper
