import SqlMapper.Proofs.Batch.Accepting
import SqlMapper.Proofs.Session.Custody
import SqlMapper.Proofs.Session.Idle
import SqlMapper.Proofs.Session.Invoking

namespace SqlMapper

open Fallible

inductive Call.Opens : Call → Prop where
  | connect (c : Connection) : Opens (.connect c)
  | readMode (c : Connection) : Opens (.readAutoCommit c)
  | setMode (c : Connection) (mode : Bool) : Opens (.setAutoCommit c mode)

def Database.Makes (P : Call → Prop) (db db' : Database) : Prop :=
  ∃ calls, db'.log = db.log ++ calls ∧ ∀ e ∈ calls, P e.call

/-- The calls by which a run gets the statement `s` and gives it what it has in `p`. -/
inductive Invocation.Readies (i : Invocation) (p : Parameter) (s : Statement) : Call → Prop where
  | opening {call : Call} (h : call.Opens) : Readies i p s call
  | prepare (c : Connection) : Readies i p s (.prepare c s i.form)
  | timeout (seconds : Nat) : Readies i p s (.setTimeout s seconds)
  | fetchSize (rows : Nat) : Readies i p s (.setFetchSize s rows)
  | output {c : Nat × String} (h : c ∈ i.outputs) : Readies i p s (.registerOut s c.1)
  | input {c : Nat × String} {value : Value} (h : c ∈ i.inputs) (hv : p.lookup c.2 = .ok value) :
    Readies i p s (.bind s c.1 value)
  | close (sql : String) : Readies i p s (.closeStatement s sql)

/-- All the calls of a run. The text that it executes or queues is `sql`. -/
inductive Invocation.Issues (i : Invocation) (p : Parameter) (s : Statement) (sql : String) :
    Call → Prop where
  | ready {call : Call} (h : i.Readies p s call) : Issues i p s sql call
  | execute : Issues i p s sql (.execute s sql)
  | entry : Issues i p s sql (.addBatch s sql)
  | row : Issues i p s sql (.nextRow s)
  | output {c : Nat × String} (h : c ∈ i.outputs) : Issues i p s sql (.outParameter s c.1)

/-- The statement that a mutation gets in `u`, and the text that it then has to execute: a new one
for its own text, or one that is kept or queued for it. -/
inductive Invocation.Takes (i : Invocation) (u : Scope) : Statement → String → Prop where
  | fresh : Takes i u ⟨u.database.statements.length⟩ i.bound.sql
  | kept {m : NameMap Statement} {s : Statement} (strategy : u.session.strategy = .reuse m)
    (kept : m.get? i.bound.sql = some s) : Takes i u s (i.text.getD (u.database.statement s).sql)
  | queued {init : List QueuedStatement} {last : QueuedStatement}
    (strategy : u.session.strategy = .batch (init ++ [last]))
    (joins : last.command.id = i.command.id ∧ last.sql = i.bound.sql) :
    Takes i u last.statement (i.text.getD (u.database.statement last.statement).sql)

namespace Database.Makes

variable {α : Type} {P Q : Call → Prop} {base db db' : Database}

theorem refl (P : Call → Prop) (db : Database) : db.Makes P db :=
  ⟨[], (List.append_nil _).symm, nofun⟩

theorem mono (h : base.Makes P db) (hPQ : ∀ call, P call → Q call) : base.Makes Q db := by
  obtain ⟨calls, hlog, hcalls⟩ := h
  exact ⟨calls, hlog, fun e he => hPQ _ (hcalls e he)⟩

theorem snoc {e : LogEntry} (h : base.Makes P db) (hlog : db'.log = db.log ++ [e])
    (he : P e.call) : base.Makes P db' := by
  obtain ⟨calls, hcalls, hP⟩ := h
  refine ⟨calls ++ [e], ?_, fun e' he' => ?_⟩
  · rw [hlog, hcalls, List.append_assoc]
  · obtain he' | he' := List.mem_append.mp he'
    · exact hP e' he'
    · cases List.mem_singleton.mp he'
      exact he

theorem record {call : Call} (h : base.Makes P db) (hcall : P call) (o : CallOutcome) :
    base.Makes P (db.record call o) := h.snoc rfl hcall

theorem maintains {call : Database → Call} {refusal : Database → Option Error}
    {act : Database → Database → Except Error α × Database} (hcall : ∀ db, P (call db))
    (hact : ∀ db, (act db db).2.log = db.log) :
    Maintains (base.Makes P) (.of fun db => perform (call db) (refusal db) (act db) db)
      fun _ => True := by
  refine Leads.maintains (Leads.perform (fun db h _ => h.record (hcall db) _)
    (fun db e db' h hr => ?_) fun db a db' h hr => ?_) <;>
  · have hlog := hact db
    rw [hr] at hlog
    exact h.snoc (congrArg (· ++ _) hlog) (hcall db)

end Database.Makes

section Calls

variable {P : Call → Prop} {base : Database} {s : Statement}

theorem Transaction.acquire_makes (t : Transaction) (hP : ∀ call : Call, call.Opens → P call) :
    Maintains (base.Makes P) t.acquire fun _ => True := by
  unfold acquire
  split
  · exact .pure trivial
  · exact (t.openConnection_maintains
      (Database.Makes.maintains (fun _ => hP _ (.connect _)) fun _ => rfl)
      (fun _ => Database.Makes.maintains (fun _ => hP _ (.readMode _)) fun _ => rfl)
      fun _ _ => Database.Makes.maintains (fun _ => hP _ (.setMode _ _)) fun _ => rfl).bind
        fun _ _ => .pure trivial

namespace Statement

theorem nextRow_makes (hP : P (.nextRow s)) :
    Maintains (base.Makes P) s.nextRow fun _ => True := by
  refine Database.Makes.maintains (fun _ => hP) fun db => ?_
  dsimp only
  split
  · rfl
  · split <;> rfl

theorem outParameter_makes {index : Nat} (hP : P (.outParameter s index)) :
    Maintains (base.Makes P) (s.outParameter index) fun _ => True := by
  refine Database.Makes.maintains (fun _ => hP) fun db => ?_
  split <;> rfl

theorem closeQuietly_makes (hP : ∀ sql, P (.closeStatement s sql)) :
    Maintains (base.Makes P) s.closeQuietly fun _ => True := by
  intro db h
  have hclosed : s.isClosed.outcome db = (.ok (db.statement s).closed, db) := rfl
  refine ⟨?_, fun _ _ => trivial⟩
  cases hc : (db.statement s).closed with
  | false =>
    obtain ⟨sql, o, hlog⟩ := closeQuietly_log hc
    exact h.snoc hlog (hP sql)
  | true =>
    rw [closeQuietly, outcome_bind_of_ok hclosed, hc]
    exact h

end Statement

theorem Invocation.takeOutputs_makes {i : Invocation}
    (hP : ∀ c ∈ i.outputs, P (.outParameter s c.1)) :
    Maintains (fun u : Scope => base.Makes P u.database) (i.takeOutputs s) fun _ => True := by
  refine .forM fun c hc => ?_
  have hread : Maintains (fun u : Scope => base.Makes P u.database)
      (liftM (s.outParameter c.1) : SessionM Value) fun _ => True :=
    (Statement.outParameter_makes (hP c hc)).within (fun _ h => h) fun _ _ _ h => h
  exact hread.bind fun _ _ => fun _ h => ⟨h, fun _ _ => trivial⟩

theorem Invocation.results_makes {i : Invocation} (mapper : RowMapper)
    (handler : Option RowHandler) (hrow : P (.nextRow s))
    (houtput : ∀ c ∈ i.outputs, P (.outParameter s c.1)) :
    Maintains (fun u : Scope => base.Makes P u.database)
      (do
        let rows ← Reading.window s (mapper · i.command.resultType) i.bounds handler
        i.takeOutputs s
        return rows) fun _ => True := by
  have hwindow : Maintains (fun u : Scope => base.Makes P u.database)
      (Reading.window s (mapper · i.command.resultType) i.bounds handler) fun _ => True :=
    Reading.window_maintains (Statement.nextRow_makes hrow) (fun _ h => h) (fun _ _ _ h => h)
      (fun _ _ h => h) _ i.bounds handler
  exact hwindow.bind fun _ _ => (takeOutputs_makes houtput).bind fun _ _ => .pure trivial

end Calls

namespace Invocation

section Readying

variable {I : Database → Prop} {i : Invocation} {p : Parameter} {s : Statement} {base db : Database}
  {settings : Settings} {timeout : Option Nat} {text : String}

theorem applySettings_readies
    (hI : ∀ db call o, i.Readies p s call → I db → I (db.record call o)) :
    Maintains I (i.applySettings settings timeout s) fun _ => True := by
  have htimeout : ∀ seconds, Maintains I (s.setTimeout seconds) fun _ => True := fun seconds =>
    Database.maintains_of_record fun db o => hI db _ o (.timeout seconds)
  have hfetchSize : ∀ rows, Maintains I (s.setFetchSize rows) fun _ => True := fun rows =>
    Database.maintains_of_record fun db o => hI db _ o (.fetchSize rows)
  unfold applySettings
  dsimp only
  split
  · refine (htimeout _).bind fun _ _ => ?_
    split
    · exact hfetchSize _
    · exact .pure trivial
  · split
    · exact hfetchSize _
    · exact .pure trivial

theorem parameterize_readies
    (hI : ∀ db call o, i.Readies p s call → I db → I (db.record call o)) :
    Maintains I (i.parameterize p s) fun _ => True := by
  refine (Maintains.forM fun c hc =>
    Database.maintains_of_record fun db o => hI db _ o (.output hc)).bind fun _ _ =>
      .forM fun c hc => ?_
  exact (Maintains.ending (V := fun value => p.lookup c.2 = .ok value) fun _ hv => hv).bind
    fun value hv => Database.maintains_of_record fun db o => hI db _ o (.input hc hv)

/-- Since `base` the run has been making its statement ready, which still has this text. -/
structure Readying (i : Invocation) (p : Parameter) (s : Statement) (base : Database)
    (text : String) (db : Database) : Prop where
  makes : base.Makes (i.Readies p s) db
  text : (db.statement s).sql = text

theorem Readying.record {call : Call} (h : i.Readying p s base text db)
    (hcall : i.Readies p s call) (o : CallOutcome) :
    i.Readying p s base text (db.record call o) :=
  ⟨h.makes.record hcall o, h.text⟩

structure Poised (i : Invocation) (p : Parameter) (s : Statement) (sql : String)
    (base db : Database) : Prop where
  makes : base.Makes (i.Issues p s sql) db
  text : i.text.getD (db.statement s).sql = sql

theorem Readying.poised (h : i.Readying p s base text db) :
    i.Poised p s (i.text.getD text) base db :=
  ⟨h.makes.mono fun _ hcall => .ready hcall, congrArg _ h.text⟩

theorem applySettings_readying :
    Maintains (i.Readying p s base text) (i.applySettings settings timeout s) fun _ => True :=
  applySettings_readies (p := p) fun _ _ o hcall h => h.record hcall o

theorem parameterize_readying :
    Maintains (i.Readying p s base text) (i.parameterize p s) fun _ => True :=
  parameterize_readies fun _ _ o hcall h => h.record hcall o

theorem parameterize_poised (i : Invocation) (p : Parameter) (s : Statement) (base : Database)
    (text : String) :
    Leads (i.Readying p s base text) (i.parameterize p s)
      (fun _ => i.Poised p s (i.text.getD text) base)
      (base.Makes (i.Issues p s (i.text.getD text))) :=
  parameterize_readying.leads.weaken (fun _ h => h) (fun _ _ h => h.poised) fun _ h => h.poised.makes

theorem Readying.leads {x : Statement → DriverM Unit}
    (h : Maintains (i.Readying p s base text) (x s) fun _ => True) (s' : Statement) :
    Leads (fun db => s' = s ∧ i.Readying p s base text db) (x s')
      (fun _ db => s' = s ∧ i.Readying p s base text db) (base.Makes (i.Readies p s)) := by
  rintro db ⟨rfl, hdb⟩
  exact h.leads.weaken (fun _ h => h) (fun _ _ h => ⟨rfl, h⟩) (fun _ h => h.makes) db hdb

theorem Readying.orClose {x : Statement → DriverM Unit}
    (h : Maintains (i.Readying p s base text) (x s) fun _ => True) (s' : Statement) :
    Leads (fun db => s' = s ∧ i.Readying p s base text db) ((x s').orUndo s'.closeQuietly)
      (fun _ db => s' = s ∧ i.Readying p s base text db) (base.Makes (i.Readies p s)) := by
  rintro db ⟨rfl, hdb⟩
  have hclose : Maintains (base.Makes (i.Readies p s')) s'.closeQuietly fun _ => True :=
    Statement.closeQuietly_makes fun sql => .close sql
  exact ((h.leads.weaken_error fun _ h => h.makes).orUndo hclose.leads).weaken (fun _ h => h)
    (fun _ _ h => ⟨rfl, h⟩) (fun _ h => h) db hdb

/-- The run has yet to create its statement, which has the number that comes next. -/
structure Starting (i : Invocation) (p : Parameter) (s : Statement) (base db : Database) :
    Prop where
  makes : base.Makes (i.Readies p s) db
  next : s = ⟨db.statements.length⟩

theorem prepare_readies (c : Connection) :
    Leads (i.Starting p s base) (i.prepare settings timeout c)
      (fun s' db => s' = s ∧ i.Readying p s base i.form.sql db) (base.Makes (i.Readies p s)) := by
  have hcreate : Leads (i.Starting p s base) (c.prepare i.form)
      (fun s' db => s' = s ∧ i.Readying p s base i.form.sql db) (base.Makes (i.Readies p s)) := by
    refine Leads.perform (fun db h _ => ?_) (fun db e db' _ hr => ?_) fun db s' db' h hr => ?_
    · exact h.makes.record (h.next ▸ .prepare c) _
    · cases hr
    · cases hr
      obtain ⟨hmakes, rfl⟩ := h
      refine ⟨rfl, hmakes.snoc rfl (.prepare c), ?_⟩
      exact congrArg StatementState.sql (db.statement_adding_new i.form.sql)
  exact hcreate.bind fun s' => (Readying.orClose applySettings_readying s').bind fun _ =>
    .pure fun _ h => h

theorem acquire_starting (t : Transaction) :
    Maintains (i.Starting p s base) t.acquire fun _ => True := by
  intro db h
  have hlength := (t.acquire_idles db (.refl db)).1.length
  refine ⟨⟨(t.acquire_makes (fun _ hc => .opening hc) db h.makes).1, ?_⟩, fun _ _ => trivial⟩
  rw [hlength]
  exact h.next

end Readying

end Invocation

structure Scope.Sees (p : Parameter) (J : Database → Prop) (u : Scope) : Prop where
  database : J u.database
  parameter : u.parameter = p

namespace SessionM

variable {α : Type} {p : Parameter} {J F : Database → Prop}

theorem lift_sees {x : DriverM α} {G : α → Database → Prop} (h : Leads J x G F) :
    Leads (Scope.Sees p J) (liftM x : SessionM α) (fun a => Scope.Sees p (G a))
      (Scope.Sees p F) := by
  intro u hu
  rw [outcome_lift]
  refine ⟨fun a v hv => ?_, fun e v hv => ?_⟩ <;> obtain ⟨hx, rfl⟩ := Prod.mk.inj hv
  · exact ⟨h.ok (Prod.ext hx rfl) hu.database, hu.parameter⟩
  · exact ⟨h.error (Prod.ext hx rfl) hu.database, hu.parameter⟩

theorem lift_database {x : DriverM α} {G : α → Database → Prop} (h : Leads J x G F) :
    Leads (fun u : Scope => J u.database) (liftM x : SessionM α) (fun a u => G a u.database)
      (fun u => F u.database) := by
  intro u hu
  have hsees := lift_sees (p := u.parameter) h u ⟨hu, rfl⟩
  exact ⟨fun a v hv => (hsees.1 a v hv).database, fun e v hv => (hsees.2 e v hv).database⟩

theorem session_sees : Maintains (Scope.Sees p J) session fun _ => True :=
  fun _ hu => ⟨hu, fun _ _ => trivial⟩

theorem changeSession_sees (f : Session → Session) :
    Maintains (Scope.Sees p J) (changeSession f) fun _ => True :=
  .change fun _ hu => ⟨hu.database, hu.parameter⟩

theorem parameter_bind_sees {f : Parameter → SessionM α} {Q : α → Scope → Prop}
    {E : Scope → Prop} (h : Leads (Scope.Sees p J) (f p) Q E) :
    Leads (Scope.Sees p J) (parameter >>= f) Q E := by
  intro u hu
  rw [outcome_parameter_bind, hu.parameter]
  exact h u hu

theorem connection_sees (h : ∀ t : Transaction, Maintains J t.acquire fun _ => True) :
    Maintains (Scope.Sees p J) connection fun _ => True :=
  session_sees.bind fun w _ => (lift_sees (h w.transaction).leads).maintains.bind fun _ _ =>
    (changeSession_sees _).bind fun _ _ => .pure trivial

end SessionM

section Getting

variable {i : Invocation} {p : Parameter} {s : Statement} {base : Database} {settings : Settings}

theorem SessionM.connection_starting :
    Leads (Scope.Sees p (i.Starting p s base)) connection
      (fun _ => Scope.Sees p (i.Starting p s base)) (Scope.Sees p (base.Makes (i.Readies p s))) :=
  (connection_sees Invocation.acquire_starting).leads.weaken_error fun _ h =>
    ⟨h.database.makes, h.parameter⟩

theorem Invocation.freshStatement_readies :
    Leads (Scope.Sees p (i.Starting p s base)) (i.freshStatement settings)
      (fun s' => Scope.Sees p fun db => s' = s ∧ i.Readying p s base i.form.sql db)
      (Scope.Sees p (base.Makes (i.Readies p s))) :=
  (SessionM.session_sees.leads.weaken_error fun _ h => ⟨h.database.makes, h.parameter⟩).bind
    fun _ => SessionM.connection_starting.bind fun c =>
      (SessionM.lift_sees (prepare_readies c)).bind fun s' => SessionM.parameter_bind_sees
        ((SessionM.lift_sees (Readying.orClose parameterize_readying s')).bind fun _ =>
          .pure fun _ h => h)

/-- What getting the statement of a run comes to: it is the one that the run takes, and it is ready if
one is answered. -/
structure Invocation.Readied (i : Invocation) (u : Scope) (s : Statement) (sql : String)
    (r : Except Error Statement) (v : Scope) : Prop where
  takes : i.Takes u s sql
  makes : u.database.Makes (i.Readies u.parameter s) v.database
  parameter : v.parameter = u.parameter
  answer : ∀ s', r = .ok s' → s' = s ∧ i.text.getD (v.database.statement s).sql = sql

variable {u : Scope} {m : NameMap Statement}

theorem Invocation.Readied.of_leads {x : SessionM Statement}
    (h : ∀ s, Leads (Scope.Sees u.parameter (i.Starting u.parameter s u.database)) x
      (fun s' => Scope.Sees u.parameter fun db =>
        s' = s ∧ i.Readying u.parameter s u.database i.form.sql db)
      (Scope.Sees u.parameter (u.database.Makes (i.Readies u.parameter s)))) :
    i.Readied u ⟨u.database.statements.length⟩ i.bound.sql (x.outcome u).1 (x.outcome u).2 := by
  have hstart : Scope.Sees u.parameter
      (i.Starting u.parameter ⟨u.database.statements.length⟩ u.database) u :=
    ⟨⟨.refl _ _, rfl⟩, rfl⟩
  rcases hx : x.outcome u with ⟨e | s', v⟩
  · have hv := (h _).error hx hstart
    exact ⟨.fresh, hv.database, hv.parameter, nofun⟩
  · have hv := (h _).ok hx hstart
    refine ⟨.fresh, hv.database.2.makes, hv.parameter, fun s' hs' => ?_⟩
    cases hs'
    refine ⟨hv.database.1, ?_⟩
    rw [hv.database.2.text]
    exact i.text_getD_form

theorem Invocation.freshStatement_readied (settings : Settings) (i : Invocation) (u : Scope) :
    i.Readied u ⟨u.database.statements.length⟩ i.bound.sql ((i.freshStatement settings).outcome u).1
      ((i.freshStatement settings).outcome u).2 :=
  .of_leads fun _ => freshStatement_readies

theorem Reuse.create_readied (settings : Settings) (m : NameMap Statement) (i : Invocation)
    (u : Scope) :
    i.Readied u ⟨u.database.statements.length⟩ i.bound.sql ((create settings m i).outcome u).1
      ((create settings m i).outcome u).2 := by
  refine Invocation.Readied.of_leads fun s => ?_
  have hset : ∀ s', Leads
      (Scope.Sees u.parameter fun db => s' = s ∧ i.Readying u.parameter s u.database i.form.sql db)
      (setStatements (m.insert i.bound.sql s'))
      (fun _ => Scope.Sees u.parameter fun db =>
        s' = s ∧ i.Readying u.parameter s u.database i.form.sql db)
      (Scope.Sees u.parameter (u.database.Makes (i.Readies u.parameter s))) := fun s' =>
    .change fun _ h => ⟨h.database, h.parameter⟩
  exact (SessionM.session_sees.leads.weaken_error fun _ h => ⟨h.database.makes, h.parameter⟩).bind
    fun _ => SessionM.parameter_bind_sees (SessionM.connection_starting.bind fun c =>
      (SessionM.lift_sees (Invocation.prepare_readies c)).bind fun s' => (hset s').bind fun _ =>
        (SessionM.lift_sees (Invocation.Readying.leads Invocation.parameterize_readying s')).bind
          fun _ => .pure fun _ h => h)

theorem Reuse.renew_readied (settings : Settings) (i : Invocation)
    (hst : u.session.strategy = .reuse m) (hs : m.get? i.bound.sql = some s) :
    i.Readied u s (i.text.getD (u.database.statement s).sql) ((renew settings i s).outcome u).1
      ((renew settings i s).outcome u).2 := by
  have hready : Maintains (Scope.Sees u.parameter
      (i.Readying u.parameter s u.database (u.database.statement s).sql))
      (do
        i.applySettings settings u.session.transaction.timeout s
        i.parameterize u.parameter s
        return s : SessionM Statement) fun s' => s' = s :=
    (SessionM.lift_sees Invocation.applySettings_readying.leads).maintains.bind fun _ _ =>
      (SessionM.lift_sees Invocation.parameterize_readying.leads).maintains.bind fun _ _ =>
        .pure rfl
  rw [renew, SessionM.outcome_session_bind, SessionM.outcome_parameter_bind]
  obtain ⟨hv, hs'⟩ := hready u ⟨⟨.refl _ _, rfl⟩, rfl⟩
  exact ⟨.kept hst hs, hv.database.makes, hv.parameter, fun s' h =>
    ⟨hs' s' h, congrArg _ hv.database.text⟩⟩

theorem Reuse.statement_readied (settings : Settings) (i : Invocation)
    (hst : u.session.strategy = .reuse m) :
    ∃ s sql, i.Readied u s sql ((statement settings m i).outcome u).1
      ((statement settings m i).outcome u).2 := by
  cases hs : m.get? i.bound.sql with
  | none =>
    rw [statement_of_missing hs]
    exact ⟨_, _, create_readied settings m i u⟩
  | some s =>
    cases hclosed : (u.database.statement s).closed with
    | false =>
      rw [statement_of_open hs hclosed]
      exact ⟨_, _, renew_readied settings i hst hs⟩
    | true =>
      rw [statement_of_closed hs hclosed]
      have hready := create_readied settings (m.erase i.bound.sql) i
        { u with session := { u.session with strategy := .reuse (m.erase i.bound.sql) } }
      exact ⟨_, _, .fresh, hready.makes, hready.parameter, hready.answer⟩

end Getting

/-- Taking outputs stops at one that cannot be read, or whose value cannot be assigned. -/
inductive Invocation.Stuck (s : Statement) : List (Nat × String) → Parameter → List LogEntry → Prop where
  | unread {c : Nat × String} {rest : List (Nat × String)} {p : Parameter} {o : CallOutcome}
    (ho : o ≠ .succeeded) : Stuck s (c :: rest) p [⟨.outParameter s c.1, o⟩]
  | unassigned {c : Nat × String} {rest : List (Nat × String)} {p : Parameter} {value : Value}
    {e : Error} (h : p.assign c.2 value = .error e) :
    Stuck s (c :: rest) p [⟨.outParameter s c.1, .succeeded⟩]
  | later {c : Nat × String} {rest : List (Nat × String)} {p q : Parameter} {value : Value}
    {calls : List LogEntry} (h : p.assign c.2 value = .ok q) (tail : Stuck s rest q calls) :
    Stuck s (c :: rest) p (⟨.outParameter s c.1, .succeeded⟩ :: calls)

theorem Statement.outParameter_cases (s : Statement) (index : Nat) (db : Database) :
    (∃ value, (s.outParameter index).outcome db =
      (.ok value, db.record (.outParameter s index) .succeeded)) ∨
    ∃ e, (s.outParameter index).outcome db =
      (.error e, db.record (.outParameter s index) .failed) := by
  rw [outParameter, outcome_of]
  unfold Database.perform
  dsimp only
  cases (db.statement s).outValues.lookup index with
  | some value => exact .inl ⟨value, rfl⟩
  | none => exact .inr ⟨_, rfl⟩

namespace Invocation

variable {i : Invocation} {p : Parameter} {s : Statement} {sql : String} {base : Database}

theorem execute_cases (i : Invocation) (s : Statement) (db : Database) :
    (∃ db', (i.execute s).outcome db = (.ok (), db') ∧
      db'.log = db.log ++ [⟨.execute s (i.text.getD (db.statement s).sql), .succeeded⟩]) ∨
    ∃ e db' o, (i.execute s).outcome db = (.error e, db') ∧ o ≠ .succeeded ∧
      db'.log = db.log ++ [⟨.execute s (i.text.getD (db.statement s).sql), o⟩] := by
  rw [execute, outcome_discard, Statement.execute, outcome_of]
  unfold Database.perform
  dsimp only
  cases db.closedError s with
  | some e => exact .inr ⟨_, _, .refused, rfl, by decide, rfl⟩
  | none =>
    dsimp only
    cases (db.response (i.text.getD (db.statement s).sql)).executeError with
    | some reason => exact .inr ⟨_, _, .failed, rfl, by decide, rfl⟩
    | none => exact .inl ⟨_, rfl, rfl⟩

def takeOutput (s : Statement) (c : Nat × String) : SessionM Unit := do
  let value ← s.outParameter c.1
  SessionM.onParameter (Parameter.write c.2 value)

theorem takeOutputs_eq_forM (i : Invocation) (s : Statement) :
    i.takeOutputs s = i.outputs.forM (takeOutput s) := rfl

theorem takeOutput_cases (s : Statement) (c : Nat × String) (u : Scope) :
    (∃ value v, (takeOutput s c).outcome u = (.ok (), v) ∧
      u.parameter.assign c.2 value = .ok v.parameter ∧
      v.database.log = u.database.log ++ [⟨.outParameter s c.1, .succeeded⟩]) ∨
    ∃ e v o, (takeOutput s c).outcome u = (.error e, v) ∧
      v.database.log = u.database.log ++ [⟨.outParameter s c.1, o⟩] ∧
      (o = .succeeded → ∃ value, u.parameter.assign c.2 value = .error e) := by
  obtain ⟨value, hread⟩ | ⟨e, hread⟩ := s.outParameter_cases c.1 u.database
  · have hvalue : (liftM (s.outParameter c.1) : SessionM Value).outcome u =
        (.ok value, { u with database := u.database.record (.outParameter s c.1) .succeeded }) := by
      rw [SessionM.outcome_lift, hread]
    have hwrite : (takeOutput s c).outcome u =
        ((Parameter.write c.2 value).outcome u.parameter).map id fun q =>
          { u with
            database := u.database.record (.outParameter s c.1) .succeeded
            parameter := q } := outcome_bind_of_ok hvalue
    cases hq : u.parameter.assign c.2 value with
    | ok q =>
      rw [Parameter.write_of_ok hq] at hwrite
      exact .inl ⟨value, _, hwrite, hq, rfl⟩
    | error e =>
      rw [Parameter.write_of_error hq] at hwrite
      exact .inr ⟨e, _, .succeeded, hwrite, rfl, fun _ => ⟨value, hq⟩⟩
  · have hnone : (liftM (s.outParameter c.1) : SessionM Value).outcome u =
        (.error e, { u with database := u.database.record (.outParameter s c.1) .failed }) := by
      rw [SessionM.outcome_lift, hread]
    exact .inr ⟨e, _, .failed, outcome_bind_of_error hnone, rfl, nofun⟩

theorem takeOutputs_cases (i : Invocation) (s : Statement) (u : Scope) :
    (∃ v, (i.takeOutputs s).outcome u = (.ok (), v) ∧ v.database.log = u.database.log ++
      i.outputs.map fun c => ⟨.outParameter s c.1, .succeeded⟩) ∨
    ∃ e v calls, (i.takeOutputs s).outcome u = (.error e, v) ∧
      v.database.log = u.database.log ++ calls ∧ Stuck s i.outputs u.parameter calls := by
  rw [takeOutputs_eq_forM]
  generalize i.outputs = outputs
  induction outputs generalizing u with
  | nil => exact .inl ⟨u, rfl, (List.append_nil _).symm⟩
  | cons c outputs ih =>
    obtain ⟨value, v, htake, hq, hlog⟩ | ⟨e, v, o, htake, hlog, ho⟩ :=
      takeOutput_cases s c u
    · obtain ⟨w, hrest, hcalls⟩ | ⟨e, w, calls, hrest, hcalls, hstuck⟩ := ih v
      · refine .inl ⟨w, (outcome_bind_of_ok htake).trans hrest, ?_⟩
        rw [hcalls, hlog, List.append_assoc]
        rfl
      · refine .inr ⟨e, w, _, (outcome_bind_of_ok htake).trans hrest, ?_, .later hq hstuck⟩
        rw [hcalls, hlog, List.append_assoc]
        rfl
    · refine .inr ⟨e, v, _, outcome_bind_of_error htake, hlog, ?_⟩
      by_cases hsucceeded : o = .succeeded
      · obtain ⟨value, hvalue⟩ := ho hsucceeded
        subst hsucceeded
        exact .unassigned hvalue
      · exact .unread hsucceeded

theorem execute_issues :
    Leads (i.Poised p s sql base) (i.execute s) (fun _ => base.Makes (i.Issues p s sql))
      (base.Makes (i.Issues p s sql)) := by
  rintro db ⟨hmakes, rfl⟩
  obtain ⟨db', hx, hlog⟩ | ⟨e, db', o, hx, -, hlog⟩ := i.execute_cases s db <;> rw [hx]
  · refine ⟨fun a t ht => ?_, nofun⟩
    cases ht
    exact hmakes.snoc hlog .execute
  · refine ⟨nofun, fun e t ht => ?_⟩
    cases ht
    exact hmakes.snoc hlog .execute

theorem addBatch_issues :
    Leads (i.Poised p s sql base) (i.addBatch s) (fun _ => base.Makes (i.Issues p s sql))
      (base.Makes (i.Issues p s sql)) := by
  unfold addBatch Statement.addBatch
  refine Leads.perform (fun db h _ => ?_) (fun db e db' _ hr => ?_) fun db a db' h hr => ?_
  · exact h.makes.record (h.text ▸ .entry) _
  · cases hr
  · cases hr
    exact h.makes.snoc rfl (h.text ▸ .entry)

theorem closeQuietly_issues :
    Maintains (base.Makes (i.Issues p s sql)) s.closeQuietly fun _ => True :=
  Statement.closeQuietly_makes fun sql' => .ready (.close sql')

theorem query_issues (mapper : RowMapper) (handler : Option RowHandler) :
    Leads (fun u : Scope => i.Poised p s sql base u.database) (i.query mapper s handler)
      (fun _ u => base.Makes (i.Issues p s sql) u.database)
      (fun u => base.Makes (i.Issues p s sql) u.database) :=
  (SessionM.lift_database execute_issues).bind fun _ =>
    (results_makes mapper handler .row fun _ hc => .output hc).leads

theorem Readied.issues {α : Type} {u : Scope} {x : SessionM Statement}
    {f : Statement → SessionM α} (h : i.Readied u s sql (x.outcome u).1 (x.outcome u).2)
    (hf : Leads (fun v : Scope => i.Poised u.parameter s sql u.database v.database) (f s)
      (fun _ v => u.database.Makes (i.Issues u.parameter s sql) v.database)
      fun v => u.database.Makes (i.Issues u.parameter s sql) v.database) :
    u.database.Makes (i.Issues u.parameter s sql) ((x >>= f).outcome u).2.database := by
  have hmakes : u.database.Makes (i.Issues u.parameter s sql) (x.outcome u).2.database :=
    h.makes.mono fun _ hcall => .ready hcall
  rcases hx : x.outcome u with ⟨e | s', v⟩
  · rw [hx] at hmakes
    rw [outcome_bind_of_error hx]
    exact hmakes
  · rw [hx] at h hmakes
    obtain ⟨rfl, htext⟩ := h.answer s' rfl
    rw [outcome_bind_of_ok hx]
    exact hf.state ⟨hmakes, htext⟩

end Invocation

namespace SessionM

variable {config : Configuration} {i : Invocation} {u v : Scope} {p : Parameter} {s : Statement}
  {sql : String} {base : Database}

theorem closing_issues :
    Leads (fun u : Scope => base.Makes (i.Issues p s sql) u.database)
      (liftM s.closeQuietly : SessionM Unit)
      (fun _ u => base.Makes (i.Issues p s sql) u.database)
      (fun u => base.Makes (i.Issues p s sql) u.database) :=
  lift_database Invocation.closeQuietly_issues.leads

theorem execute_issues (hafter : ∀ s, Keys.after config i.command s = pure ()) :
    Leads (fun u : Scope => i.Poised p s sql base u.database) (execute config i s)
      (fun _ u => base.Makes (i.Issues p s sql) u.database)
      (fun u => base.Makes (i.Issues p s sql) u.database) := by
  have hcount : Maintains (fun u : Scope => base.Makes (i.Issues p s sql) u.database)
      (liftM s.updateCount : SessionM (Option Int)) fun _ => True := fun _ h => ⟨h, fun _ _ => trivial⟩
  unfold execute
  rw [hafter]
  exact (lift_database Invocation.execute_issues).bind fun _ =>
    (hcount.bind (W := fun _ => True) fun _ _ =>
      (Invocation.takeOutputs_makes fun _ hc => .output hc).bind fun _ _ => .pure trivial).leads

end SessionM

theorem Batch.enqueue_issues (settings : Settings) (queue : List QueuedStatement) (i : Invocation)
    {u : Scope} (hst : u.session.strategy = .batch queue) :
    ∃ s sql, i.Takes u s sql ∧ u.database.Makes (i.Issues u.parameter s sql)
      ((enqueue settings queue i).outcome u).2.database := by
  rw [enqueue, SessionM.outcome_parameter_bind]
  have hset : ∀ (P : Call → Prop) (queue' : List QueuedStatement), Leads
      (fun v : Scope => u.database.Makes P v.database) (setQueue queue')
      (fun _ v => u.database.Makes P v.database) fun v => u.database.Makes P v.database :=
    fun _ _ => .change fun _ h => h
  cases hfind : queue.getLast?.filter fun q =>
      decide (q.command.id = i.command.id ∧ q.sql = i.bound.sql) with
  | some last =>
    obtain ⟨hlast, hjoins⟩ := Option.filter_eq_some_iff.mp hfind
    obtain ⟨init, rfl⟩ := List.getLast?_eq_some_iff.mp hlast
    refine ⟨_, _, .queued hst (of_decide_eq_true hjoins), ?_⟩
    have hready := i.parameterize_poised u.parameter last.statement u.database
      (u.database.statement last.statement).sql
    exact ((SessionM.lift_database hready).bind fun _ =>
      (SessionM.lift_database Invocation.addBatch_issues).bind fun _ => hset _ _).state
        ⟨.refl _ _, rfl⟩
  | none =>
    refine ⟨_, _, .fresh, (i.freshStatement_readied settings u).issues ?_⟩
    exact (SessionM.lift_database (Invocation.addBatch_issues.orUndo
      Invocation.closeQuietly_issues.leads)).bind fun _ => hset _ _

theorem SessionM.carryOut_issues {config : Configuration} {i : Invocation}
    (hafter : ∀ s, Keys.after config i.command s = pure ()) (u : Scope) :
    ∃ s sql, i.Takes u s sql ∧ u.database.Makes (i.Issues u.parameter s sql)
      ((carryOut config i).outcome u).2.database := by
  rw [carryOut, outcome_session_bind]
  cases hst : u.session.strategy with
  | simple =>
    have hready := i.freshStatement_readied config.settings u
    refine ⟨_, _, hready.takes, hready.issues ?_⟩
    exact (execute_issues hafter).thenAlways (fun _ => closing_issues) closing_issues
  | reuse m =>
    obtain ⟨s, sql, hready⟩ := Reuse.statement_readied config.settings i hst
    exact ⟨s, sql, hready.takes, hready.issues (execute_issues hafter)⟩
  | batch queue =>
    obtain ⟨s, sql, htakes, hmakes⟩ := Batch.enqueue_issues config.settings queue i hst
    refine ⟨s, sql, htakes, ?_⟩
    dsimp only
    rw [snd_bind fun _ _ => rfl]
    exact hmakes

end SqlMapper
