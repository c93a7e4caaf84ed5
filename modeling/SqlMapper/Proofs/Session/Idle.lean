import SqlMapper.Proofs.Database.Idle
import SqlMapper.Proofs.Session.Apart

namespace SqlMapper

open Fallible

variable {α : Type} {V : α → Prop}

/-- `v` comes from `u` by idle calls, and keeps the statements that `u` keeps and the timeout of its
transaction. -/
structure Scope.Idles (u v : Scope) : Prop where
  database : u.database.Idles v.database
  strategy : v.session.strategy = u.session.strategy
  timeout : v.session.transaction.timeout = u.session.transaction.timeout

theorem Scope.Idles.refl (u : Scope) : u.Idles u := ⟨.refl _, rfl, rfl⟩

namespace Transaction

variable {db₀ : Database} (t : Transaction)

theorem acquire_idles :
    Maintains db₀.Idles t.acquire fun r => r.2.timeout = t.timeout := by
  unfold acquire
  split
  · exact .pure rfl
  · exact (t.openConnection_maintains connect_idles (fun c => c.autoCommit_idles)
      fun c mode => c.setAutoCommit_idles mode).bind fun _ _ => .pure rfl

theorem commit_idles : Maintains db₀.Idles t.commit fun _ => True :=
  t.finishWith_maintains (fun c _ => c.autoCommit_idles) fun c _ => c.commit_idles

theorem rollback_idles : Maintains db₀.Idles t.rollback fun _ => True :=
  t.finishWith_maintains (fun c _ => c.autoCommit_idles) fun c _ => c.rollback_idles

theorem closeConnection_idles : Maintains db₀.Idles t.closeConnection fun _ => True := by
  unfold closeConnection
  split
  · exact .pure trivial
  · exact Connection.close_idles _

end Transaction

namespace SessionM

variable {u₀ : Scope}

theorem lift_idles {x : DriverM α} (h : Maintains u₀.database.Idles x V) :
    Maintains u₀.Idles (liftM x : SessionM α) V :=
  h.within (fun _ hu => hu.database) fun _ _ hu hdb => ⟨hdb, hu.strategy, hu.timeout⟩

theorem connection_idles : Maintains u₀.Idles connection fun _ => True := by
  have hsession : Maintains u₀.Idles session
      fun w => w.transaction.timeout = u₀.session.transaction.timeout := by
    refine fun u hu => ⟨hu, fun w hw => ?_⟩
    cases hw
    exact hu.timeout
  refine hsession.bind fun w hw => (lift_idles w.transaction.acquire_idles).bind fun r hr => ?_
  exact Maintains.bind (V := fun _ => True)
    (fun _ hu => ⟨⟨hu.database, hu.strategy, hr.trans hw⟩, fun _ _ => trivial⟩)
    fun _ _ => .pure trivial

end SessionM

theorem Reading.window_idles {u₀ : Scope} (s : Statement) (read : Row → Except Error Value)
    (bounds : RowBounds) (handler : Option RowHandler) :
    Maintains u₀.Idles (window s read bounds handler) fun _ => True :=
  window_maintains s.nextRow_idles (fun _ hu => hu.database)
    (fun _ _ hu hdb => ⟨hdb, hu.strategy, hu.timeout⟩)
    (fun _ _ hu => ⟨hu.database, hu.strategy, hu.timeout⟩) read bounds handler

theorem Database.maintains_of_record {I : Database → Prop} {call : Call}
    (hI : ∀ db o, I db → I (db.record call o)) {refusal : Database → Option Error}
    {r : Database → Except Error α} :
    Maintains I (.of fun db => perform call (refusal db) (fun db => (r db, db)) db)
      fun _ => True := by
  refine fun db h => ⟨?_, fun _ _ => trivial⟩
  rw [outcome_of]
  unfold perform
  split
  · exact hI _ _ h
  · dsimp only
    cases r db <;> exact hI _ _ h

namespace Invocation

inductive Gives (settings : Settings) (timeout : Option Nat) (i : Invocation) (s : Statement) :
    Call → Prop where
  | timeout {seconds : Nat} (h : i.timeout settings timeout = some seconds) :
    Gives settings timeout i s (.setTimeout s seconds)
  | fetchSize {rows : Nat} (h : i.fetchSize settings = some rows) :
    Gives settings timeout i s (.setFetchSize s rows)
  | output {c : Nat × String} (h : c ∈ i.outputs) : Gives settings timeout i s (.registerOut s c.1)
  | input {c : Nat × String} (h : c ∈ i.inputs) (value : Value) :
    Gives settings timeout i s (.bind s c.1 value)

variable {I : Database → Prop} {i : Invocation} {settings : Settings} {timeout : Option Nat}
  {s : Statement}

theorem Gives.not_executes {call : Call} (h : i.Gives settings timeout s call) (o : CallOutcome) :
    LogEntry.executes ⟨call, o⟩ = false := by
  cases h <;> rfl

theorem applySettings_gives
    (hI : ∀ db call o, i.Gives settings timeout s call → I db → I (db.record call o)) :
    Maintains I (i.applySettings settings timeout s) fun _ => True := by
  unfold applySettings
  dsimp only
  split
  · next seconds ht =>
    refine (Database.maintains_of_record fun db o => hI db _ o (.timeout ht)).bind fun _ _ => ?_
    split
    · next rows hf => exact Database.maintains_of_record fun db o => hI db _ o (.fetchSize hf)
    · exact .pure trivial
  · split
    · next rows hf => exact Database.maintains_of_record fun db o => hI db _ o (.fetchSize hf)
    · exact .pure trivial

theorem parameterize_gives
    (hI : ∀ db call o, i.Gives settings timeout s call → I db → I (db.record call o))
    (p : Parameter) : Maintains I (i.parameterize p s) fun _ => True := by
  refine (Maintains.forM fun c hc =>
    Database.maintains_of_record fun db o => hI db _ o (.output hc)).bind fun _ _ =>
      .forM fun c hc => ?_
  exact (Maintains.ending (V := fun _ => True) fun _ _ => trivial).bind fun value _ =>
    Database.maintains_of_record fun db o => hI db _ o (.input hc value)

theorem applySettings_keeps
    (hI : ∀ db call o, LogEntry.executes ⟨call, o⟩ = false → I db → I (db.record call o))
    (i : Invocation) (settings : Settings) (timeout : Option Nat) (s : Statement) :
    Maintains I (i.applySettings settings timeout s) fun _ => True :=
  applySettings_gives fun db call o h => hI db call o (h.not_executes o)

theorem parameterize_keeps
    (hI : ∀ db call o, LogEntry.executes ⟨call, o⟩ = false → I db → I (db.record call o))
    (i : Invocation) (p : Parameter) (s : Statement) :
    Maintains I (i.parameterize p s) fun _ => True := by
  have hgives : ∀ db call o, i.Gives .standard none s call → I db → I (db.record call o) :=
    fun db call o h => hI db call o (h.not_executes o)
  exact parameterize_gives hgives p

theorem takeOutputs_idles {u₀ : Scope} (i : Invocation) (s : Statement) :
    Maintains u₀.Idles (i.takeOutputs s) fun _ => True := by
  refine .forM fun c _ => (SessionM.lift_idles (s.outParameter_idles c.1)).bind fun value _ => ?_
  exact fun _ hu => ⟨⟨hu.database, hu.strategy, hu.timeout⟩, fun _ _ => trivial⟩

theorem results_idles {u₀ : Scope} (i : Invocation) (read : Row → Except Error Value)
    (s : Statement) (handler : Option RowHandler) :
    Maintains u₀.Idles
      (do
        let rows ← Reading.window s read i.bounds handler
        i.takeOutputs s
        return rows) fun _ => True :=
  (Reading.window_idles s read i.bounds handler).bind fun _ _ =>
    (i.takeOutputs_idles s).bind fun _ _ => .pure trivial

end Invocation

end SqlMapper
