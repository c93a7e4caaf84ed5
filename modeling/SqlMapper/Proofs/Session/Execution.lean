import SqlMapper.Proofs.Session.Command
import SqlMapper.Proofs.Session.Idle

namespace SqlMapper

open Fallible

variable {α : Type}

/-- A text was executed on the way from `db` to `db'`, and nothing after it. -/
def Database.Executed (db : Database) (text : String → Prop) (db' : Database) : Prop :=
  ∃ before s sql after, text sql ∧
    db'.log = db.log ++ before ++ ⟨.execute s sql, .succeeded⟩ :: after ∧
    ∀ e ∈ after, e.executes = false

namespace SessionM

theorem ok_of_lift_ok {x : DriverM α} {u v : Scope} {a : α}
    (h : (liftM x : SessionM α).outcome u = (.ok a, v)) :
    x.outcome u.database = (.ok a, v.database) ∧ v = { u with database := v.database } := by
  change (onDatabase x).outcome u = _ at h
  rw [onDatabase, outcome_within] at h
  obtain ⟨ha, rfl⟩ := Prod.mk.inj h
  exact ⟨Prod.ext ha rfl, rfl⟩

theorem lift_parameter (x : DriverM α) (p : Parameter) :
    Maintains (fun u => u.parameter = p) (liftM x : SessionM α) fun _ => True :=
  fun _ hu => ⟨hu, fun _ _ => trivial⟩

theorem ok_of_onParameter_ok {x : Fallible Parameter Unit} {u v : Scope}
    (h : (onParameter x).outcome u = (.ok (), v)) :
    x.outcome u.parameter = (.ok (), v.parameter) := by
  rw [onParameter, outcome_within] at h
  obtain ⟨hr, rfl⟩ := Prod.mk.inj h
  exact Prod.ext hr rfl

theorem session_parameter (p : Parameter) :
    Maintains (fun u => u.parameter = p) session fun _ => True :=
  fun _ hu => ⟨hu, fun _ _ => trivial⟩

theorem parameter_parameter (p : Parameter) :
    Maintains (fun u => u.parameter = p) parameter fun _ => True :=
  fun _ hu => ⟨hu, fun _ _ => trivial⟩

theorem changeSession_parameter (f : Session → Session) (p : Parameter) :
    Maintains (fun u => u.parameter = p) (changeSession f) fun _ => True :=
  .change fun _ hu => hu

theorem connection_parameter (p : Parameter) :
    Maintains (fun u => u.parameter = p) connection fun _ => True :=
  (session_parameter p).bind fun _ _ => (lift_parameter _ p).bind fun _ _ =>
    (changeSession_parameter _ p).bind fun _ _ => .pure trivial

theorem ensureOpen_parameter (p : Parameter) :
    Maintains (fun u => u.parameter = p) ensureOpen fun _ => True := by
  refine (session_parameter p).bind fun s _ => ?_
  split
  · exact .throw _
  · exact .pure trivial

theorem parameter_kept {x : SessionM α} {u v : Scope} {r : Except Error α}
    (hx : x.outcome u = (r, v))
    (h : Maintains (fun t => t.parameter = u.parameter) x fun _ => True) :
    v.parameter = u.parameter :=
  kept (I := fun t => t.parameter = u.parameter) hx h rfl

end SessionM

namespace Database

theorem Executed.of_grows {text : String → Prop} {db₀ db db' : Database}
    (h : db.Executed text db') (hlog : db₀.log <+: db.log) : db₀.Executed text db' := by
  obtain ⟨before, s, sql, after, ht, he, hn⟩ := h
  obtain ⟨calls, hc⟩ := hlog
  exact ⟨calls ++ before, s, sql, after, ht, by rw [he, ← hc]; simp, hn⟩

theorem Executed.of_reads {text : String → Prop} {db db' db'' : Database}
    (h : db.Executed text db') (hd : db'.Reads db'') : db.Executed text db'' := by
  obtain ⟨before, s, sql, after, ht, he, hn⟩ := h
  obtain ⟨calls, hc, hb⟩ := hd
  refine ⟨before, s, sql, after ++ calls, ht, by rw [hc, he]; simp, fun e he => ?_⟩
  obtain he | he := List.mem_append.mp he
  · exact hn e he
  · exact hb e he

theorem Executed.mono {text text' : String → Prop} {db db' : Database}
    (h : db.Executed text db') (ht : ∀ sql, text sql → text' sql) : db.Executed text' db' := by
  obtain ⟨before, s, sql, after, hsql, hlog⟩ := h
  exact ⟨before, s, sql, after, ht sql hsql, hlog⟩

end Database

/-- The statement is there, and nothing has been done with it since it was created. -/
def Database.Created (db : Database) (s : Statement) (sql : String) : Prop :=
  s.index < db.statements.length ∧ db.statement s = .created sql

theorem Database.Created.record {s : Statement} {sql : String} (db : Database) (call : Call)
    (o : CallOutcome) (h : db.Created s sql) : (db.record call o).Created s sql := h

theorem Connection.created_of_prepare_ok {c : Connection} {form : StatementForm} {s : Statement}
    {db db' : Database} (h : (c.prepare form).outcome db = (.ok s, db')) :
    db'.Created s form.sql := by
  rw [prepare, outcome_of] at h
  obtain ⟨-, db₁, hact, rfl⟩ := Database.perform_eq_ok h
  cases hact
  refine ⟨?_, ?_⟩ <;> simp [Database.statement, Database.record]

namespace Invocation

variable {i : Invocation} {s : Statement} {db db' : Database}

theorem execute_eq_ok (h : (i.execute s).outcome db = (.ok (), db')) :
    db'.log = db.log ++ [⟨.execute s (i.text.getD (db.statement s).sql), .succeeded⟩] := by
  obtain ⟨b, he⟩ := ok_of_discard_ok h
  rw [Statement.execute, outcome_of] at he
  obtain ⟨-, db₂, hact, hrec⟩ := Database.perform_eq_ok he
  dsimp only at hact
  split at hact
  · cases hact
  · cases hact
    rw [hrec]
    rfl

theorem created_of_prepare_ok {settings : Settings} {timeout : Option Nat} {c : Connection}
    (h : (i.prepare settings timeout c).outcome db = (.ok s, db')) : db'.Created s i.form.sql := by
  obtain ⟨s', db₁, hp, h⟩ := ok_of_bind_ok h
  obtain ⟨_, db₂, ha, h⟩ := ok_of_bind_ok h
  cases h
  have hk := (i.applySettings_keeps (I := (·.Created s i.form.sql))
    (fun db call o _ => .record db call o)
    settings timeout s _ (Connection.created_of_prepare_ok hp)).1
  rwa [ok_of_orUndo_ok ha] at hk

theorem freshStatement_parameter (i : Invocation) (settings : Settings) (p : Parameter) :
    Maintains (fun u => u.parameter = p) (i.freshStatement settings) fun _ => True :=
  (SessionM.session_parameter p).bind fun _ _ => (SessionM.connection_parameter p).bind fun _ _ =>
    (SessionM.lift_parameter _ p).bind fun _ _ => (SessionM.parameter_parameter p).bind fun _ _ =>
      (SessionM.lift_parameter _ p).bind fun _ _ => .pure trivial

theorem created_of_freshStatement_ok {settings : Settings} {u v : Scope}
    (h : (i.freshStatement settings).outcome u = (.ok s, v)) :
    v.database.Created s i.form.sql := by
  obtain ⟨ses, u₁, -, h⟩ := ok_of_bind_ok h
  obtain ⟨c, u₂, -, h⟩ := ok_of_bind_ok h
  obtain ⟨s', u₃, hp, h⟩ := ok_of_bind_ok h
  obtain ⟨p, u₄, h₄, h⟩ := ok_of_bind_ok h
  cases h₄
  obtain ⟨_, u₅, hb, h⟩ := ok_of_bind_ok h
  cases h
  have hc := created_of_prepare_ok (SessionM.ok_of_lift_ok hp).1
  have hk := (i.parameterize_keeps (I := (·.Created s i.form.sql))
    (fun db call o _ => .record db call o)
    u₃.parameter s _ hc).1
  rwa [ok_of_orUndo_ok (SessionM.ok_of_lift_ok hb).1] at hk

theorem text_getD_form (i : Invocation) : i.text.getD i.form.sql = i.bound.sql := by
  unfold text form
  cases i.command.statementKind <;> rfl

theorem text_of_created (hs : db.Created s i.form.sql) :
    i.text.getD (db.statement s).sql = i.bound.sql := by
  rw [hs.2]
  exact i.text_getD_form

theorem parameterize_of_text {text : String} (h : i.text = some text) (p : Parameter)
    (s : Statement) : i.parameterize p s = pure () := by
  have hkind : i.command.statementKind = .statement := by
    unfold Invocation.text at h
    split at h
    · assumption
    · cases h
  rw [parameterize, inputs, outputs, hkind]
  rfl

theorem query_executed {mapper : RowMapper} {handler : Option RowHandler} {rows : List Value}
    {u v : Scope} (h : (i.query mapper s handler).outcome u = (.ok rows, v)) :
    u.database.Executed (· = i.text.getD (u.database.statement s).sql) v.database := by
  obtain ⟨_, u₁, he, h⟩ := ok_of_bind_ok h
  have hlog := execute_eq_ok (SessionM.ok_of_lift_ok he).1
  have hread := kept h (i.results_idles _ s handler) (.refl _)
  exact Database.Executed.of_reads ⟨[], s, _, [], rfl, by simpa using hlog, nofun⟩
    hread.database.reads

end Invocation

theorem SessionM.withParameter_parameter (own p : Parameter) (x : SessionM α) :
    Maintains (fun u => u.parameter = own) (withParameter p x) fun _ => True := by
  intro u hu
  rw [withParameter_outcome]
  exact ⟨hu, fun _ _ => trivial⟩

theorem Keys.afterBatch_parameter (config : Configuration) (own : Parameter) (command : Command)
    (s : Statement) (parameters : List Parameter) (counts : List Int) :
    Maintains (fun u => u.parameter = own) (afterBatch config command s parameters counts)
      fun _ => True := by
  unfold afterBatch
  split
  · refine (SessionM.lift_parameter s.generatedKeys own).bind fun rows _ => ?_
    exact (Maintains.ending (V := fun _ => True) fun _ _ => trivial).bind fun _ _ => .pure trivial
  · exact (Maintains.mapM (V := fun _ => True) fun p _ =>
      (SessionM.withParameter_parameter own p _).bind fun _ _ => .pure trivial).forget
  · exact .pure trivial

namespace Batch

variable (config : Configuration) (own : Parameter)

theorem execute_parameter (q : QueuedStatement) :
    Maintains (fun u => u.parameter = own) (execute config q) fun _ => True := by
  refine (SessionM.lift_parameter q.statement.executeBatch own).attempt.bind fun r _ => ?_
  cases r with
  | error e => exact .pure trivial
  | ok counts =>
    refine (Keys.afterBatch_parameter config own q.command q.statement q.parameters
      counts).attempt.bind fun r _ => ?_
    cases r <;> exact .pure trivial

theorem send_parameter (successful : List BatchResult) (queue : List QueuedStatement) :
    Maintains (fun u => u.parameter = own) (send config successful queue) fun _ => True := by
  induction queue generalizing successful with
  | nil => exact .pure trivial
  | cons q rest ih =>
    refine ((execute_parameter config own q).thenAlways
      (SessionM.lift_parameter q.statement.closeQuietly own)).bind fun r _ => ?_
    cases r with
    | ok result => exact ih _
    | error e => exact (SessionM.lift_parameter _ own).bind fun _ _ => .throw _

theorem flush_parameter (queue : List QueuedStatement) :
    Maintains (fun u => u.parameter = own) (flush config queue) fun _ => True :=
  (SessionM.changeSession_parameter _ own).bind fun _ _ => send_parameter config own [] queue

theorem enqueue_parameter (settings : Settings) (queue : List QueuedStatement) (i : Invocation) :
    Maintains (fun u => u.parameter = own) (enqueue settings queue i) fun _ => True := by
  refine (SessionM.parameter_parameter own).bind fun p _ => ?_
  split
  · exact (SessionM.lift_parameter _ own).bind fun _ _ =>
      (SessionM.lift_parameter _ own).bind fun _ _ => SessionM.changeSession_parameter _ own
  · exact (i.freshStatement_parameter settings own).bind fun s _ =>
      (SessionM.lift_parameter _ own).bind fun _ _ => SessionM.changeSession_parameter _ own

end Batch

namespace Reuse

variable (settings : Settings) (statements : NameMap Statement) (i : Invocation) (p : Parameter)

theorem create_parameter :
    Maintains (fun u => u.parameter = p) (create settings statements i) fun _ => True :=
  (SessionM.session_parameter p).bind fun _ _ => (SessionM.parameter_parameter p).bind fun _ _ =>
    (SessionM.connection_parameter p).bind fun _ _ =>
      (SessionM.lift_parameter _ p).bind fun _ _ =>
        (SessionM.changeSession_parameter _ p).bind fun _ _ =>
          (SessionM.lift_parameter _ p).bind fun _ _ => .pure trivial

theorem renew_parameter (s : Statement) :
    Maintains (fun u => u.parameter = p) (renew settings i s) fun _ => True :=
  (SessionM.session_parameter p).bind fun _ _ => (SessionM.parameter_parameter p).bind fun _ _ =>
    (SessionM.lift_parameter _ p).bind fun _ _ =>
      (SessionM.lift_parameter _ p).bind fun _ _ => .pure trivial

theorem statement_parameter :
    Maintains (fun u => u.parameter = p) (statement settings statements i) fun _ => True := by
  unfold statement
  split
  · refine (SessionM.lift_parameter _ p).bind fun closed _ => ?_
    split
    · exact (SessionM.changeSession_parameter _ p).bind fun _ _ => create_parameter settings _ i p
    · exact renew_parameter settings i p _
  · exact create_parameter settings statements i p

end Reuse

namespace SessionM

variable {config : Configuration} {command : Command} {bounds : RowBounds}
  {handler : Option RowHandler} {rows : List Value} {u v : Scope}

theorem invocation_eq_ok {i : Invocation}
    (h : (invocation command bounds).outcome u = (.ok i, v)) :
    ∃ bound, command.source.bind u.parameter = .ok bound ∧ i = ⟨command, bound, bounds⟩ ∧
      v = u := by
  obtain ⟨p, u₁, hp, h⟩ := ok_of_bind_ok h
  cases hp
  obtain ⟨hi, rfl⟩ := Prod.mk.inj h
  rcases hb : command.source.bind u.parameter with e | bound <;> rw [Invocation.of, hb] at hi <;>
    cases hi
  exact ⟨bound, rfl, rfl, rfl⟩

theorem freshQuery_executed
    (h : (freshQuery config command bounds handler).outcome u = (.ok rows, v)) :
    ∃ bound, command.source.bind u.parameter = .ok bound ∧
      u.database.Executed (· = bound.sql) v.database := by
  obtain ⟨i, u₁, hi, hrest⟩ := ok_of_bind_ok h
  obtain ⟨bound, hb, rfl, rfl⟩ := invocation_eq_ok hi
  obtain ⟨s, u₂, hs, hread⟩ := ok_of_bind_ok hrest
  obtain ⟨u₃, hq, hc⟩ := ok_of_thenAlways_ok hread
  have hx := Invocation.query_executed hq
  rw [Invocation.text_of_created (Invocation.created_of_freshStatement_ok hs)] at hx
  have hfresh := kept (I := u₁.Apart []) hs (Invocation.freshStatement_apart _ _) (.self _)
  have hclose := kept (SessionM.ok_of_lift_ok hc).1 s.closeQuietly_idles (.refl _)
  exact ⟨bound, hb, (hx.of_grows hfresh.database.prefix_log).of_reads hclose.reads⟩

theorem freshCursor_executed {c : Cursor}
    (h : (freshCursor config command bounds).outcome u = (.ok c, v)) :
    ∃ bound, command.source.bind u.parameter = .ok bound ∧
      u.database.Executed (· = bound.sql) v.database := by
  obtain ⟨i, u₁, hi, hrest⟩ := ok_of_bind_ok h
  obtain ⟨bound, hb, rfl, rfl⟩ := invocation_eq_ok hi
  obtain ⟨s, u₂, hs, hx⟩ := ok_of_bind_ok hrest
  obtain ⟨_, u₃, he, hc⟩ := ok_of_bind_ok hx
  cases hc
  have hlog := Invocation.execute_eq_ok (ok_of_orUndo_ok (ok_of_lift_ok he).1)
  rw [Invocation.text_of_created (Invocation.created_of_freshStatement_ok hs)] at hlog
  have hfresh := kept (I := u₁.Apart []) hs (Invocation.freshStatement_apart _ _) (.self _)
  have hx : u₂.database.Executed (· = bound.sql) v.database :=
    ⟨[], s, bound.sql, [], rfl, by simpa using hlog, nofun⟩
  exact ⟨bound, hb, hx.of_grows hfresh.database.prefix_log⟩

theorem runQuery_executed
    (h : (runQuery config command bounds handler).outcome u = (.ok rows, v)) :
    u.database.Executed (fun _ => True) v.database := by
  obtain ⟨ses, u₁, hu, h⟩ := ok_of_bind_ok h
  cases hu
  split at h
  · obtain ⟨_, -, hx⟩ := freshQuery_executed h
    exact hx.mono fun _ _ => trivial
  · obtain ⟨i, u₁, hi, hrest⟩ := ok_of_bind_ok h
    obtain ⟨bound, -, rfl, rfl⟩ := invocation_eq_ok hi
    obtain ⟨s, u₂, hs, hq⟩ := ok_of_bind_ok hrest
    have hstatement := kept hs (Reuse.statement_inner _ _ _) (.refl _)
    exact ((Invocation.query_executed hq).of_grows hstatement.log).mono fun _ _ => trivial
  · obtain ⟨_, u₁, hf, h⟩ := ok_of_bind_ok h
    obtain ⟨_, -, hx⟩ := freshQuery_executed h
    have hflush := kept hf (Batch.flush_inner config _).discard (.refl _)
    exact (hx.of_grows hflush.log).mono fun _ _ => trivial

theorem runQuery_executed_of_batch {queue : List QueuedStatement}
    (hs : u.session.strategy = .batch queue)
    (h : (runQuery config command bounds handler).outcome u = (.ok rows, v)) :
    ∃ results t bound, (Batch.flush config queue).outcome u = (.ok results, t) ∧
      command.source.bind u.parameter = .ok bound ∧
      t.database.Executed (· = bound.sql) v.database := by
  obtain ⟨ses, u₁, hu, h⟩ := ok_of_bind_ok h
  cases hu
  simp only [hs] at h
  obtain ⟨_, t, hf, h⟩ := ok_of_bind_ok h
  obtain ⟨results, hr⟩ := ok_of_discard_ok hf
  obtain ⟨bound, hb, hx⟩ := freshQuery_executed h
  rw [kept hr (Batch.flush_parameter config u.parameter queue) rfl] at hb
  exact ⟨results, t, bound, hr, hb, hx⟩

theorem freshCursor_made {c : Cursor} {s : Statement}
    (h : (freshCursor config command bounds).outcome u = (.ok c, v)) (hs : c.statement = some s) :
    s.index < v.database.statements.length := by
  obtain ⟨i, u₁, hi, hrest⟩ := ok_of_bind_ok h
  obtain ⟨s', u₂, hfresh, hx⟩ := ok_of_bind_ok hrest
  obtain ⟨_, u₃, he, hc⟩ := ok_of_bind_ok hx
  cases hc
  cases hs
  have hcreated := Invocation.created_of_freshStatement_ok hfresh
  have hexecute := kept (ok_of_orUndo_ok (ok_of_lift_ok he).1)
    (i.execute_apart List.not_mem_nil) (.self u₂.database)
  exact Nat.lt_of_lt_of_le hcreated.1 hexecute.length_le

theorem freshCursor_of_openCursor {c : Cursor}
    (h : (openCursor config command bounds).outcome u = (.ok c, v)) :
    ∃ t, u.database.log <+: t.database.log ∧
      (freshCursor config command bounds).outcome t = (.ok c, v) := by
  cases hopen : u.session.closed
  · rw [openCursor_of_open hopen] at h
    have hstart : u.database.log <+: (u.flushedFor command).database.log := by simp
    split at h
    · obtain ⟨_, t, hf, h⟩ := ok_of_bind_ok h
      exact ⟨t, hstart.trans (kept hf (Batch.flush_inner config _).discard (.refl _)).log, h⟩
    · exact ⟨_, hstart, h⟩
  · rw [openCursor_of_closed hopen] at h
    cases h

theorem openCursor_executed {c : Cursor}
    (h : (openCursor config command bounds).outcome u = (.ok c, v)) :
    u.database.Executed (fun _ => True) v.database := by
  obtain ⟨t, hlog, hfresh⟩ := freshCursor_of_openCursor h
  obtain ⟨bound, -, hx⟩ := freshCursor_executed hfresh
  exact (hx.of_grows hlog).mono fun _ _ => trivial

end SessionM

end SqlMapper
