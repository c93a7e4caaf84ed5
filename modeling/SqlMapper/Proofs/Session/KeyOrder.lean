import SqlMapper.Proofs.Parameter.Property
import SqlMapper.Proofs.Session.KeyQuery

namespace SqlMapper

open Fallible

/-- A key query that ended so has no key for the property of `p`; this is the error then. -/
inductive Keys.Misses (id property : String) (p : Parameter) :
    Except Error (List Value) → Error → Prop where
  | failed (e : Error) : Misses id property p (.error e) e
  | none : Misses id property p (.ok []) (.executor (.noKey id))
  | several {keys : List Value} (h : 1 < keys.length) :
    Misses id property p (.ok keys) (.executor (.severalKeys id))
  | unassigned {key : Value} {e : Error} (h : p.assign property key = .error e) :
    Misses id property p (.ok [key]) e

inductive Invocation.Gets (config : Configuration) (i : Invocation) (u : Scope) :
    Except Error Statement × Scope → Prop where
  | fresh (h : u.session.strategy = .simple) :
    Gets config i u ((i.freshStatement config.settings).outcome u)
  | kept {m : NameMap Statement} (h : u.session.strategy = .reuse m) :
    Gets config i u ((Reuse.statement config.settings m i).outcome u)

namespace SessionM

variable (config : Configuration) (command : Command) (id property : String)

/-- How a mutation goes whose key is selected first. Where there is no key, all that has happened is
the key query; otherwise what is carried out is computed from the parameter object `p` that has the
key. -/
inductive KeyFirst (u : Scope) : Except Error Int × Scope → Prop where
  | closed (h : u.session.closed = true) : KeyFirst u (.error (.executor .closed), u)
  | missed {r : Except Error (List Value)} {k : Scope} {calls : List LogEntry} {e : Error}
    (ran : Keys.Ran config id (u.withCache .empty) r k calls)
    (misses : Keys.Misses id property u.parameter r e) : KeyFirst u (.error e, k)
  | unbound {key : Value} {k : Scope} {calls : List LogEntry} {p : Parameter} {e : Error}
    (ran : Keys.Ran config id (u.withCache .empty) (.ok [key]) k calls)
    (assigned : u.parameter.assign property key = .ok p)
    (fails : Invocation.of command p .all = .error e) :
    KeyFirst u (.error e, { k with parameter := p })
  | carriedOut {key : Value} {k v : Scope} {calls own : List LogEntry} {p : Parameter}
    {i : Invocation} {s : Statement} {sql : String} {r : Except Error Int}
    (ran : Keys.Ran config id (u.withCache .empty) (.ok [key]) k calls)
    (assigned : u.parameter.assign property key = .ok p) (reads : p.lookup property = .ok key)
    (invokes : Invocation.of command p .all = .ok i)
    (carried : (carryOut config i).outcome { k with parameter := p } = (r, v))
    (takes : i.Takes { k with parameter := p } s sql)
    (log : v.database.log = k.database.log ++ own)
    (issues : ∀ e ∈ own, i.Issues p s sql e.call) : KeyFirst u (r, v)

/-- How the execution of a mutation goes whose key is selected last, from `v`, where its statement is
ready. The key query comes once all outputs have been read and assigned, and not otherwise. -/
inductive KeyAfter (i : Invocation) (s : Statement) (sql : String) (v : Scope) :
    Except Error Int × Scope → Prop where
  | unexecuted {e : Error} {w : Scope} {o : CallOutcome} (ho : o ≠ .succeeded)
    (log : w.database.log = v.database.log ++ [⟨.execute s sql, o⟩]) :
    KeyAfter i s sql v (.error e, w)
  | unread {e : Error} {w : Scope} {outputs : List LogEntry}
    (stuck : Invocation.Stuck s i.outputs v.parameter outputs)
    (log : w.database.log = v.database.log ++ ⟨.execute s sql, .succeeded⟩ :: outputs) :
    KeyAfter i s sql v (.error e, w)
  | missed {t k : Scope} {r : Except Error (List Value)} {calls : List LogEntry} {e : Error}
    (log : t.database.log = v.database.log ++ ⟨.execute s sql, .succeeded⟩ ::
      i.outputs.map fun c => ⟨.outParameter s c.1, .succeeded⟩)
    (written : Parameter.Written (i.outputs.map Prod.snd) v.parameter t.parameter)
    (ran : Keys.Ran config id t r k calls) (misses : Keys.Misses id property t.parameter r e) :
    KeyAfter i s sql v (.error e, k)
  | keyed {t k : Scope} {key : Value} {calls : List LogEntry} {p : Parameter} {n : Int}
    (log : t.database.log = v.database.log ++ ⟨.execute s sql, .succeeded⟩ ::
      i.outputs.map fun c => ⟨.outParameter s c.1, .succeeded⟩)
    (written : Parameter.Written (i.outputs.map Prod.snd) v.parameter t.parameter)
    (ran : Keys.Ran config id t (.ok [key]) k calls)
    (assigned : t.parameter.assign property key = .ok p) (reads : p.lookup property = .ok key) :
    KeyAfter i s sql v (.ok n, { k with parameter := p })

/-- How a mutation goes whose key is selected last, if it is not queued. All calls before its
execution are its own; after the key query at most its statement is closed. -/
inductive KeyLast (u : Scope) : Except Error Int × Scope → Prop where
  | closed (h : u.session.closed = true) : KeyLast u (.error (.executor .closed), u)
  | unbound {e : Error} (fails : Invocation.of command u.parameter .all = .error e) :
    KeyLast u (.error e, u.withCache .empty)
  | unready {i : Invocation} {s : Statement} {sql : String} {own : List LogEntry} {v : Scope}
    {e : Error} (invokes : Invocation.of command u.parameter .all = .ok i)
    (gets : i.Gets config (u.withCache .empty) (.error e, v))
    (takes : i.Takes (u.withCache .empty) s sql) (log : v.database.log = u.database.log ++ own)
    (readies : ∀ e ∈ own, i.Readies u.parameter s e.call) : KeyLast u (.error e, v)
  | ready {i : Invocation} {s : Statement} {sql : String} {own closing : List LogEntry}
    {v w w' : Scope} {r : Except Error Int}
    (invokes : Invocation.of command u.parameter .all = .ok i)
    (gets : i.Gets config (u.withCache .empty) (.ok s, v))
    (takes : i.Takes (u.withCache .empty) s sql) (log : v.database.log = u.database.log ++ own)
    (readies : ∀ e ∈ own, i.Readies u.parameter s e.call) (parameter : v.parameter = u.parameter)
    (executes : KeyAfter config id property i s sql v (r, w))
    (closes : ∀ e ∈ closing, ∃ text, e.call = .closeStatement s text)
    (closed : w'.database.log = w.database.log ++ closing)
    (same : w'.parameter = w.parameter) : KeyLast u (r, w')

end SessionM

namespace Keys

variable (config : Configuration) (id property : String)

theorem select_cases (t : Scope) :
    (∃ r k calls e, Ran config id t r k calls ∧ Misses id property t.parameter r e ∧
      (select config id property).outcome t = (.error e, k)) ∨
    ∃ key k calls p, Ran config id t (.ok [key]) k calls ∧
      t.parameter.assign property key = .ok p ∧
      (select config id property).outcome t = (.ok (), { k with parameter := p }) := by
  obtain ⟨calls, hran⟩ := run_ran config id t
  rcases hr : (run config id).outcome t with ⟨e | keys, k⟩ <;> rw [hr] at hran
  · exact .inl ⟨_, k, calls, e, hran, .failed e, outcome_bind_of_error hr⟩
  · rcases keys with _ | ⟨key, _ | ⟨key', keys⟩⟩
    · exact .inl ⟨_, k, calls, _, hran, .none, outcome_bind_of_ok hr⟩
    · have hwrite : (select config id property).outcome t =
          (((Parameter.write property key).outcome k.parameter).1,
            { k with parameter := ((Parameter.write property key).outcome k.parameter).2 }) :=
        outcome_bind_of_ok hr
      rw [hran.parameter] at hwrite
      cases ha : t.parameter.assign property key with
      | error e =>
        rw [Parameter.write_of_error ha, ← hran.parameter] at hwrite
        exact .inl ⟨_, k, calls, e, hran, .unassigned ha, hwrite⟩
      | ok p =>
        rw [Parameter.write_of_ok ha] at hwrite
        exact .inr ⟨key, k, calls, p, hran, ha, hwrite⟩
    · exact .inl ⟨_, k, calls, _, hran, .several (by simp), outcome_bind_of_ok hr⟩

end Keys

namespace SessionM

variable {config : Configuration} {command : Command} {id property : String} {u v : Scope}
  {i : Invocation} {s : Statement} {sql : String}

theorem mutate_keyFirst (hkeys : command.keys = .selectKey id property true) (u : Scope) :
    KeyFirst config command id property u ((mutate config command).outcome u) := by
  cases hopen : u.session.closed with
  | true =>
    rw [mutate_of_closed hopen]
    exact .closed hopen
  | false =>
    have hbefore : Keys.before config command = Keys.select config id property := by
      rw [Keys.before, hkeys]
    rw [mutate_of_open hopen, hbefore]
    obtain ⟨r, k, calls, e, hran, hmisses, hselect⟩ | ⟨key, k, calls, p, hran, hassign, hselect⟩ :=
      Keys.select_cases config id property (u.withCache .empty)
    · rw [outcome_bind_of_error hselect]
      exact .missed hran hmisses
    · rw [outcome_bind_of_ok hselect]
      cases hi : Invocation.of command p .all with
      | error e =>
        rw [invocation_bind_of_error hi]
        exact .unbound hran hassign hi
      | ok i =>
        rw [invocation_bind_of_ok hi]
        have hafter : ∀ s, Keys.after config i.command s = pure () := fun s => by
          rw [Keys.after, Invocation.command_of hi, hkeys]
        obtain ⟨s, sql, htakes, own, hlog, hissues⟩ :=
          carryOut_issues hafter { k with parameter := p }
        have hreads := Parameter.lookup_of_assign hassign
        rcases hx : (carryOut config i).outcome { k with parameter := p } with ⟨r, v⟩
        rw [hx] at hlog
        exact .carriedOut hran hassign hreads hi hx htakes hlog hissues

theorem execute_keyAfter (hkeys : i.command.keys = .selectKey id property false)
    (htext : i.text.getD (v.database.statement s).sql = sql) :
    KeyAfter config id property i s sql v ((execute config i s).outcome v) := by
  subst htext
  rw [execute]
  obtain ⟨db, hx, hlog⟩ | ⟨e, db, o, hx, ho, hlog⟩ := i.execute_cases s v.database
  · have hexecute : (liftM (i.execute s) : SessionM Unit).outcome v =
        (.ok (), { v with database := db }) := by rw [outcome_lift, hx]
    have hcount : (liftM s.updateCount : SessionM (Option Int)).outcome { v with database := db } =
        (.ok (db.statement s).updateCount, { v with database := db }) := rfl
    rw [outcome_bind_of_ok hexecute, outcome_bind_of_ok hcount]
    obtain ⟨t, htake, hcalls⟩ | ⟨e, w, calls, htake, hcalls, hstuck⟩ :=
      i.takeOutputs_cases s { v with database := db }
    · have hafter : Keys.after config i.command s = Keys.select config id property := by
        rw [Keys.after, hkeys]
      have hread : t.database.log = v.database.log ++ ⟨.execute s
          (i.text.getD (v.database.statement s).sql), .succeeded⟩ ::
            i.outputs.map fun c => ⟨.outParameter s c.1, .succeeded⟩ := by
        rw [hcalls, hlog, List.append_assoc]
        rfl
      have hwritten := Invocation.takeOutputs_written htake
      rw [outcome_bind_of_ok htake, hafter]
      obtain ⟨r, k, calls, e, hran, hmisses, hselect⟩ | ⟨key, k, calls, p, hran, hassign, hselect⟩ :=
        Keys.select_cases config id property t
      · rw [outcome_bind_of_error hselect]
        exact .missed hread hwritten hran hmisses
      · rw [outcome_bind_of_ok hselect]
        exact .keyed hread hwritten hran hassign (Parameter.lookup_of_assign hassign)
    · rw [outcome_bind_of_error htake]
      refine .unread hstuck ?_
      rw [hcalls, hlog, List.append_assoc]
      rfl
  · have hexecute : (liftM (i.execute s) : SessionM Unit).outcome v =
        (.error e, { v with database := db }) := by rw [outcome_lift, hx]
    rw [outcome_bind_of_error hexecute]
    exact .unexecuted ho hlog

theorem thenClose_outcome {α : Type} (x : SessionM α) (s : Statement) (u : Scope) :
    ∃ v closing, (x.thenAlways (liftM s.closeQuietly)).outcome u = ((x.outcome u).1, v) ∧
      v.parameter = (x.outcome u).2.parameter ∧
      v.database.log = (x.outcome u).2.database.log ++ closing ∧
      ∀ e ∈ closing, ∃ text, e.call = .closeStatement s text := by
  obtain ⟨closing, hlog, hcloses⟩ := (Statement.closeQuietly_makes (s := s)
    (P := fun call => ∃ text, call = .closeStatement s text) (fun text => ⟨text, rfl⟩)
    (x.outcome u).2.database (.refl _ _)).1
  have hok := s.closeQuietly_ok (x.outcome u).2.database
  refine ⟨{ (x.outcome u).2 with
    database := (s.closeQuietly.outcome (x.outcome u).2.database).2 }, closing, ?_, rfl, hlog, hcloses⟩
  rw [thenAlways, outcome_attempt_bind, outcome_lift_bind]
  rcases hc : s.closeQuietly.outcome (x.outcome u).2.database with ⟨e | _, db⟩ <;> rw [hc] at hok
  · cases hok
  · rfl

theorem keyLast_of_readied {x : SessionM Statement} {f : Statement → SessionM Int}
    (hi : Invocation.of command u.parameter .all = .ok i)
    (hgets : i.Gets config (u.withCache .empty) (x.outcome (u.withCache .empty)))
    (hready : i.Readied (u.withCache .empty) s sql (x.outcome (u.withCache .empty)).1
      (x.outcome (u.withCache .empty)).2)
    (hf : ∀ v, i.text.getD (v.database.statement s).sql = sql → ∃ r w w' closing,
      KeyAfter config id property i s sql v (r, w) ∧ (f s).outcome v = (r, w') ∧
        w'.parameter = w.parameter ∧ w'.database.log = w.database.log ++ closing ∧
        ∀ e ∈ closing, ∃ text, e.call = .closeStatement s text) :
    KeyLast config command id property u ((x >>= f).outcome (u.withCache .empty)) := by
  obtain ⟨own, hlog, hreadies⟩ := hready.makes
  rcases hx : x.outcome (u.withCache .empty) with ⟨e | s', v⟩ <;> rw [hx] at hgets hready hlog
  · rw [outcome_bind_of_error hx]
    exact .unready hi hgets hready.takes hlog hreadies
  · obtain ⟨rfl, htext⟩ := hready.answer s' rfl
    obtain ⟨r, w, w', closing, hafter, hw, hsame, hclosed, hcloses⟩ := hf v htext
    rw [outcome_bind_of_ok hx, hw]
    exact .ready hi hgets hready.takes hlog hreadies hready.parameter hafter hcloses hclosed hsame

theorem mutate_keyLast (hkeys : command.keys = .selectKey id property false)
    (htype : u.session.strategy.executorType ≠ .batch) :
    KeyLast config command id property u ((mutate config command).outcome u) := by
  cases hopen : u.session.closed with
  | true =>
    rw [mutate_of_closed hopen]
    exact .closed hopen
  | false =>
    have hbefore : (Keys.before config command).outcome (u.withCache .empty) =
        (.ok (), u.withCache .empty) := by
      rw [Keys.before, hkeys]
      rfl
    rw [mutate_of_open hopen, outcome_bind_of_ok hbefore]
    cases hi : Invocation.of command (u.withCache .empty).parameter .all with
    | error e =>
      rw [invocation_bind_of_error hi]
      exact .unbound hi
    | ok i =>
      have hkeys' : i.command.keys = .selectKey id property false := by
        rw [Invocation.command_of hi, hkeys]
      rw [invocation_bind_of_ok hi, carryOut, outcome_session_bind]
      cases hst : (u.withCache .empty).session.strategy with
      | simple =>
        refine keyLast_of_readied hi (.fresh hst) (i.freshStatement_readied config.settings _)
          fun v htext => ?_
        obtain ⟨w', closing, hw, hsame, hclosed, hcloses⟩ :=
          thenClose_outcome (execute config i _) _ v
        exact ⟨_, _, w', closing, execute_keyAfter hkeys' htext, hw, hsame, hclosed, hcloses⟩
      | reuse m =>
        obtain ⟨s, sql, hready⟩ := Reuse.statement_readied config.settings i hst
        refine keyLast_of_readied hi (.kept hst) hready fun v htext => ?_
        exact ⟨_, _, _, [], execute_keyAfter hkeys' htext, rfl, rfl, (List.append_nil _).symm,
          by simp⟩
      | batch queue =>
        have hbatch : u.session.strategy = .batch queue := hst
        rw [hbatch] at htype
        exact absurd rfl htype

/-- The order of a mutation and the query for its key, whatever the session keeps and whatever becomes
of the calls. -/
theorem mutate_keyed (config : Configuration) (command : Command) (u : Scope) :
    (∀ id property, command.keys = .selectKey id property true →
      KeyFirst config command id property u ((mutate config command).outcome u)) ∧
    ∀ id property, command.keys = .selectKey id property false →
      u.session.strategy.executorType ≠ .batch →
        KeyLast config command id property u ((mutate config command).outcome u) :=
  ⟨fun _ _ hkeys => mutate_keyFirst hkeys u, fun _ _ hkeys htype => mutate_keyLast hkeys htype⟩

/-- Adds a number that another command draws. -/
def ticketCommand (early : Bool) : Command :=
  { smallCommand "add" .insert "INSERT ?" with
    source := .template ⟨"INSERT ?", [⟨"id", .input⟩]⟩
    keys := .selectKey "next" "id" early }

def ticketConfig : Configuration :=
  { smallConfig with
    registry := .insert .empty
      { smallCommand "next" .select "SELECT 7" with resultType := some "int" } }

def ticketScope (type : ExecutorType) : Scope where
  database := .ofScript (Script.empty.respond "SELECT 7" (.ofRows ["n"] [[.int 7]]))
  session := .new type (.overSource false none) false
  parameter := .named [("id", .null)]
  handled := []

def ticketCalls (early : Bool) (type : ExecutorType) : Parameter × List LogEntry :=
  let v := ((mutate ticketConfig (ticketCommand early)).outcome (ticketScope type)).2
  (v.parameter, v.database.log.drop 3)

/-- A queued entry has the number that was drawn before it; one that is executed at once has not. -/
theorem ticket_in_order :
    (KeyFirst ticketConfig (ticketCommand true) "next" "id" (ticketScope .batch)
        ((mutate ticketConfig (ticketCommand true)).outcome (ticketScope .batch)) ∧
      ticketCalls true .batch = (.named [("id", .int 7)],
        [⟨.prepare ⟨0⟩ ⟨0⟩ (.prepared "SELECT 7" false), .succeeded⟩,
          ⟨.execute ⟨0⟩ "SELECT 7", .succeeded⟩, ⟨.nextRow ⟨0⟩, .succeeded⟩,
          ⟨.nextRow ⟨0⟩, .succeeded⟩, ⟨.closeStatement ⟨0⟩ "SELECT 7", .succeeded⟩,
          ⟨.prepare ⟨0⟩ ⟨1⟩ (.prepared "INSERT ?" false), .succeeded⟩,
          ⟨.bind ⟨1⟩ 1 (.int 7), .succeeded⟩, ⟨.addBatch ⟨1⟩ "INSERT ?", .succeeded⟩])) ∧
    KeyLast ticketConfig (ticketCommand false) "next" "id" (ticketScope .simple)
        ((mutate ticketConfig (ticketCommand false)).outcome (ticketScope .simple)) ∧
      ticketCalls false .simple = (.named [("id", .int 7)],
        [⟨.prepare ⟨0⟩ ⟨0⟩ (.prepared "INSERT ?" false), .succeeded⟩,
          ⟨.bind ⟨0⟩ 1 .null, .succeeded⟩, ⟨.execute ⟨0⟩ "INSERT ?", .succeeded⟩,
          ⟨.prepare ⟨0⟩ ⟨1⟩ (.prepared "SELECT 7" false), .succeeded⟩,
          ⟨.execute ⟨1⟩ "SELECT 7", .succeeded⟩, ⟨.nextRow ⟨1⟩, .succeeded⟩,
          ⟨.nextRow ⟨1⟩, .succeeded⟩, ⟨.closeStatement ⟨1⟩ "SELECT 7", .succeeded⟩,
          ⟨.closeStatement ⟨0⟩ "INSERT ?", .succeeded⟩]) := by
  refine ⟨⟨(mutate_keyed _ _ _).1 _ _ rfl, ?_⟩, (mutate_keyed _ _ _).2 _ _ rfl nofun, ?_⟩
  · decide +kernel
  · decide +kernel

end SessionM

end SqlMapper
