import SqlMapper.Proofs.Batch.Ready
import SqlMapper.Proofs.Session.Binding

namespace SqlMapper.Batch

open Fallible

structure Submission where
  invocation : Invocation
  parameter : Parameter

/-- Mutations with one command and one text share a statement. -/
def Submission.Joins (x : Submission) (q : QueuedStatement) : Prop :=
  q.command.id = x.invocation.command.id ∧ q.sql = x.invocation.bound.sql

/-- The queue after `x` has been added to it, and the statement that got the entry. -/
inductive Push (x : Submission) :
    List QueuedStatement → Statement → List QueuedStatement → Prop where
  | join (init : List QueuedStatement) (last : QueuedStatement) (h : x.Joins last) :
    Push x (init ++ [last]) last.statement (init ++ [addParameter last x.parameter])
  | fresh (queue : List QueuedStatement) (s : Statement)
    (h : ∀ last, queue.getLast? = some last → ¬ x.Joins last) :
    Push x queue s (queue ++
      [⟨s, x.invocation.command, x.invocation.bound.sql, [x.parameter]⟩])

/-- `t` comes from `s` by the submission's being added to the queue on the statement `st`: its
bindings and one entry are the last calls, and nothing else has changed. -/
structure Accepts (x : Submission) (queue : List QueuedStatement) (s t : Scope) (st : Statement)
    (queue' : List QueuedStatement) : Prop where
  push : Push x queue st queue'
  session : { t.session with transaction := s.session.transaction } =
    { s.session with strategy := .batch queue' }
  log : ∃ earlier calls sql, t.database.log =
      s.database.log ++ earlier ++ calls ++ [⟨.addBatch st sql, .succeeded⟩] ∧
    earlier.filterMap LogEntry.mark? = [] ∧ x.invocation.Bindings x.parameter st calls
  ready : Ready queue' t.database
  beside : ∀ kept, (∀ s' ∈ kept, s'.index < s.database.statements.length) → st ∉ kept →
    s.database.Beside kept t.database
  old_or_new : st ∈ statements queue ∨ s.database.statements.length ≤ st.index

variable {i : Invocation} {settings : Settings} {queue init : List QueuedStatement}
  {last : QueuedStatement} {s t : Scope} {st : Statement} {kept : List Statement}

theorem Ready.concat {db : Database} {q : QueuedStatement} (h : Ready queue db)
    (hnew : ∀ q' ∈ queue, q'.statement.index < q.statement.index)
    (hmade : q.statement.index < db.statements.length)
    (hopen : (db.statement q.statement).closed = false)
    (hentries : (db.statement q.statement).batch.length + 1 = q.parameters.length)
    (entry : String) :
    Ready (queue ++ [q])
      (db.change q.statement fun t => { t with batch := t.batch ++ [entry] }) := by
  have hother : ∀ q' ∈ queue, q'.statement ≠ q.statement := fun q' hq' =>
    Statement.ne_of_index_lt (hnew q' hq')
  have hself := Database.statement_change_self hmade
    fun t => { t with batch := t.batch ++ [entry] }
  refine ⟨fun q' hq' => ?_, fun q' hq' => ?_, fun q' hq' => ?_, ?_⟩
  · rw [Database.length_change]
    obtain hq' | hq' := List.mem_append.mp hq'
    · exact h.made q' hq'
    · cases List.mem_singleton.mp hq'
      exact hmade
  · obtain hq' | hq' := List.mem_append.mp hq'
    · rw [Database.statement_change_of_ne (hother q' hq')]
      exact h.isOpen q' hq'
    · cases List.mem_singleton.mp hq'
      exact (congrArg StatementState.closed hself).trans hopen
  · obtain hq' | hq' := List.mem_append.mp hq'
    · rw [Database.statement_change_of_ne (hother q' hq')]
      exact h.entries q' hq'
    · cases List.mem_singleton.mp hq'
      refine (congrArg (fun t => t.batch.length) hself).trans ?_
      rw [List.length_append]
      exact hentries
  · refine List.pairwise_append.mpr ⟨h.increasing, List.pairwise_singleton _ _,
      fun q' hq' q'' hq'' => ?_⟩
    cases List.mem_singleton.mp hq''
    exact hnew q' hq'

theorem Ready.addParameter {db : Database} (h : Ready (init ++ [last]) db) (p : Parameter)
    (sql : String) :
    Ready (init ++ [addParameter last p])
      (db.change last.statement fun t => { t with batch := t.batch ++ [sql] }) := by
  have hlast : last ∈ init ++ [last] := List.mem_append_right _ (List.mem_singleton_self _)
  have hlt := (List.pairwise_append.mp h.increasing).2.2
  have hentries : (db.statement last.statement).batch.length + 1 =
      (Batch.addParameter last p).parameters.length := by
    rw [h.entries last hlast, Batch.addParameter, List.length_append]
    rfl
  exact h.init.concat (q := Batch.addParameter last p)
    (fun q hq => hlt q hq last (List.mem_singleton_self _)) (h.made last hlast)
    (h.isOpen last hlast) hentries sql

theorem Ready.snoc {db : Database} {text : String} (h : Ready queue db) (hs : db.Created st text)
    (hnew : ∀ q ∈ queue, q.statement.index < st.index) (c : Command) (p : Parameter)
    (sql entry : String) :
    Ready (queue ++ [⟨st, c, sql, [p]⟩])
      (db.change st fun t => { t with batch := t.batch ++ [entry] }) := by
  have hempty : db.statement st = .created text := hs.2
  refine h.concat hnew hs.1 ?_ ?_ entry
  · exact congrArg StatementState.closed hempty
  · exact congrArg (fun t => t.batch.length + 1) hempty

/-- How queueing ends: nothing has happened to the statements there were, or the mutation is
accepted. -/
def Enqueued (i : Invocation) (queue : List QueuedStatement) (s : Scope) (x : SessionM Unit) :
    Prop :=
  (∃ e t, x.outcome s = (.error e, t) ∧
    ∀ kept, (∀ s' ∈ kept, s'.index < s.database.statements.length) → s.Apart kept t) ∨
  ∃ t st queue', x.outcome s = (.ok (), t) ∧ Accepts ⟨i, s.parameter⟩ queue s t st queue'

theorem enqueue_join (hready : Ready (init ++ [last]) s.database)
    (hj : Submission.Joins ⟨i, s.parameter⟩ last) :
    Enqueued i (init ++ [last]) s (enqueue settings (init ++ [last]) i) := by
  have hj' : last.command.id = i.command.id ∧ last.sql = i.bound.sql := hj
  have hfind : ((init ++ [last]).getLast?.filter fun q =>
      decide (q.command.id = i.command.id ∧ q.sql = i.bound.sql)) = some last := by
    rw [List.getLast?_concat, Option.filter_some, if_pos (decide_eq_true hj')]
  have hx : (enqueue settings (init ++ [last]) i).outcome s =
      ((do
        i.parameterize s.parameter last.statement
        i.addBatch last.statement
        setQueue (init ++ [addParameter last s.parameter]) : SessionM Unit)).outcome s := by
    rw [enqueue, SessionM.outcome_parameter_bind, hfind, List.dropLast_concat]
  unfold Enqueued
  rw [hx, SessionM.outcome_lift_bind]
  rcases hp : (i.parameterize s.parameter last.statement).outcome s.database with ⟨e | _, db₁⟩
  · exact .inl ⟨e, _, rfl, fun kept hkept =>
      ⟨Fallible.kept hp (i.parameterize_apart _ _) (.refl hkept), rfl⟩⟩
  · have hapart : ∀ kept, (∀ s' ∈ kept, s'.index < s.database.statements.length) →
        s.database.Apart kept db₁ := fun kept hkept =>
      Fallible.kept hp (i.parameterize_apart _ _) (.refl hkept)
    dsimp only
    rw [SessionM.outcome_lift_bind]
    obtain ⟨e, sql, ha⟩ | ⟨sql, -, ha⟩ := Statement.addBatch_cases last.statement i.text db₁
    · rw [show (i.addBatch last.statement).outcome db₁ = _ from ha]
      exact .inl ⟨e, _, rfl, fun kept hkept => ⟨(hapart kept hkept).record rfl, rfl⟩⟩
    · rw [show (i.addBatch last.statement).outcome db₁ = _ from ha]
      obtain ⟨calls, hcalls, hlog⟩ := Invocation.parameterize_log hp
      have hlast : last.statement ∈ statements (init ++ [last]) := by simp [statements]
      refine .inr ⟨_, last.statement, _, rfl, .join init last hj, rfl,
        ⟨[], calls, sql, ?_, rfl, hcalls⟩, ?_, fun kept hkept hst => ?_, .inl hlast⟩
      · rw [List.append_nil, ← hlog]
        rfl
      · exact ((hready.beside (.of_apart (hapart _ hready.made_statements))).addParameter
          s.parameter sql).record _ _
      · have hb := Database.Beside.of_apart (hapart kept hkept)
        exact (hb.trans (.change hb.made hst _)).record _ _

theorem apart_of_freshStatement_ok {u : Scope}
    (h : (i.freshStatement settings).outcome s = (.ok st, u)) :
    (∀ kept, (∀ s' ∈ kept, s'.index < s.database.statements.length) → s.Apart kept u) ∧
      s.database.statements.length ≤ st.index := by
  have hapart : ∀ kept, (∀ s' ∈ kept, s'.index < s.database.statements.length) →
      s.Apart kept u ∧ st ∉ kept := by
    intro kept hkept
    obtain ⟨ha, hv⟩ := i.freshStatement_apart settings s (.refl hkept)
    rw [h] at ha hv
    exact ⟨ha, hv st rfl⟩
  refine ⟨fun kept hkept => (hapart kept hkept).1, ?_⟩
  by_contra hlt
  refine (hapart [st] fun s' hs' => ?_).2 (List.mem_singleton_self st)
  cases List.mem_singleton.mp hs'
  omega

theorem enqueue_fresh (hready : Ready queue s.database)
    (hn : ∀ last, queue.getLast? = some last →
      ¬ Submission.Joins ⟨i, s.parameter⟩ last) :
    Enqueued i queue s (enqueue settings queue i) := by
  have hfind : (queue.getLast?.filter fun q =>
      decide (q.command.id = i.command.id ∧ q.sql = i.bound.sql)) = none := by
    rw [Option.filter_eq_none_iff]
    intro last hlast
    exact fun h => hn last hlast (of_decide_eq_true (p := _ ∧ _) h)
  have hx : (enqueue settings queue i).outcome s =
      ((do
        let st ← i.freshStatement settings
        SessionM.onDatabase ((i.addBatch st).orUndo st.closeQuietly)
        setQueue (queue ++ [⟨st, i.command, i.bound.sql, [s.parameter]⟩]) :
          SessionM Unit)).outcome s := by
    rw [enqueue, SessionM.outcome_parameter_bind, hfind]
  unfold Enqueued
  rw [hx]
  rcases hs : (i.freshStatement settings).outcome s with ⟨e | st, u⟩
  · exact .inl ⟨e, u, outcome_bind_of_error hs, fun kept hkept =>
      Fallible.kept hs (i.freshStatement_apart settings) (.refl hkept)⟩
  · obtain ⟨hapart, hnew⟩ := apart_of_freshStatement_ok hs
    have hcreated := Invocation.created_of_freshStatement_ok hs
    rw [outcome_bind_of_ok hs, SessionM.outcome_onDatabase_bind]
    obtain ⟨e, sql, ha⟩ | ⟨sql, -, ha⟩ := Statement.addBatch_cases st i.text u.database
    · rw [show ((i.addBatch st).orUndo st.closeQuietly).outcome u.database = _ from
        outcome_orUndo_of_error ha (Prod.ext (st.closeQuietly_ok _) rfl)]
      refine .inl ⟨e, _, rfl, fun kept hkept => ?_⟩
      have hu := hapart kept hkept
      have hst : st ∉ kept := fun hm => absurd (hkept st hm) (Nat.not_lt.mpr hnew)
      exact ⟨(Statement.closeQuietly_apart hst _ (hu.database.record rfl)).1, hu.session⟩
    · rw [show ((i.addBatch st).orUndo st.closeQuietly).outcome u.database = _ from
        outcome_orUndo_of_ok ha]
      obtain ⟨earlier, calls, hlog, hmarks, hcalls⟩ := Invocation.freshStatement_log hs
      have hsession : { u.session with transaction := s.session.transaction } = s.session :=
        (hapart [] (List.forall_mem_nil _)).session
      have hready' := hready.beside (.of_apart (hapart _ hready.made_statements).database)
      refine .inr ⟨_, st, _, rfl, .fresh queue st hn, ?_, ⟨earlier, calls, sql, ?_, hmarks, hcalls⟩,
        ?_, fun kept hkept hst => ?_, .inr hnew⟩
      · exact congrArg (fun ses : Session =>
          { ses with strategy := .batch (queue ++
            [QueuedStatement.mk st i.command i.bound.sql [s.parameter]]) }) hsession
      · rw [← hlog]
        rfl
      · exact (hready'.snoc hcreated (fun q hq => Nat.lt_of_lt_of_le (hready.made q hq) hnew) _ _ _
          _).record _ _
      · have hb := Database.Beside.of_apart (hapart kept hkept).database
        exact (hb.trans (.change hb.made hst _)).record _ _

theorem enqueue_cases (settings : Settings) (i : Invocation) (hready : Ready queue s.database) :
    Enqueued i queue s (enqueue settings queue i) := by
  by_cases hj : ∃ last, queue.getLast? = some last ∧
      Submission.Joins ⟨i, s.parameter⟩ last
  · obtain ⟨last, hlast, hj⟩ := hj
    obtain ⟨init, rfl⟩ := List.getLast?_eq_some_iff.mp hlast
    exact enqueue_join hready hj
  · exact enqueue_fresh hready fun last hlast h => hj ⟨last, hlast, h⟩

theorem Accepts.of_apart {x : Submission} {u : Scope} {queue' : List QueuedStatement}
    (hs : ∀ kept, (∀ s' ∈ kept, s'.index < s.database.statements.length) → s.Apart kept u)
    (h : Accepts x queue u t st queue') : Accepts x queue s t st queue' where
  push := h.push
  session := by
    have hsession := h.session
    have hu := (hs [] (List.forall_mem_nil _)).session
    rw [← hu]
    exact congrArg (fun ses : Session => { ses with transaction := s.session.transaction }) hsession
  log := by
    obtain ⟨earlier, calls, sql, hlog, hmarks, hcalls⟩ := h.log
    obtain ⟨before, hbefore, hnone⟩ := (hs [] (List.forall_mem_nil _)).database.log
    refine ⟨before ++ earlier, calls, sql, ?_, by simp [hnone, hmarks], hcalls⟩
    rw [hlog, hbefore, List.append_assoc s.database.log]
  ready := h.ready
  beside kept hkept hst := by
    have hu := Database.Beside.of_apart (hs kept hkept).database
    exact hu.trans (h.beside kept hu.made hst)
  old_or_new := by
    obtain hold | hnew := h.old_or_new
    · exact .inl hold
    · exact .inr (Nat.le_trans (hs [] (List.forall_mem_nil _)).database.length_le hnew)

end SqlMapper.Batch

namespace SqlMapper.SessionM

open Fallible Batch

variable {config : Configuration} {command : Command} {queue : List QueuedStatement} {s : Scope}

/-- What a mutation is queued with if it comes to that: its text and the parameter object once the
keys that are selected beforehand have been. -/
def submission (config : Configuration) (command : Command) (s : Scope) :
    Except Error Submission :=
  match (Keys.before config command).outcome (s.withCache .empty) with
  | (.error e, _) => .error e
  | (.ok _, t) => (Invocation.of command t.parameter .all).map (⟨·, t.parameter⟩)

def carryOut (config : Configuration) (i : Invocation) : SessionM Int := do
  match (← session).strategy with
  | .simple =>
    let st ← i.freshStatement config.settings
    (execute config i st).thenAlways st.closeQuietly
  | .reuse statements =>
    let st ← Reuse.statement config.settings statements i
    execute config i st
  | .batch queue =>
    Batch.enqueue config.settings queue i
    return queuedCount

theorem mutate_of_open (hopen : s.session.closed = false) :
    (mutate config command).outcome s =
      (do
        Keys.before config command
        let i ← invocation command .all
        carryOut config i : SessionM Int).outcome (s.withCache .empty) := by
  rw [mutate, outcome_bind_of_ok (ensureOpen_of_open hopen), outcome_bind_of_ok clearCache_outcome]
  rfl

variable (config command) in
theorem mutate_cases (hopen : s.session.closed = false) :
    (∃ e, (mutate config command).outcome s =
      (.error e, ((Keys.before config command).outcome (s.withCache .empty)).2)) ∨
    ∃ i u, (Keys.before config command).outcome (s.withCache .empty) = (.ok (), u) ∧
      Invocation.of command u.parameter .all = .ok i ∧
      submission config command s = .ok ⟨i, u.parameter⟩ ∧
      (mutate config command).outcome s = (carryOut config i).outcome u := by
  rw [mutate_of_open hopen]
  rcases hb : (Keys.before config command).outcome (s.withCache .empty) with ⟨e | _, u⟩
  · exact .inl ⟨e, outcome_bind_of_error hb⟩
  · rw [outcome_bind_of_ok hb]
    cases hi : Invocation.of command u.parameter .all with
    | error e => exact .inl ⟨e, invocation_bind_of_error hi⟩
    | ok i =>
      refine .inr ⟨i, u, rfl, hi, ?_, invocation_bind_of_ok hi⟩
      rw [submission, hb]
      dsimp only
      rw [hi]
      rfl

variable (config command) in
theorem mutate_of_batch (hopen : s.session.closed = false)
    (hs : s.session.strategy = .batch queue) (hready : Ready queue s.database) :
    (∃ e t, (mutate config command).outcome s = (.error e, t) ∧
      ∀ kept, (∀ s' ∈ kept, s'.index < s.database.statements.length) →
        (s.withCache .empty).Apart kept t) ∨
    ∃ x t st queue', (mutate config command).outcome s = (.ok queuedCount, t) ∧
      submission config command s = .ok x ∧ Accepts x queue (s.withCache .empty) t st queue' := by
  have hbefore : ∀ kept, (∀ s' ∈ kept, s'.index < s.database.statements.length) →
      (s.withCache .empty).Apart kept
        ((Keys.before config command).outcome (s.withCache .empty)).2 := fun kept hkept =>
    (Keys.before_apart config command (s.withCache .empty) (.refl hkept)).1
  obtain ⟨e, hm⟩ | ⟨i, u, hb, -, hsubmission, hm⟩ := mutate_cases config command hopen
  · exact .inl ⟨e, _, hm, hbefore⟩
  · rw [hb] at hbefore
    have hu : u.session.strategy = .batch queue :=
      (hbefore [] (List.forall_mem_nil _)).strategy_eq.trans hs
    have hready' : Ready queue u.database :=
      hready.beside (.of_apart (hbefore _ hready.made_statements).database)
    rw [hm, carryOut, outcome_session_bind, hu]
    dsimp only
    obtain ⟨e, t, ht, ha⟩ | ⟨t, st, queue', ht, ha⟩ := enqueue_cases config.settings i hready'
    · refine .inl ⟨e, t, outcome_bind_of_error ht, fun kept hkept => ?_⟩
      exact (hbefore kept hkept).trans (ha kept (hbefore kept hkept).database.made)
    · exact .inr ⟨_, t, st, queue', outcome_bind_of_ok ht, hsubmission, .of_apart hbefore ha⟩

end SqlMapper.SessionM
