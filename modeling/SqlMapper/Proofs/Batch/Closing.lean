import SqlMapper.Proofs.Batch.Reading
import SqlMapper.Proofs.Statements.Inventory

namespace SqlMapper

open Fallible Batch Scope

def Database.Ran (db : Database) (sql : String) (db' : Database) : Prop :=
  ∃ earlier s later, db'.log = db.log ++ earlier ++ ⟨.execute s sql, .succeeded⟩ :: later

namespace Database.Ran

variable {db₀ db db' db'' : Database} {sql : String}

theorem after (h : db.Ran sql db') (hlog : db₀.log <+: db.log) : db₀.Ran sql db' := by
  obtain ⟨earlier, s, later, h⟩ := h
  obtain ⟨calls, hcalls⟩ := hlog
  exact ⟨calls ++ earlier, s, later, by rw [h, ← hcalls]; simp⟩

theorem before (h : db.Ran sql db') (hlog : db'.log <+: db''.log) : db.Ran sql db'' := by
  obtain ⟨earlier, s, later, h⟩ := h
  obtain ⟨calls, hcalls⟩ := hlog
  exact ⟨earlier, s, later ++ calls, by rw [← hcalls, h]; simp⟩

end Database.Ran

section Running

variable {P : Period} {config : Configuration} {command : Command} {i : Invocation}
  {p : Parameter} {s : Statement} {st : Strategy} {db db' : Database} {u v : Scope} {n : Int}

theorem Period.Ready.execute_ok (hready : P.Ready i p s st db)
    (h : (i.execute s).outcome db = (.ok (), db')) :
    db'.log = db.log ++ [⟨.execute s i.bound.sql, .succeeded⟩] := by
  have hlog := Invocation.execute_eq_ok h
  obtain ⟨calls, -, htexts, -⟩ := hready
  obtain hclosed | htext := htexts
  · rw [Invocation.execute, outcome_discard, Statement.execute, outcome_of, Database.closedError,
      if_pos hclosed] at h
    cases h
  · rwa [htext] at hlog

namespace SessionM

theorem ran_of_execute_ok (hready : P.Ready i p s st u.database)
    (h : (execute config i s).outcome u = (.ok n, v)) : u.database.Ran i.bound.sql v.database := by
  obtain ⟨_, w, hx, hrest⟩ := ok_of_bind_ok h
  have hlog := hready.execute_ok (ok_of_lift_ok hx).1
  have hinner := kept (I := w.Inner) hrest ((lift_inner fun _ => s.updateCount_apart).bind
    fun _ _ => (Maintains.inner fun _ => i.takeOutputs_apart s).bind fun _ _ =>
      (Maintains.inner fun _ => Keys.after_apart config i.command s).bind (W := fun _ => True)
        fun _ _ => .pure trivial) (.refl w)
  have hran : u.database.Ran i.bound.sql w.database := ⟨[], s, [], by simpa using hlog⟩
  exact hran.before hinner.log

theorem ran_of_carryOut_ok (hrun : P.runs i p) (htype : P.type ≠ .batch)
    (hu : u.At P.type P.timeout p st (P.Between st))
    (h : (carryOut P.config i).outcome u = (.ok n, v)) :
    u.database.Ran i.bound.sql v.database := by
  rw [carryOut, outcome_session_bind, hu.strategy] at h
  cases st with
  | simple =>
    obtain ⟨s, w, hs, hx⟩ := ok_of_bind_ok h
    obtain ⟨w', hx, hclose⟩ := ok_of_thenAlways_ok hx
    have hready := (Invocation.freshStatement_at P.attending hrun).ok hs hu
    have hfresh := kept (I := u.Apart []) hs (i.freshStatement_apart P.config.settings) (.self u)
    have hclosed := kept (ok_of_lift_ok hclose).1 s.closeQuietly_idles (.refl w'.database)
    obtain ⟨calls, hcalls, -⟩ := hclosed.log
    exact ((ran_of_execute_ok hready.database hx).after hfresh.database.prefix_log).before
      ⟨calls, hcalls.symm⟩
  | reuse m =>
    obtain ⟨s, w, hs, hx⟩ := ok_of_bind_ok h
    obtain ⟨m', hready⟩ := (Reuse.statement_at P.attending hrun).ok hs hu
    have hstatement := kept hs (Reuse.statement_inner P.config.settings m i) (.refl u)
    exact (ran_of_execute_ok hready.database hx).after hstatement.log
  | batch queue => exact absurd hu.type.symm htype

theorem ran_of_mutate_ok (hrun : ∀ i p, Mutates P.config command u i p → P.runs i p)
    (htype : P.type ≠ .batch) (hu : u.Rests P.type P.timeout P.Between)
    (h : (mutate P.config command).outcome u = (.ok n, v)) :
    ∃ x, submission P.config command u = .ok x ∧
      u.database.Ran x.invocation.bound.sql v.database := by
  cases hopen : u.session.closed with
  | true =>
    rw [mutate_of_closed hopen] at h
    cases h
  | false =>
    obtain ⟨e, hm⟩ | ⟨i, w, hb, -, hx, hm⟩ := mutate_cases P.config command hopen
    · cases hm.symm.trans h
    · rw [hm] at h
      have hclear : (u.withCache .empty).Rests P.type P.timeout P.Between :=
        Rests.blind.same hu rfl rfl rfl
      have hbefore := (Keys.before_rests P.attending (p := u.parameter)
        fun id property i hk hi => hrun i _ (.before hk hi)).ok hb ⟨hclear, rfl⟩
      have hgrows := kept (I := (u.withCache .empty).Apart []) hb
        (Keys.before_apart P.config command) (.self _)
      refine ⟨_, hx, ?_⟩
      exact (ran_of_carryOut_ok (hrun _ _ (.itself hx)) htype hbefore.at h).after
        hgrows.database.prefix_log

end SessionM

end Running

section Runs

variable {config : Configuration} {type : ExecutorType} {tr : Transaction} {autoCommit : Bool}
  {db : Database} {past : List Turn} {t : Turn} {w : World}

theorem Run.ran_of_accepted (hr : Run config (.opened db type tr autoCommit) past w)
    (htype : type ≠ .batch) (ht : t ∈ past) (ha : t.Accepted) :
    ∃ x s, t.submission? config = some x ∧
      ⟨.execute s x.invocation.bound.sql, .succeeded⟩ ∈ t.calls := by
  obtain ⟨older, newer, h⟩ := List.append_of_mem ht
  obtain ⟨w', step, hr', rfl⟩ := hr.split h
  obtain ⟨op, p, id, a, hstep, hm, hok⟩ := ha
  rw [World.turn_step] at hstep
  subst hstep
  obtain ⟨hresult, hdatabase, -⟩ := World.turn_mutation config (w := w') (p := p) hm
  rw [hok] at hresult
  have hbetween := hr'.between (.perform op p)
  cases hc : config.registry.find? id with
  | none =>
    rw [Session.mutate_of_missing hc] at hresult
    cases hresult
  | some c =>
    obtain ⟨p', hmutate⟩ := Session.mutate_of_found (s := w'.scope p) hc
    rw [hmutate] at hresult hdatabase
    rcases hx : (SessionM.mutate config c).outcome ((w'.scope p).withDirty true).wrapped with
      ⟨e | n, v⟩ <;> rw [hx] at hresult hdatabase
    · cases hresult
    · have hstart := Scope.Rests.blind.same (v := ((w'.scope p).withDirty true).wrapped)
        hbetween rfl rfl rfl
      obtain ⟨x, hsubmission, earlier, s, later, hlog⟩ := SessionM.ran_of_mutate_ok
        (P := (w'.turn config (.perform op p)).period config type tr.timeout
          (older.flatMap Turn.calls))
        (fun i q hi => ⟨op, p, World.turn_step _, by
          rw [World.turn_before]
          exact .mutation hm hc hi⟩) htype hstart hx
      refine ⟨x, s, World.submission?_of_found hm hc hsubmission, ?_⟩
      have hcalls : (w'.turn config (.perform op p)).calls =
          earlier ++ ⟨.execute s x.invocation.bound.sql, .succeeded⟩ :: later := by
        refine World.calls_of_log ?_
        rw [hdatabase, ← List.append_assoc]
        exact hlog
      simp [hcalls]

end Runs

namespace Batch

variable {config : Configuration} {past : List Turn} {t d : Turn} {w : World} {s : Statement}
  {queue queue' : List QueuedStatement}

theorem Fate.unsent_of_discarded (h : Fate past w s) (hd : Discarded past s) : Unsent past s := by
  obtain ⟨d, hmem, hd⟩ := hd
  cases h with
  | absent _ _ kept | queued _ _ _ kept | sent _ _ _ _ kept => exact absurd hd (kept d hmem)
  | discarded _ _ history => exact unsent_of_about history

theorem not_delivered_of_unsent (h : Unsent past s) :
    ¬ Delivered (past.flatMap Turn.calls) s := by
  rintro ⟨sql, n, o, -, he⟩
  obtain ⟨t, ht, he⟩ := List.mem_flatMap.mp he
  refine h n o (List.mem_flatMap.mpr ⟨t, ht, List.mem_filterMap.mpr ⟨_, he, ?_⟩⟩)
  simp [LogEntry.mark?]

theorem unsent_of_closes (h : t.Shift config queue queue') (hc : t.Closes) (n : Nat)
    (o : CallOutcome) : .sent s n o ∉ t.marks := by
  obtain ⟨p, hstep⟩ := hc
  cases h with
  | kept apart =>
    obtain ⟨calls, hlog, hmarks⟩ := apart.log
    rw [Turn.marks_of_log hlog hmarks]
    exact List.not_mem_nil
  | accepted accepted =>
    obtain ⟨op, q, id, a, hop, hm, -⟩ := accepted
    cases hstep.symm.trans hop
    cases hm
  | flushed sends =>
    obtain ⟨op, q, hop, hsends⟩ := sends
    cases hstep.symm.trans hop
    cases hsends
  | dropped settles =>
    obtain ⟨calls, hlog, hcommitted⟩ := settles.log
    rw [Turn.marks_of_log hlog rfl]
    intro hm
    cases hcommitted _ hm

end Batch

section Batches

variable {config : Configuration} {tr : Transaction} {autoCommit : Bool} {db : Database}
  {past : List Turn} {t d : Turn} {w : World} {s : Statement}

theorem Run.discards_of_closes (hr : Run config (.opened db .batch tr autoCommit) past w)
    (hd : d ∈ past) (hc : d.Closes) (hs : s ∈ statements d.before.queue) : d.Discards s := by
  obtain ⟨older, newer, h⟩ := List.append_of_mem hd
  obtain ⟨w', step, hr', rfl⟩ := hr.split h
  obtain ⟨hshift, hafter⟩ := (hr'.batched (.opened db tr autoCommit)).turn config step
  refine ⟨hs, ?_, unsent_of_closes hshift hc⟩
  by_cases hne : (w'.turn config step).after.queue = []
  · rw [hne]
    exact List.not_mem_nil
  · have hopen := hafter.isOpen hne
    rw [World.closed_of_closes hc] at hopen
    cases hopen

theorem Run.not_delivered_of_closes (hr : Run config (.opened db .batch tr autoCommit) past w)
    (hd : d ∈ past) (hc : d.Closes) (hs : s ∈ statements d.before.queue) :
    ¬ Delivered (past.flatMap Turn.calls) s := by
  have haccounted := hr.accounted (.opened db tr autoCommit)
  exact not_delivered_of_unsent
    ((haccounted.fate s).unsent_of_discarded ⟨d, hd, hr.discards_of_closes hd hc hs⟩)

theorem Run.entered_of_accepted (hr : Run config (.opened db .batch tr autoCommit) past w)
    (hkept : ∀ t ∈ past, ¬ t.RollsBack) (ht : t ∈ past) (ha : t.Accepted) :
    ∃ x s, t.submission? config = some x ∧ t.Enters x s ∧
      (Delivered (past.flatMap Turn.calls) s ∨
        (s ∈ statements w.queue ∧ w.session.closed = false) ∨
        ∃ d ∈ past, d.Discards s ∧ (d.Closes ∨ d.BreaksBefore s)) := by
  have haccounted := hr.accounted (.opened db tr autoCommit)
  obtain ⟨x, s, hx, henters, hmarks⟩ := (haccounted.turns t ht).entry ha
  have hadded : .added s ∈ marks past :=
    List.mem_flatMap.mpr ⟨t, ht, hmarks ▸ List.mem_singleton_self _⟩
  refine ⟨x, s, hx, henters, ?_⟩
  obtain ⟨hqueued, -⟩ | ⟨-, hsent, -⟩ | ⟨-, -, d, hd, hgone⟩ :=
    (haccounted.fate s).state_of_added hadded
  · refine .inr (.inl ⟨hqueued, haccounted.batched.isOpen ?_⟩)
    intro hempty
    rw [hempty] at hqueued
    cases hqueued
  · exact .inl (delivered_of_sent hsent)
  · refine .inr (.inr ⟨d, hd, hgone, ?_⟩)
    exact ((haccounted.turns d hd).cause hgone).resolve_left (hkept d hd)

end Batches

/-- In a session that is not rolled back, each mutation that is accepted has its text executed in its
turn, or an entry with it is queued. The entry is executed with the queue, or it waits for that as
long as the session is open, or it is lost: when the session is closed before, or when sending fails
at a statement before. All that is queued when the session is closed is lost. -/
theorem Run.mutations_executed {config : Configuration} {type : ExecutorType} {tr : Transaction}
    {autoCommit : Bool} {db : Database} {past : List Turn} {w : World}
    (hr : Run config (.opened db type tr autoCommit) past w)
    (hkept : ∀ t ∈ past, ¬ t.RollsBack) :
    (∀ t ∈ past, t.Accepted → ∃ x s, t.submission? config = some x ∧
      (⟨.execute s x.invocation.bound.sql, .succeeded⟩ ∈ t.calls ∨
        (type = .batch ∧ t.Enters x s ∧
          (Delivered (past.flatMap Turn.calls) s ∨
            (s ∈ statements w.queue ∧ w.session.closed = false) ∨
            ∃ d ∈ past, d.Discards s ∧ (d.Closes ∨ d.BreaksBefore s))))) ∧
    (type = .batch → ∀ d ∈ past, d.Closes → ∀ s ∈ statements d.before.queue,
      ¬ Delivered (past.flatMap Turn.calls) s) := by
  refine ⟨fun t ht ha => ?_, fun htype d hd hc s hs => ?_⟩
  · by_cases htype : type = .batch
    · subst htype
      obtain ⟨x, s, hx, hentered⟩ := hr.entered_of_accepted hkept ht ha
      exact ⟨x, s, hx, .inr ⟨rfl, hentered⟩⟩
    · obtain ⟨x, s, hx, hran⟩ := hr.ran_of_accepted htype ht ha
      exact ⟨x, s, hx, .inl hran⟩
  · subst htype
    exact hr.not_delivered_of_closes hd hc hs

/-- A session in auto-commit mode. -/
def freeWorld (type : ExecutorType) : World := .opened smallDatabase type (.overSource true none) true

def freeTurn (type : ExecutorType) : Turn :=
  (freeWorld type).turn smallConfig (insertStep "add")

/-- The session is closed after the insert. -/
def closingTurn (type : ExecutorType) : Turn :=
  (freeTurn type).after.turn smallConfig (.perform .close .absent)

/-- Where nothing is queued, the insert is executed before the session is closed. -/
theorem insert_executed_before_close :
    Run smallConfig (freeWorld .reuse) [freeTurn .reuse, closingTurn .reuse]
        (closingTurn .reuse).after ∧
      (∀ t ∈ [freeTurn .reuse, closingTurn .reuse], ¬ t.RollsBack) ∧ (freeTurn .reuse).Accepted ∧
      ∃ x s, (freeTurn .reuse).submission? smallConfig = some x ∧
        ⟨.execute s x.invocation.bound.sql, .succeeded⟩ ∈ (freeTurn .reuse).calls := by
  have hrun : Run smallConfig (freeWorld .reuse) [freeTurn .reuse, closingTurn .reuse]
      (closingTurn .reuse).after := .turn (.turn .start _) _
  have hkept : ∀ t ∈ [freeTurn .reuse, closingTurn .reuse], ¬ t.RollsBack := by
    rintro t ht ⟨force, p, hstep⟩
    obtain rfl | rfl := List.mem_pair.mp ht <;> cases hstep
  have haccepted : (freeTurn .reuse).Accepted := ⟨_, _, "add", _, rfl, rfl, rfl⟩
  obtain ⟨x, s, hx, hran⟩ := (hrun.mutations_executed hkept).1 _ List.mem_cons_self haccepted
  exact ⟨hrun, hkept, haccepted, x, s, hx, hran.resolve_right fun h => nomatch h.1⟩

/-- A batch session has accepted the insert, no call has failed, and nothing was rolled back. Once it
is closed the insert has not been executed, although the session commits by itself. -/
theorem queued_insert_lost :
    Run smallConfig (freeWorld .batch) [freeTurn .batch, closingTurn .batch]
        (closingTurn .batch).after ∧
      (freeWorld .batch).session.autoCommit = true ∧ (freeTurn .batch).Accepted ∧
      (closingTurn .batch).after.session.closed = true ∧
      (∀ t ∈ [freeTurn .batch, closingTurn .batch], ¬ t.RollsBack) ∧
      (∀ t ∈ [freeTurn .batch, closingTurn .batch], ∀ e ∈ t.calls, e.outcome = .succeeded) ∧
      ∀ t ∈ [freeTurn .batch, closingTurn .batch], ∀ e ∈ t.calls, ∀ s sql n,
        e.call ≠ .execute s sql ∧ e.call ≠ .executeBatch s sql n := by
  refine ⟨.turn (.turn .start _) _, rfl, ⟨_, _, "add", _, rfl, rfl, rfl⟩, rfl, ?_, by decide, ?_⟩
  · rintro t ht ⟨force, p, hstep⟩
    obtain rfl | rfl := List.mem_pair.mp ht <;> cases hstep
  · have hinsert : (freeTurn .batch).calls = [⟨.connect ⟨0⟩, .succeeded⟩,
        ⟨.readAutoCommit ⟨0⟩, .succeeded⟩,
        ⟨.prepare ⟨0⟩ ⟨0⟩ (.prepared "INSERT 1" false), .succeeded⟩,
        ⟨.addBatch ⟨0⟩ "INSERT 1", .succeeded⟩] := by decide
    have hclose : (closingTurn .batch).calls = [⟨.closeStatement ⟨0⟩ "INSERT 1", .succeeded⟩,
        ⟨.closeConnection ⟨0⟩, .succeeded⟩] := by decide
    intro t ht e he s sql n
    obtain rfl | rfl := List.mem_pair.mp ht
    · rw [hinsert] at he
      simp only [List.mem_cons, List.not_mem_nil, or_false] at he
      obtain rfl | rfl | rfl | rfl := he <;> exact ⟨nofun, nofun⟩
    · rw [hclose] at he
      simp only [List.mem_cons, List.not_mem_nil, or_false] at he
      obtain rfl | rfl := he <;> exact ⟨nofun, nofun⟩

end SqlMapper
