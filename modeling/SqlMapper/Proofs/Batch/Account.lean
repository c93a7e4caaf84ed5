import SqlMapper.Proofs.Batch.Fate
import SqlMapper.Proofs.Batch.Order

namespace SqlMapper

open Fallible Batch

namespace Turn

variable {config : Configuration} {t : Turn} {s : Statement}

variable (config t) in
def pending? (queue : List QueuedStatement) : Option Submission :=
  match t.added? with
  | some s => if s ∈ statements queue then t.submission? config else none
  | none => none

theorem mem_marks_of_added? (h : t.added? = some s) : .added s ∈ t.marks := by
  obtain ⟨m, hm, he⟩ := List.exists_of_findSome?_eq_some h
  cases m <;> cases he
  exact hm

theorem added?_of_marks (h : t.marks = [.added s]) : t.added? = some s := by
  rw [added?, h]
  rfl

theorem pending?_nil : t.pending? config [] = none := by
  unfold pending?
  split
  · exact if_neg List.not_mem_nil
  · rfl

theorem pending?_congr {queue queue' : List QueuedStatement}
    (h : ∀ s, t.added? = some s → (s ∈ statements queue' ↔ s ∈ statements queue)) :
    t.pending? config queue' = t.pending? config queue := by
  unfold pending?
  split
  · next s hs => simp only [h s hs]
  · rfl

end Turn

namespace Batch

variable {config : Configuration} {past : List Turn} {w : World} {t : Turn} {s : Statement}

/-- The mutations whose entries are in the queue, in the order in which they were accepted. -/
def pending (config : Configuration) (past : List Turn) (queue : List QueuedStatement) :
    List Submission :=
  past.filterMap (·.pending? config queue)

theorem added_mem_marks (ht : t ∈ past) (h : t.added? = some s) : .added s ∈ marks past :=
  List.mem_flatMap.mpr ⟨t, ht, Turn.mem_marks_of_added? h⟩

theorem pending_snoc (queue : List QueuedStatement) :
    pending config (past ++ [t]) queue =
      pending config past queue ++ (t.pending? config queue).toList := by
  rw [pending, List.filterMap_append]
  rfl

theorem pending_nil : pending config past [] = [] :=
  List.filterMap_eq_nil_iff.mpr fun _ _ => Turn.pending?_nil

theorem pending_of_push {x : Submission} {queue queue' : List QueuedStatement}
    (h : Ordered past t.before) (hready : Ready queue' t.after.database)
    (hpush : Push x queue s queue')
    (hnew : s ∈ statements queue ∨ t.before.database.statements.length ≤ s.index) :
    pending config past queue' = pending config past queue := by
  refine List.filterMap_congr fun t' ht' => Turn.pending?_congr fun s' hs' => ?_
  refine ⟨fun hmem => ?_, hpush.statements_subset s'⟩
  obtain hold | rfl := hpush.old_of_mem hmem
  · exact hold
  · obtain ⟨last, hlast, rfl⟩ | hunmade := hpush.last_or_new hready hnew
    · exact List.mem_map_of_mem (List.mem_of_getLast? hlast)
    · have hmade := (h.added s' (added_mem_marks ht' hs')).1
      omega

structure Accounted (config : Configuration) (past : List Turn) (w : World) : Prop where
  batched : w.Batched
  fate : ∀ s, Fate past w s
  ordered : Ordered past w
  holds : Holds w.queue (pending config past w.queue)
  turns : ∀ t ∈ past, t.Moves config t.before.queue t.after.queue

theorem holds_turn {t : Turn} (h : Holds t.before.queue (pending config past t.before.queue))
    (hordered : Ordered past t.before) (hready : Ready t.after.queue t.after.database)
    (hmoves : t.Moves config t.before.queue t.after.queue) :
    Holds t.after.queue (pending config (past ++ [t]) t.after.queue) := by
  generalize t.before.queue = queue at h hmoves
  generalize t.after.queue = queue' at hready hmoves
  cases hmoves with
  | kept marks =>
    have hnone : t.pending? config queue = none := by
      rw [Turn.pending?, Turn.added?, marks]
      rfl
    rwa [pending_snoc, hnone, Option.toList_none, List.append_nil]
  | @accepted x s _ _ submission _ marks push old_or_new =>
    have hsome : t.pending? config queue' = some x := by
      rw [Turn.pending?, Turn.added?_of_marks marks]
      exact (if_pos push.mem_statements).trans submission
    rw [pending_snoc, hsome, pending_of_push hordered hready push old_or_new]
    exact h.push push
  | emptied =>
    rw [pending_nil]
    exact .nil

namespace Accounted

theorem opened (db : Database) (tr : Transaction) (autoCommit : Bool) :
    Accounted config [] (.opened db .batch tr autoCommit) where
  batched := .opened db tr autoCommit
  fate _ := .absent List.not_mem_nil rfl fun _ h => absurd h List.not_mem_nil
  ordered := .start _
  holds := .nil
  turns _ h := absurd h List.not_mem_nil

theorem turn (h : Accounted config past w) (step : Step) :
    Accounted config (past ++ [w.turn config step]) (w.turn config step).after := by
  obtain ⟨hshift, hafter⟩ := h.batched.turn config step
  have hbefore : (w.turn config step).before = w := w.turn_before step
  generalize w.turn config step = t at *
  subst hbefore
  have hready := h.batched.ready
  have hle := hshift.length_le hready
  have hmoves := hshift.moves hready
  refine ⟨hafter, fun s => (h.fate s).turn h.batched hafter hle hmoves,
    h.ordered.turn h.batched hafter hle hmoves,
    holds_turn h.holds h.ordered hafter.ready hmoves, fun t' ht' => ?_⟩
  obtain ht' | ht' := List.mem_append.mp ht'
  · exact h.turns t' ht'
  · cases List.mem_singleton.mp ht'
    exact hmoves

end Accounted

end Batch

theorem Run.accounted {config : Configuration} {start w : World} {past : List Turn}
    (hstart : Accounted config [] start) (hr : Run config start past w) :
    Accounted config past w := by
  induction hr with
  | start => exact hstart
  | turn _ step ih => exact ih.turn step

/-- A mutation that a batch session accepts gets one entry of one statement. From then on the
statement is queued, or its entries have been sent with one call, or it has been discarded, which
takes a rollback, a close or a failure at a statement before it. Mutations that are refused get no
entry, statements are sent in the order in which mutations were accepted, and what sends the queue
and ends well leaves it empty, with a result for each longest run of mutations with one command and
one text if it answers results. -/
theorem Run.mutations_accounted {config : Configuration} {db : Database} {tr : Transaction}
    {autoCommit : Bool} {past : List Turn} {w : World}
    (hr : Run config (.opened db .batch tr autoCommit) past w) :
    (∀ t ∈ past, t.Accepted → ∃ x s, t.submission? config = some x ∧ t.Enters x s ∧
      t.marks = [.added s]) ∧
    (∀ t ∈ past, ¬ t.Accepted → ∀ s, .added s ∉ t.marks) ∧
    (∀ t ∈ past, ∀ s, .added s ∈ t.marks →
      (s ∈ statements w.queue ∧ Unsent past s ∧ ¬ Discarded past s) ∨
      (s ∉ statements w.queue ∧ Sent past s ∧ ¬ Discarded past s) ∨
      (s ∉ statements w.queue ∧ Unsent past s ∧ Discarded past s)) ∧
    (∀ t ∈ past, ∀ s, t.Discards s → t.RollsBack ∨ t.Closes ∨ t.BreaksBefore s) ∧
    (∀ older t newer, past = older ++ t :: newer → ∀ t' ∈ newer, ∀ s s' n n' o o',
      .added s ∈ t.marks → .added s' ∈ t'.marks → .sent s n o ∈ marks past →
      .sent s' n' o' ∈ marks past →
      s = s' ∨ [.sent s n o, .sent s' n' o'].Sublist (marks past)) ∧
    (∀ step a, (w.turn config step).Sends → (w.turn config step).result = some (.ok a) →
      (w.turn config step).after.queue = []) ∧
    ∀ step results, (w.turn config step).Answers results →
      (w.turn config step).after.queue = [] ∧
      List.Forall₂ Reports ((pending config past w.queue).splitBy Submission.alike) results := by
  have h := hr.accounted (.opened db tr autoCommit)
  refine ⟨fun t ht ha => ?_, fun t ht hn s => (h.turns t ht).not_mem_added hn, fun t ht s hs => ?_,
    fun t ht s hd => (h.turns t ht).cause hd, ?_,
    fun step a hs ha => h.batched.queue_of_sends hs ha, fun step results ha => ?_⟩
  · exact (h.turns t ht).entry ha
  · exact (h.fate s).state_of_added (List.mem_flatMap.mpr ⟨t, ht, hs⟩)
  · intro older t newer hpast t' ht' s s' n n' o o' hs hs' hsent hsent'
    exact h.ordered.sublist_of_sent hpast ht' hs hs' hsent hsent'
  · obtain ⟨hempty, hgives⟩ := h.batched.gives_of_answers ha
    exact ⟨hempty, reports_of_gives h.holds.splitBy hgives⟩

/-- An insert that is accepted, and sent by the flush that follows. -/
theorem insert_accounted :
    ∃ past results, Run smallConfig smallWorld past
        (smallWorld.turn smallConfig (insertStep "add")).after ∧
      ((smallWorld.turn smallConfig (insertStep "add")).after.turn smallConfig
        (.perform .flushStatements .absent)).Answers results ∧
      List.Forall₂ Reports ((pending smallConfig past
        (smallWorld.turn smallConfig (insertStep "add")).after.queue).splitBy Submission.alike)
        results := by
  have hrun : Run smallConfig smallWorld _ _ := .turn .start (insertStep "add")
  have hanswers : ((smallWorld.turn smallConfig (insertStep "add")).after.turn smallConfig
    (.perform .flushStatements .absent)).Answers [⟨"add", "INSERT 1", [.absent], [1]⟩] := rfl
  obtain ⟨-, -, -, -, -, -, hreports⟩ := Run.mutations_accounted hrun
  exact ⟨_, _, hrun, hanswers, (hreports _ _ hanswers).2⟩

end SqlMapper
