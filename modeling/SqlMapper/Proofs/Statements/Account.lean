import SqlMapper.Proofs.Batch.State
import SqlMapper.Proofs.Statements.Ledger

namespace SqlMapper

open Fallible

namespace World

/-- How many cursors have been opened and not yet been exhausted, failed or closed. To drop a cursor
is to close it. -/
def liveCursors (w : World) : Nat := w.cursors.countP (·.state = .isOpen)

theorem Balanced.length_cursorStatements {H : Transaction → List Statement → Database → Prop}
    {type : ExecutorType} {w : World} (h : w.Balanced H type) :
    w.cursorStatements.length = w.liveCursors := by
  rw [cursorStatements, List.length_filterMap_eq_countP, liveCursors]
  refine List.countP_congr fun c hc => ?_
  rw [Option.isSome_iff_ne_none, decide_eq_true_iff]
  exact (h.sound c hc).symm

end World

/-- How many statements there are in the strategy: one for each text, or one for each entry of the
queue. -/
def Strategy.kept : Strategy → Nat
  | simple => 0
  | reuse statements => statements.names.eraseDups.length
  | batch queue => queue.length

theorem NameMap.Sorted.eraseDups_names {α : Type} {m : NameMap α} (h : m.Sorted) :
    m.names.eraseDups = m.names := by
  induction m with
  | nil => rfl
  | cons e rest ih =>
    obtain ⟨hlt, hrest⟩ := List.pairwise_cons.mp h
    have hfilter : (NameMap.names rest).filter (fun n => !n == e.1) = NameMap.names rest := by
      refine List.filter_eq_self.mpr fun n hn => ?_
      obtain ⟨d, hd, rfl⟩ := List.mem_map.mp hn
      have hne : d.1 ≠ e.1 := fun he => String.lt_irrefl e.1 (he ▸ hlt d hd)
      simpa using hne
    change (e.1 :: NameMap.names rest).eraseDups = e.1 :: NameMap.names rest
    rw [List.eraseDups_cons, hfilter, ih hrest]

theorem Strategy.length_statements {st : Strategy} (h : st.Sorted) :
    st.statements.length = st.kept := by
  cases st with
  | simple => rfl
  | reuse m =>
    rw [kept, NameMap.Sorted.eraseDups_names h]
    simp [statements, NameMap.names]
  | batch queue => exact List.length_map _

theorem World.Balanced.length_statements {H : Transaction → List Statement → Database → Prop}
    {type : ExecutorType} {w : World} (h : w.Balanced H type) :
    w.session.strategy.statements.length = w.session.strategy.kept :=
  Strategy.length_statements h.tends.sorted

/-- The turn is an operation after which an open session keeps no statement. -/
def Turn.Empties (t : Turn) : Prop :=
  t.before.session.closed = false ∧ ∃ op p, t.step = .perform op p ∧ op.Empties

namespace Run

variable {config : Configuration} {db : Database} {type : ExecutorType} {tr : Transaction}
  {autoCommit : Bool} {past : List Turn} {w : World}

theorem tallied (hr : Run config (.opened db type tr autoCommit) past w) :
    w.Balanced (fun _ => Tallied db) type :=
  hr.balanced (Ledger.lasting db) (.opened ⟨_, .start db⟩ type autoCommit)

theorem ledger (hr : Run config (.opened db type tr autoCommit) past w) :
    Ledger db (past.flatMap Turn.calls) (w.session.strategy.statements ++ w.cursorStatements)
      w.database := by
  obtain ⟨calls, h⟩ := hr.tallied.tends.holding.holds
  rw [← hr.calls_eq h.log]
  exact h

/-- As long as every statement that is to be closed is closed. -/
theorem openStatements_eq (hr : Run config (.opened db type tr autoCommit) past w)
    (hclose : ∀ e ∈ past.flatMap Turn.calls, e.leavesOpen = false) :
    w.database.openStatements = db.openStatements + (w.liveCursors + w.session.strategy.kept) := by
  have hnone : (past.flatMap Turn.calls).countP LogEntry.leavesOpen = 0 :=
    List.countP_eq_zero.mpr fun e he => by simp [hclose e he]
  rw [hr.ledger.openStatements, hnone, List.length_append, hr.tallied.length_cursorStatements,
    hr.tallied.length_statements]
  omega

/-- As long as every statement that is to be closed is closed, the open statements that there were
not at the start are those of live cursors and those that the strategy keeps: they have been created
and not been closed. Calls on a statement come between its creation and its closing, which nobody
attempts twice. An open session that has been flushed, committed, rolled back or closed leaves the
live cursors alone with theirs. -/
theorem statements_accounted (hr : Run config (.opened db type tr autoCommit) past w)
    (hclose : ∀ e ∈ past.flatMap Turn.calls, e.leavesOpen = false) :
    w.database.openStatements = db.openStatements + (w.liveCursors + w.session.strategy.kept) ∧
    (∀ s : Statement, s.InUse (past.flatMap Turn.calls) ↔
      s ∈ w.session.strategy.statements ++ w.cursorStatements) ∧
    (∀ s : Statement, s.InUse (past.flatMap Turn.calls) → (w.database.statement s).closed = false) ∧
    Orderly (past.flatMap Turn.calls) ∧
    ∀ t ∈ past, t.Empties →
      t.after.session.strategy.kept = 0 ∧
      t.after.database.openStatements = db.openStatements + t.after.liveCursors := by
  have hin := hr.tallied.tends.holding.inHand
  refine ⟨hr.openStatements_eq hclose, hr.ledger.inUse, fun s hs => ?_, hr.ledger.orderly,
    fun t ht hempties => ?_⟩
  · exact hin.isOpen s ((hr.ledger.inUse s).mp hs)
  obtain ⟨older, newer, rfl⟩ := List.append_of_mem ht
  obtain ⟨w', step, hrun, rfl⟩ := hr.split rfl
  obtain ⟨hopen, op, p, hstep, hop⟩ := hempties
  rw [World.turn_before] at hopen
  rw [World.turn_step] at hstep
  subst hstep
  have hnext := hrun.turn (.perform op p)
  have hkept : (w'.turn config (.perform op p)).after.session.strategy.kept = 0 := by
    rw [← hnext.tallied.length_statements, hrun.tallied.spare config (Ledger.lasting db) hopen hop p]
    rfl
  have hcount := hnext.openStatements_eq fun e he => hclose e ?_
  · rw [hkept, Nat.add_zero] at hcount
    exact ⟨hkept, hcount⟩
  · obtain ⟨t, ht, he⟩ := List.mem_flatMap.mp he
    refine List.mem_flatMap.mpr ⟨t, ?_, he⟩
    obtain ht | ht := List.mem_append.mp ht
    · exact List.mem_append_left _ ht
    · obtain rfl := List.mem_singleton.mp ht
      exact List.mem_append_right _ List.mem_cons_self

end Run

def cursorWorld : World :=
  ((smallWorld.turn smallConfig (.perform (.selectCursor "all" .all) .absent)).after.turn
    smallConfig (insertStep "add")).after

/-- The one statement is the cursor's, the other the queue's. -/
theorem cursor_and_queue_accounted :
    cursorWorld.liveCursors = 1 ∧ cursorWorld.session.strategy.kept = 1 ∧
      cursorWorld.database.openStatements = 2 := by
  have hrun : Run smallConfig smallWorld _ cursorWorld := .turn (.turn .start _) _
  exact ⟨rfl, rfl, (Run.statements_accounted hrun (by decide)).1⟩

end SqlMapper
