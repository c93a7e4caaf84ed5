import SqlMapper.Proofs.Batch.Results

namespace SqlMapper

open Fallible Batch

def Mark.statement? : Mark → Option Statement
  | .added s | .sent s _ _ => some s
  | .committed => none

/-- Statements get entries and are sent in the order in which they were created. -/
def Mark.Before : Mark → Mark → Prop
  | .added s, .added s' => s.index ≤ s'.index
  | .sent s _ _, .sent s' _ _ => s.index < s'.index
  | _, _ => True

namespace Batch

def marks (past : List Turn) : List Mark := past.flatMap Turn.marks

theorem marks_snoc (past : List Turn) (t : Turn) : marks (past ++ [t]) = marks past ++ t.marks := by
  simp [marks]

def about (s : Statement) (ms : List Mark) : List Mark :=
  ms.filter fun m => decide (m.statement? = some s)

/-- The mark of a queued statement that was sent, whether or not its entries were executed. -/
def SentAs (q : QueuedStatement) (m : Mark) : Prop :=
  ∃ o, o ≠ .refused ∧ m = .sent q.statement q.parameters.length o

theorem exists_of_mem_sent {done : List QueuedStatement} {ms : List Mark} {m : Mark}
    (h : List.Forall₂ SentAs done ms) (hm : m ∈ ms) : ∃ q ∈ done, SentAs q m := by
  induction h with
  | nil => cases hm
  | @cons q m' done ms hq _ ih =>
    obtain rfl | hm := List.mem_cons.mp hm
    · exact ⟨q, List.mem_cons_self, hq⟩
    · obtain ⟨q', hq', hs⟩ := ih hm
      exact ⟨q', List.mem_cons_of_mem _ hq', hs⟩

end Batch

namespace Turn

variable (config : Configuration) (t : Turn)

def added? : Option Statement :=
  t.marks.findSome? fun
    | .added s => some s
    | _ => none

/-- The bindings and one entry of `x` are the last calls of the turn. -/
def Enters (x : Submission) (s : Statement) : Prop :=
  ∃ earlier bindings sql, t.calls = earlier ++ bindings ++ [⟨.addBatch s sql, .succeeded⟩] ∧
    x.invocation.Bindings x.parameter s bindings

/-- The statement leaves the queue without having been sent. -/
def Discards (s : Statement) : Prop :=
  s ∈ statements t.before.queue ∧ s ∉ statements t.after.queue ∧ ∀ n o, .sent s n o ∉ t.marks

/-- Sending the queue failed at a statement before `s`. -/
def BreaksBefore (s : Statement) : Prop :=
  t.Sends ∧ ∃ b i, t.result = some (.error (.partialBatch b)) ∧ b.index < i ∧
    (statements t.before.queue)[i]? = some s

inductive Moves (queue : List QueuedStatement) : List QueuedStatement → Prop where
  | kept (marks : t.marks = []) (refused : ¬ t.Accepted) : Moves queue queue
  | accepted {x : Submission} {s : Statement} {queue' : List QueuedStatement}
    (accepted : t.Accepted) (submission : t.submission? config = some x) (enters : t.Enters x s)
    (marks : t.marks = [.added s]) (push : Push x queue s queue')
    (old_or_new : s ∈ statements queue ∨ t.before.database.statements.length ≤ s.index) :
    Moves queue queue'
  | emptied {done rest : List QueuedStatement} {sent others : List Mark} (refused : ¬ t.Accepted)
    (origin : t.Sends ∨ t.RollsBack ∨ t.Closes) (split : queue = done ++ rest)
    (marks : t.marks = sent ++ others) (sent_done : List.Forall₂ SentAs done sent)
    (others_committed : ∀ m ∈ others, m = .committed)
    (cause : rest ≠ [] → t.RollsBack ∨ t.Closes ∨ t.Sends ∧
      ∃ b, t.result = some (.error (.partialBatch b)) ∧ b.index < done.length) :
    Moves queue []

end Turn

namespace Turn

variable {config : Configuration} {t : Turn} {queue queue' : List QueuedStatement}

theorem marks_of_log {calls : List LogEntry} {ms : List Mark}
    (h : t.after.database.log = t.before.database.log ++ calls)
    (hm : calls.filterMap LogEntry.mark? = ms) : t.marks = ms := by
  rw [marks, Turn.calls, h, List.drop_left, hm]

theorem not_accepted_of_releases (h : t.RollsBack ∨ t.Closes) : ¬ t.Accepted := by
  rintro ⟨op, p, id, a, hstep, hm, -⟩
  rcases h with ⟨force, p', h⟩ | ⟨p', h⟩ <;> cases hstep.symm.trans h <;> cases hm

theorem sentAs_map (done : List QueuedStatement) :
    List.Forall₂ SentAs done (done.map sentMark) :=
  List.forall₂_map_right_iff.mpr (List.forall₂_same.mpr fun _ _ => ⟨.succeeded, nofun, rfl⟩)

theorem moves_of_flushes {u v : Scope} {r : Except Error (List BatchResult)}
    (hready : Ready queue t.before.database) (hstart : u.database = t.before.database)
    (hsends : t.Sends) (hflushes : Flushes config queue u r v)
    (herror : ∀ e, r = .error e → t.result = some (.error e))
    (hrest : v.database.Settles t.after.database) (hrefused : ¬ t.Accepted) :
    t.Moves config queue [] := by
  obtain ⟨others, hothers, hcommitted⟩ := hrest.log
  have hmarks : ∀ {calls ms}, v.database.log = u.database.log ++ calls →
      calls.filterMap LogEntry.mark? = ms → t.marks = ms ++ others.filterMap LogEntry.mark? := by
    intro calls ms hlog hms
    have hcalls : t.after.database.log = t.before.database.log ++ (calls ++ others) := by
      rw [hothers, hlog, hstart, List.append_assoc]
    exact marks_of_log hcalls (by rw [List.filterMap_append, hms])
  cases hflushes with
  | sent hsent =>
    have hready' : Ready (queue ++ []) (emptied u).database := by
      rw [List.append_nil]
      exact hstart ▸ hready
    have ha := sends_advance hready' hsent
    obtain ⟨calls, hlog, hms, -⟩ := ha.log
    exact .emptied hrefused (.inl hsends) (List.append_nil _).symm (hmarks hlog hms)
      (sentAs_map _) hcommitted fun hne => absurd rfl hne
  | @broken done rest q results w u' e counts hqueue hsent hq =>
    subst hqueue
    obtain ⟨o, ho, ha⟩ := failed_advance (s := emptied u) (hstart ▸ hready) hsent hq
    obtain ⟨calls, hlog, hms, -⟩ := ha.log
    obtain ⟨found, reason, hpartial, -⟩ := partialFailure_eq results.length q counts results e
    refine .emptied hrefused (.inl hsends) (List.append_cons done q rest)
      (hmarks hlog hms) (forall₂_snoc (sentAs_map done) ⟨o, ho, rfl⟩) hcommitted fun _ => ?_
    refine .inr (.inr ⟨hsends, _, (herror _ rfl).trans (by rw [hpartial]), ?_⟩)
    have hlength := congrArg List.length (results_of_sends hsent)
    simp only [List.length_map] at hlength
    simp [hlength]

theorem Shift.moves (h : t.Shift config queue queue') (hready : Ready queue t.before.database) :
    t.Moves config queue queue' := by
  cases h with
  | kept apart _ refused =>
    obtain ⟨calls, hlog, hms⟩ := apart.log
    exact .kept (marks_of_log hlog hms) refused
  | @accepted x s u st queue' accepted submits start finish accepts =>
    obtain ⟨earlier, bindings, sql, hlog, hearlier, hbindings⟩ := accepts.log
    rw [start, finish] at hlog
    have hcalls : t.after.database.log = t.before.database.log ++
        (earlier ++ bindings ++ [⟨.addBatch st sql, .succeeded⟩]) := by
      rw [hlog]
      simp
    refine .accepted accepted submits ⟨earlier, bindings, sql, ?_, hbindings⟩
      (marks_of_log hcalls ?_) accepts.push ?_
    · rw [Turn.calls, hcalls, List.drop_left]
    · rw [List.filterMap_append, List.filterMap_append, hearlier, hbindings.marks]
      rfl
    · rw [← start]
      exact accepts.old_or_new
  | flushed sends start flushes error rest refused =>
    exact moves_of_flushes hready start sends flushes (fun e he => (error e he).1) rest refused
  | dropped settles unsent =>
    obtain ⟨others, hlog, hcommitted⟩ := settles.log
    exact .emptied (not_accepted_of_releases unsent) (.inr unsent) (List.nil_append queue).symm
      (marks_of_log hlog (List.nil_append _).symm) .nil hcommitted fun _ => by
        obtain h | h := unsent
        · exact .inl h
        · exact .inr (.inl h)

variable {s : Statement}

theorem mem_marks_of_sentAs {done : List QueuedStatement} {sent others : List Mark}
    (hmarks : t.marks = sent ++ others) (h : List.Forall₂ SentAs done sent)
    (hs : s ∈ statements done) : ∃ n o, .sent s n o ∈ t.marks := by
  suffices hsent : ∃ n o, .sent s n o ∈ sent by
    obtain ⟨n, o, hm⟩ := hsent
    exact ⟨n, o, hmarks ▸ List.mem_append_left _ hm⟩
  clear hmarks
  induction h with
  | nil => cases hs
  | @cons q m done sent hq _ ih =>
    obtain rfl | hs := List.mem_cons.mp hs
    · obtain ⟨o, -, rfl⟩ := hq
      exact ⟨_, o, List.mem_cons_self⟩
    · obtain ⟨n, o, hm⟩ := ih hs
      exact ⟨n, o, List.mem_cons_of_mem _ hm⟩

/-- There are no more reasons for which a statement may leave the queue without having been sent. -/
theorem Moves.cause (h : t.Moves config t.before.queue t.after.queue) (hd : t.Discards s) :
    t.RollsBack ∨ t.Closes ∨ t.BreaksBefore s := by
  obtain ⟨hqueued, hgone, hunsent⟩ := hd
  generalize hq : t.before.queue = queue at h hqueued
  generalize hq' : t.after.queue = queue' at h hgone
  cases h with
  | kept => exact absurd hqueued hgone
  | accepted _ _ _ _ push => exact absurd (push.statements_subset s hqueued) hgone
  | @emptied done rest sent others _ _ split marks sent_done _ cause =>
    subst split
    rw [statements, List.map_append] at hqueued
    obtain hdone | hrest := List.mem_append.mp hqueued
    · obtain ⟨n, o, hm⟩ := mem_marks_of_sentAs marks sent_done hdone
      exact absurd hm (hunsent n o)
    · have hne : rest ≠ [] := fun he => by
        rw [he] at hrest
        cases hrest
      refine (cause hne).imp_right fun h => h.imp_right ?_
      rintro ⟨hsends, b, hb, hlt⟩
      obtain ⟨j, hj, rfl⟩ := List.getElem_of_mem hrest
      refine ⟨hsends, b, done.length + j, hb, Nat.lt_of_lt_of_le hlt (Nat.le_add_right _ _), ?_⟩
      rw [hq, statements, List.map_append, List.getElem?_append_right (by simp)]
      simp [List.getElem?_eq_getElem hj]

theorem Moves.not_mem_added {queue queue' : List QueuedStatement} (h : t.Moves config queue queue')
    (hr : ¬ t.Accepted) : .added s ∉ t.marks := by
  cases h with
  | kept marks =>
    rw [marks]
    exact List.not_mem_nil
  | accepted accepted => exact absurd accepted hr
  | emptied _ _ _ marks sent_done others_committed =>
    rw [marks, List.mem_append]
    rintro (hm | hm)
    · obtain ⟨q, -, o, -, he⟩ := exists_of_mem_sent sent_done hm
      cases he
    · cases others_committed _ hm

theorem Moves.entry {queue queue' : List QueuedStatement} (h : t.Moves config queue queue')
    (ha : t.Accepted) :
    ∃ x s, t.submission? config = some x ∧ t.Enters x s ∧ t.marks = [.added s] := by
  cases h with
  | kept _ refused => exact absurd ha refused
  | accepted _ submission enters marks => exact ⟨_, _, submission, enters, marks⟩
  | emptied refused => exact absurd ha refused

end Turn

namespace World.Batched

variable {config : Configuration} {w : World}

theorem queue_of_sends (h : w.Batched) {step : Step} {a : Session.Answer}
    (hs : (w.turn config step).Sends) (ha : (w.turn config step).result = some (.ok a)) :
    (w.turn config step).after.queue = [] := by
  obtain ⟨hshift, -⟩ := h.turn config step
  generalize (w.turn config step).after.queue = queue' at hshift
  generalize hw : w.queue = queue at hshift
  cases hshift with
  | kept _ _ _ _ cause =>
    obtain ⟨e, he⟩ | hne := cause hs
    · cases ha.symm.trans he
    · by_contra hq
      rw [turn_before] at hne
      exact hne (h.cache (hw ▸ hq))
  | accepted accepted =>
    obtain ⟨op, p, id, -, hstep, hm, -⟩ := accepted
    obtain ⟨op', p', hstep', hsends⟩ := hs
    cases hstep.symm.trans hstep'
    cases hm.symm.trans (Session.Operation.mutation?_of_sends hsends)
  | flushed => rfl
  | dropped => rfl

theorem gives_of_answers (h : w.Batched) {step : Step} {results : List BatchResult}
    (ha : (w.turn config step).Answers results) :
    (w.turn config step).after.queue = [] ∧ List.Forall₂ Gives w.queue results := by
  obtain ⟨hshift, -⟩ := h.turn config step
  have hready := h.ready
  generalize (w.turn config step).after.queue = queue' at hshift
  generalize w.queue = queue at hshift hready
  cases hshift with
  | kept _ _ _ unanswered => exact absurd ha (unanswered results)
  | accepted accepted =>
    obtain ⟨op, p, id, a, hstep, hm, -⟩ := accepted
    rw [turn_step] at hstep
    subst hstep
    cases Session.Operation.flushStatements_of_batches (Option.some.inj ha)
    cases hm
  | @flushed u v r _ start flushes _ _ _ answers =>
    cases answers results ha
    cases flushes with
    | sent hsent =>
      rw [turn_before] at start
      exact ⟨rfl, gives_of_sends (start ▸ hready) hsent⟩
  | dropped _ _ unanswered => exact absurd ha (unanswered results)

end World.Batched

end SqlMapper
