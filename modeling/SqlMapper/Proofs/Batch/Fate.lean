import SqlMapper.Proofs.Batch.History

namespace SqlMapper.Batch

/-- What has become of the entries of a statement: there are none, they are queued, they were sent
together, or they were discarded. Its marks are one for each entry and one for the sending. -/
inductive Fate (past : List Turn) (w : World) (s : Statement) : Prop where
  | absent (gone : s ∉ statements w.queue) (history : about s (marks past) = [])
    (kept : ∀ t ∈ past, ¬ t.Discards s)
  | queued {q : QueuedStatement} (mem : q ∈ w.queue) (same : q.statement = s)
    (history : about s (marks past) = .replicate q.parameters.length (.added s))
    (kept : ∀ t ∈ past, ¬ t.Discards s)
  | sent {n : Nat} {o : CallOutcome} (made : s.index < w.database.statements.length)
    (gone : s ∉ statements w.queue) (outcome : o ≠ .refused)
    (history : about s (marks past) = .replicate n (.added s) ++ [.sent s n o])
    (kept : ∀ t ∈ past, ¬ t.Discards s)
  | discarded {n : Nat} (made : s.index < w.database.statements.length)
    (gone : s ∉ statements w.queue) (history : about s (marks past) = .replicate n (.added s))
    (lost : ∃ t ∈ past, t.Discards s)

/-- The entries of the statement were sent with one call, after the last of them was added. -/
def Sent (past : List Turn) (s : Statement) : Prop :=
  ∃ n o, o ≠ .refused ∧ about s (marks past) = .replicate n (.added s) ++ [.sent s n o]

def Unsent (past : List Turn) (s : Statement) : Prop := ∀ n o, .sent s n o ∉ marks past

def Discarded (past : List Turn) (s : Statement) : Prop := ∃ t ∈ past, t.Discards s

variable {config : Configuration} {past : List Turn} {w : World} {t : Turn} {s : Statement}
  {x : Submission}

theorem about_snoc (s : Statement) (past : List Turn) (t : Turn) :
    about s (marks (past ++ [t])) = about s (marks past) ++ about s t.marks := by
  rw [marks_snoc, about, List.filter_append]
  rfl

theorem about_committed {ms : List Mark} (h : ∀ m ∈ ms, m = .committed) : about s ms = [] := by
  refine List.filter_eq_nil_iff.mpr fun m hm => ?_
  rw [h m hm]
  simp [Mark.statement?]

theorem about_sent {done : List QueuedStatement} {ms : List Mark}
    (h : List.Forall₂ SentAs done ms)
    (hlt : done.Pairwise fun q q' => q.statement.index < q'.statement.index) (s : Statement) :
    (s ∉ statements done ∧ about s ms = []) ∨
    ∃ q ∈ done, q.statement = s ∧ ∃ o, o ≠ .refused ∧
      about s ms = [.sent s q.parameters.length o] := by
  induction h with
  | nil => exact .inl ⟨List.not_mem_nil, rfl⟩
  | @cons q m done ms hq hrest ih =>
    obtain ⟨hhead, htail⟩ := List.pairwise_cons.mp hlt
    obtain ⟨o, ho, rfl⟩ := hq
    by_cases hs : q.statement = s
    · have hother : about s ms = [] := by
        obtain ⟨-, hnone⟩ | ⟨q', hq', hs', -⟩ := ih htail
        · exact hnone
        · exact absurd (hs.trans hs'.symm) (Statement.ne_of_index_lt (hhead q' hq'))
      refine .inr ⟨q, List.mem_cons_self, hs, o, ho, ?_⟩
      rw [about, List.filter_cons, if_pos (by simp [Mark.statement?, hs]), hs]
      exact congrArg _ hother
    · have hskip : about s (Mark.sent q.statement q.parameters.length o :: ms) = about s ms := by
        rw [about, List.filter_cons, if_neg (by simp [Mark.statement?, hs])]
        rfl
      rw [hskip]
      obtain ⟨hnone, hms⟩ | ⟨q', hq', hfound⟩ := ih htail
      · refine .inl ⟨fun hmem => ?_, hms⟩
        obtain rfl | hmem := List.mem_cons.mp hmem
        · exact hs rfl
        · exact hnone hmem
      · exact .inr ⟨q', List.mem_cons_of_mem _ hq', hfound⟩

theorem unsent_of_about {n : Nat} (h : about s (marks past) = .replicate n (.added s)) :
    Unsent past s := by
  intro k o hm
  have habout : Mark.sent s k o ∈ about s (marks past) :=
    List.mem_filter.mpr ⟨hm, by simp [Mark.statement?]⟩
  rw [h] at habout
  cases (List.mem_replicate.mp habout).2

theorem Fate.state_of_added (h : Fate past w s) (ha : .added s ∈ marks past) :
    (s ∈ statements w.queue ∧ Unsent past s ∧ ¬ Discarded past s) ∨
    (s ∉ statements w.queue ∧ Sent past s ∧ ¬ Discarded past s) ∨
    (s ∉ statements w.queue ∧ Unsent past s ∧ Discarded past s) := by
  have hkept : (∀ t ∈ past, ¬ t.Discards s) → ¬ Discarded past s := fun hk ⟨t, ht, hd⟩ => hk t ht hd
  cases h with
  | absent _ history =>
    have habout : Mark.added s ∈ about s (marks past) :=
      List.mem_filter.mpr ⟨ha, by simp [Mark.statement?]⟩
    rw [history] at habout
    cases habout
  | queued mem same history kept =>
    exact .inl ⟨same ▸ List.mem_map_of_mem mem, unsent_of_about history, hkept kept⟩
  | sent _ gone outcome history kept =>
    exact .inr (.inl ⟨gone, ⟨_, _, outcome, history⟩, hkept kept⟩)
  | discarded _ gone history lost =>
    exact .inr (.inr ⟨gone, unsent_of_about history, lost⟩)

theorem kept_snoc (h : ∀ t ∈ past, ¬ t.Discards s) (ht : ¬ t.Discards s) :
    ∀ t' ∈ past ++ [t], ¬ t'.Discards s := by
  intro t' ht'
  obtain ht' | ht' := List.mem_append.mp ht'
  · exact h t' ht'
  · cases List.mem_singleton.mp ht'
    exact ht

theorem Fate.carry (h : Fate past t.before s)
    (hle : t.before.database.statements.length ≤ t.after.database.statements.length)
    (hnone : about s t.marks = [])
    (hsame : ∀ q, q.statement = s → (q ∈ t.after.queue ↔ q ∈ t.before.queue)) :
    Fate (past ++ [t]) t.after s := by
  have hmem : s ∈ statements t.after.queue ↔ s ∈ statements t.before.queue := by
    simp only [statements, List.mem_map]
    constructor <;> rintro ⟨q, hq, hs⟩
    · exact ⟨q, (hsame q hs).mp hq, hs⟩
    · exact ⟨q, (hsame q hs).mpr hq, hs⟩
  have hkeep : ¬ t.Discards s := fun hd => hd.2.1 (hmem.mpr hd.1)
  have hhistory : about s (marks (past ++ [t])) = about s (marks past) := by
    rw [about_snoc, hnone, List.append_nil]
  cases h with
  | absent gone history kept =>
    exact .absent (fun hs => gone (hmem.mp hs)) (hhistory.trans history) (kept_snoc kept hkeep)
  | queued mem same history kept =>
    exact .queued ((hsame _ same).mpr mem) same (hhistory.trans history) (kept_snoc kept hkeep)
  | sent made gone outcome history kept =>
    exact .sent (Nat.lt_of_lt_of_le made hle) (fun hs => gone (hmem.mp hs)) outcome
      (hhistory.trans history) (kept_snoc kept hkeep)
  | discarded made gone history lost =>
    obtain ⟨t', ht', hd⟩ := lost
    exact .discarded (Nat.lt_of_lt_of_le made hle) (fun hs => gone (hmem.mp hs))
      (hhistory.trans history) ⟨t', List.mem_append_left _ ht', hd⟩

theorem Fate.accepted (h : Fate past t.before s) (hready : Ready t.before.queue t.before.database)
    (hready' : Ready t.after.queue t.after.database) (hmarks : t.marks = [.added s])
    (hpush : Push x t.before.queue s t.after.queue)
    (hnew : s ∈ statements t.before.queue ∨ t.before.database.statements.length ≤ s.index) :
    Fate (past ++ [t]) t.after s := by
  have hkeep : ¬ t.Discards s := fun hd => hd.2.1 hpush.mem_statements
  have hhistory : about s (marks (past ++ [t])) = about s (marks past) ++ [.added s] := by
    rw [about_snoc, hmarks]
    simp [about, Mark.statement?]
  generalize hq : t.before.queue = queue at hpush hready hnew
  generalize hq' : t.after.queue = queue' at hpush hready'
  cases hpush with
  | join init last hj =>
    have hlast : last.statement ∈ statements t.before.queue := by
      rw [hq]
      simp [statements]
    cases h with
    | @queued q mem same history kept =>
      cases hready.eq_of_statement (hq ▸ mem) (by simp) same
      refine .queued (q := addParameter last x.parameter) (by simp [hq']) rfl ?_
        (kept_snoc kept hkeep)
      rw [hhistory, history, addParameter, List.length_append]
      exact List.replicate_succ'.symm
    | absent gone => exact absurd hlast gone
    | sent _ gone => exact absurd hlast gone
    | discarded _ gone => exact absurd hlast gone
  | fresh _ _ hn =>
    have hunmade : t.before.database.statements.length ≤ s.index :=
      hnew.resolve_left hready'.last_not_mem
    cases h with
    | @queued q mem same =>
      have hmade := hready.made q (hq ▸ mem)
      rw [same] at hmade
      omega
    | absent gone history kept =>
      refine .queued (q := ⟨s, x.invocation.command, x.invocation.bound.sql, [x.parameter]⟩)
        (by simp [hq']) rfl ?_ (kept_snoc kept hkeep)
      rw [hhistory, history]
      rfl
    | sent made => omega
    | discarded made => omega

theorem Fate.emptied {done rest : List QueuedStatement} {sent others : List Mark}
    (h : Fate past t.before s) (hready : Ready t.before.queue t.before.database)
    (hle : t.before.database.statements.length ≤ t.after.database.statements.length)
    (hempty : t.after.queue = []) (hsplit : t.before.queue = done ++ rest)
    (hmarks : t.marks = sent ++ others) (hsent : List.Forall₂ SentAs done sent)
    (hothers : ∀ m ∈ others, m = .committed) : Fate (past ++ [t]) t.after s := by
  have hgone : s ∉ statements t.after.queue := by
    rw [hempty]
    exact List.not_mem_nil
  have habout : about s t.marks = about s sent := by
    rw [hmarks, about, List.filter_append]
    exact (congrArg _ (about_committed hothers)).trans (List.append_nil _)
  have hdone := (List.pairwise_append.mp (hsplit ▸ hready.increasing)).1
  by_cases hqueued : s ∈ statements t.before.queue
  · cases h with
    | @queued q mem same history kept =>
      have hmade : s.index < t.after.database.statements.length :=
        Nat.lt_of_lt_of_le (same ▸ hready.made q mem) hle
      obtain ⟨hnot, hnone⟩ | ⟨q', hq', hs', o, ho, hone⟩ := about_sent hsent hdone s
      · refine .discarded (n := q.parameters.length) hmade hgone ?_
          ⟨t, by simp, hqueued, hgone, fun n o hm => ?_⟩
        · rw [about_snoc, habout, hnone, List.append_nil, history]
        · have hin : Mark.sent s n o ∈ about s t.marks :=
            List.mem_filter.mpr ⟨hm, by simp [Mark.statement?]⟩
          rw [habout, hnone] at hin
          cases hin
      · have hmem' : q' ∈ t.before.queue := hsplit ▸ List.mem_append_left _ hq'
        cases hready.eq_of_statement mem hmem' (same.trans hs'.symm)
        refine .sent (n := q.parameters.length) hmade hgone ho ?_ (kept_snoc kept fun hd => ?_)
        · rw [about_snoc, habout, hone, history]
        · have hin : Mark.sent s q.parameters.length o ∈ about s t.marks := by
            rw [habout, hone]
            exact List.mem_singleton_self _
          exact hd.2.2 _ o (List.mem_filter.mp hin).1
    | absent gone => exact absurd hqueued gone
    | sent _ gone => exact absurd hqueued gone
    | discarded _ gone => exact absurd hqueued gone
  · have hnone : about s t.marks = [] := by
      obtain ⟨-, hnone⟩ | ⟨q, hq, hs, -⟩ := about_sent hsent hdone s
      · exact habout.trans hnone
      · refine absurd ?_ hqueued
        rw [hsplit, ← hs]
        exact List.mem_map_of_mem (List.mem_append_left _ hq)
    refine h.carry hle hnone fun q hs => ⟨fun hq => ?_, fun hq => ?_⟩
    · rw [hempty] at hq
      cases hq
    · exact absurd (hs ▸ List.mem_map_of_mem hq) hqueued

theorem Fate.turn (h : Fate past t.before s) (hbefore : t.before.Batched)
    (hafter : t.after.Batched)
    (hle : t.before.database.statements.length ≤ t.after.database.statements.length)
    (hmoves : t.Moves config t.before.queue t.after.queue) : Fate (past ++ [t]) t.after s := by
  generalize hq : t.before.queue = queue at hmoves
  generalize hq' : t.after.queue = queue' at hmoves
  cases hmoves with
  | kept marks =>
    exact h.carry hle (by rw [marks]; rfl) fun q _ => by rw [hq, hq']
  | @accepted x s' queue' _ _ _ marks push old_or_new =>
    by_cases hs : s' = s
    · subst hs
      exact h.accepted hbefore.ready hafter.ready marks (hq ▸ hq' ▸ push) (hq ▸ old_or_new)
    · refine h.carry hle (by simp [about, marks, Mark.statement?, hs]) fun q hstatement => ?_
      rw [hq, hq']
      exact push.mem_iff_of_ne fun he => hs (he.symm.trans hstatement)
  | emptied _ _ split marks sent_done others_committed =>
    exact h.emptied hbefore.ready hle hq' (hq.trans split) marks sent_done others_committed

end SqlMapper.Batch
