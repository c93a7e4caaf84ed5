import SqlMapper.Proofs.Batch.History

namespace SqlMapper.Batch

theorem sublist_or_of_mem {α : Type} {a b : α} {l : List α} (ha : a ∈ l) (hb : b ∈ l)
    (hne : a ≠ b) : [a, b].Sublist l ∨ [b, a].Sublist l := by
  obtain ⟨l₁, l₂, rfl⟩ := List.append_of_mem ha
  obtain hb | hb := List.mem_append.mp hb
  · refine .inr (List.Sublist.append (List.singleton_sublist.mpr hb) ?_)
    exact (List.nil_sublist _).cons_cons a
  · have hb' : b ∈ l₂ := (List.mem_cons.mp hb).resolve_left fun h => hne h.symm
    have hpair : [a, b].Sublist (a :: l₂) := (List.singleton_sublist.mpr hb').cons_cons a
    exact .inl (hpair.trans (List.sublist_append_right _ _))

/-- The marks so far are in order, and whatever the queue brings will come after them. -/
structure Ordered (past : List Turn) (w : World) : Prop where
  before : (marks past).Pairwise Mark.Before
  added : ∀ s, .added s ∈ marks past → s.index < w.database.statements.length ∧
    ∀ last, w.queue.getLast? = some last → s.index ≤ last.statement.index
  sent : ∀ s n o, .sent s n o ∈ marks past → s.index < w.database.statements.length ∧
    ∀ q ∈ w.queue, s.index < q.statement.index

variable {config : Configuration} {past : List Turn} {w : World} {t : Turn} {s : Statement}
  {x : Submission}

theorem Ordered.start (w : World) : Ordered [] w :=
  ⟨.nil, fun _ h => absurd h List.not_mem_nil, fun _ _ _ h => absurd h List.not_mem_nil⟩

theorem pairwise_before_of_sent {done : List QueuedStatement} {ms : List Mark}
    (h : List.Forall₂ SentAs done ms)
    (hlt : done.Pairwise fun q q' => q.statement.index < q'.statement.index) :
    ms.Pairwise Mark.Before := by
  induction h with
  | nil => exact .nil
  | @cons q m done ms hq hrest ih =>
    obtain ⟨hhead, htail⟩ := List.pairwise_cons.mp hlt
    refine List.pairwise_cons.mpr ⟨fun m' hm' => ?_, ih htail⟩
    obtain ⟨o, -, rfl⟩ := hq
    obtain ⟨q', hq', o', -, rfl⟩ := exists_of_mem_sent hrest hm'
    exact hhead q' hq'

namespace Ordered

theorem accepted (h : Ordered past t.before)
    (hready : Ready t.after.queue t.after.database)
    (hle : t.before.database.statements.length ≤ t.after.database.statements.length)
    (hmarks : t.marks = [.added s]) (hpush : Push x t.before.queue s t.after.queue)
    (hnew : s ∈ statements t.before.queue ∨ t.before.database.statements.length ≤ s.index) :
    Ordered (past ++ [t]) t.after := by
  obtain ⟨last', hlast', hs⟩ := hpush.getLast
  have hadded : ∀ s', .added s' ∈ marks past → s'.index ≤ s.index := by
    intro s' hm
    obtain ⟨hmade, hlast⟩ := h.added s' hm
    obtain ⟨last, hl, rfl⟩ | hnew := hpush.last_or_new hready hnew
    · exact hlast last hl
    · omega
  have hsent : ∀ s' n o, .sent s' n o ∈ marks past → s'.index < s.index := by
    intro s' n o hm
    obtain ⟨hmade, hqueue⟩ := h.sent s' n o hm
    obtain ⟨last, hl, rfl⟩ | hnew := hpush.last_or_new hready hnew
    · exact hqueue last (List.mem_of_getLast? hl)
    · omega
  have hmade : s.index < t.after.database.statements.length :=
    hs ▸ hready.made last' (List.mem_of_getLast? hlast')
  refine ⟨?_, fun s' hm => ?_, fun s' n o hm => ?_⟩
  · rw [marks_snoc, hmarks]
    refine List.pairwise_append.mpr ⟨h.before, List.pairwise_singleton _ _, fun m hm m' hm' => ?_⟩
    cases List.mem_singleton.mp hm'
    cases m with
    | added s' => exact hadded s' hm
    | sent => trivial
    | committed => trivial
  · rw [marks_snoc, hmarks, List.mem_append, List.mem_singleton] at hm
    have hle' : s'.index ≤ s.index := by
      obtain hm | hm := hm
      · exact hadded s' hm
      · cases hm
        exact Nat.le_refl _
    refine ⟨by omega, fun last hl => ?_⟩
    cases hlast'.symm.trans hl
    exact hs ▸ hle'
  · rw [marks_snoc, hmarks, List.mem_append, List.mem_singleton] at hm
    obtain hm | hm := hm
    · obtain ⟨hmade', hqueue⟩ := h.sent s' n o hm
      refine ⟨by omega, fun q hq => ?_⟩
      obtain hold | hnew := hpush.old_of_mem (List.mem_map_of_mem hq)
      · obtain ⟨q', hq', he⟩ := List.mem_map.mp hold
        exact he ▸ hqueue q' hq'
      · exact hnew ▸ hsent s' n o hm
    · cases hm

theorem emptied {done rest : List QueuedStatement} {sent others : List Mark}
    (h : Ordered past t.before) (hready : Ready t.before.queue t.before.database)
    (hle : t.before.database.statements.length ≤ t.after.database.statements.length)
    (hempty : t.after.queue = []) (hsplit : t.before.queue = done ++ rest)
    (hmarks : t.marks = sent ++ others) (hsent : List.Forall₂ SentAs done sent)
    (hothers : ∀ m ∈ others, m = .committed) : Ordered (past ++ [t]) t.after := by
  have hdone : ∀ q ∈ done, q ∈ t.before.queue := fun q hq => hsplit ▸ List.mem_append_left _ hq
  refine ⟨?_, fun s hm => ?_, fun s n o hm => ?_⟩
  · rw [marks_snoc, hmarks, ← List.append_assoc]
    refine List.pairwise_append.mpr ⟨List.pairwise_append.mpr ⟨h.before, ?_, fun m hm m' hm' => ?_⟩,
      List.pairwise_of_forall_mem_list fun m hm m' hm' => ?_, fun m _ m' hm' => ?_⟩
    · exact pairwise_before_of_sent hsent (List.pairwise_append.mp (hsplit ▸ hready.increasing)).1
    · obtain ⟨q, hq, o, -, rfl⟩ := exists_of_mem_sent hsent hm'
      cases m with
      | added => trivial
      | sent s n o => exact (h.sent s n o hm).2 q (hdone q hq)
      | committed => trivial
    · rw [hothers m hm]
      trivial
    · rw [hothers m' hm']
      cases m <;> trivial
  · rw [marks_snoc, hmarks, List.mem_append, List.mem_append] at hm
    obtain hm | hm | hm := hm
    · refine ⟨Nat.lt_of_lt_of_le (h.added s hm).1 hle, fun last hl => ?_⟩
      rw [hempty] at hl
      cases hl
    · obtain ⟨q, -, o, -, he⟩ := exists_of_mem_sent hsent hm
      cases he
    · cases hothers _ hm
  · suffices hmade : s.index < t.after.database.statements.length by
      refine ⟨hmade, fun q hq => ?_⟩
      rw [hempty] at hq
      cases hq
    rw [marks_snoc, hmarks, List.mem_append, List.mem_append] at hm
    obtain hm | hm | hm := hm
    · exact Nat.lt_of_lt_of_le (h.sent s n o hm).1 hle
    · obtain ⟨q, hq, o, -, he⟩ := exists_of_mem_sent hsent hm
      cases he
      exact Nat.lt_of_lt_of_le (hready.made q (hdone q hq)) hle
    · cases hothers _ hm

theorem turn (h : Ordered past t.before) (hbefore : t.before.Batched) (hafter : t.after.Batched)
    (hle : t.before.database.statements.length ≤ t.after.database.statements.length)
    (hmoves : t.Moves config t.before.queue t.after.queue) : Ordered (past ++ [t]) t.after := by
  generalize hq : t.before.queue = queue at hmoves
  generalize hq' : t.after.queue = queue' at hmoves
  cases hmoves with
  | kept none =>
    have hmarks : marks (past ++ [t]) = marks past := by rw [marks_snoc, none, List.append_nil]
    refine ⟨hmarks ▸ h.before, fun s hm => ?_, fun s n o hm => ?_⟩
    · obtain ⟨hmade, hlast⟩ := h.added s (hmarks ▸ hm)
      exact ⟨by omega, by rwa [hq', ← hq]⟩
    · obtain ⟨hmade, hqueue⟩ := h.sent s n o (hmarks ▸ hm)
      exact ⟨by omega, by rwa [hq', ← hq]⟩
  | accepted _ _ _ marks push old_or_new =>
    exact h.accepted hafter.ready hle marks (hq ▸ hq' ▸ push) (hq ▸ old_or_new)
  | emptied _ _ split marks sent_done others_committed =>
    exact h.emptied hbefore.ready hle hq' (hq.trans split) marks sent_done others_committed

theorem sublist_of_sent (h : Ordered past w) {older newer : List Turn}
    (hpast : past = older ++ t :: newer) {t' : Turn} (ht' : t' ∈ newer) {s s' : Statement}
    (hs : .added s ∈ t.marks) (hs' : .added s' ∈ t'.marks) {n n' : Nat} {o o' : CallOutcome}
    (hsent : .sent s n o ∈ marks past) (hsent' : .sent s' n' o' ∈ marks past) :
    s = s' ∨ [.sent s n o, .sent s' n' o'].Sublist (marks past) := by
  have hle : s.index ≤ s'.index := by
    have hmarks : marks past = marks older ++ (t.marks ++ marks newer) := by
      rw [hpast, marks, List.flatMap_append, List.flatMap_cons]
      rfl
    have hpair := (List.pairwise_append.mp (hmarks ▸ h.before)).2.1
    exact (List.pairwise_append.mp hpair).2.2 _ hs _ (List.mem_flatMap.mpr ⟨t', ht', hs'⟩)
  by_cases he : s = s'
  · exact .inl he
  · refine .inr ((sublist_or_of_mem hsent hsent' fun h => he (by cases h; rfl)).resolve_right ?_)
    intro hsub
    have hlt : s'.index < s.index := List.pairwise_iff_forall_sublist.mp h.before hsub
    omega

end Ordered

end SqlMapper.Batch
