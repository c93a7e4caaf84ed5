import Mathlib.Data.List.DropRight
import SqlMapper.Text.Blank

namespace SqlMapper.Text

variable {word cs : List Char} {c : Char}

/-- `cs` is `word` with blanks around it, and `word` has none at its ends. -/
structure Trimmed (word cs : List Char) : Prop where
  padded : ∃ before after, (∀ c ∈ before, isBlank c = true) ∧ (∀ c ∈ after, isBlank c = true) ∧
    cs = before ++ word ++ after
  starts : ∀ c ∈ word.head?, isBlank c = false
  ends : ∀ c ∈ word.getLast?, isBlank c = false

theorem trim_eq (cs : List Char) : trim cs = (cs.dropWhile isBlank).rdropWhile isBlank := rfl

theorem trimmed_trim (cs : List Char) : Trimmed (trim cs) cs := by
  refine ⟨⟨cs.takeWhile isBlank, (cs.dropWhile isBlank).rtakeWhile isBlank,
    fun c => List.mem_takeWhile_imp, fun c => List.mem_rtakeWhile_imp, ?_⟩, fun c hc => ?_,
    fun c hc => ?_⟩
  · rw [trim_eq, List.append_assoc, List.rdropWhile_append_rtakeWhile,
      List.takeWhile_append_dropWhile]
  · obtain ⟨after, hafter⟩ := List.rdropWhile_prefix isBlank (cs.dropWhile isBlank)
    have hhead : (cs.dropWhile isBlank).head? = some c := by
      rw [← hafter, List.head?_append, ← trim_eq, hc, Option.some_or]
    have hnot := List.head?_dropWhile_not isBlank cs
    rw [hhead] at hnot
    exact hnot
  · obtain ⟨hne, rfl⟩ := List.mem_getLast?_eq_getLast hc
    exact Bool.eq_false_iff.2 (List.rdropWhile_last_not isBlank (cs.dropWhile isBlank) hne)

theorem dropWhile_blanks {before : List Char} (hbefore : ∀ c ∈ before, isBlank c = true)
    (hstarts : ∀ c ∈ word.head?, isBlank c = false) :
    (before ++ word).dropWhile isBlank = word := by
  rw [List.dropWhile_append_of_pos hbefore]
  cases word with
  | nil => rfl
  | cons c word => exact List.dropWhile_cons_of_neg (by simp [hstarts c rfl])

theorem rdropWhile_blanks {after : List Char} (hafter : ∀ c ∈ after, isBlank c = true)
    (hends : ∀ c ∈ word.getLast?, isBlank c = false) :
    (word ++ after).rdropWhile isBlank = word := by
  rw [List.rdropWhile, List.reverse_append,
    dropWhile_blanks (by simpa using hafter) (by simpa using hends), List.reverse_reverse]

/-- Trimming takes away the blanks at the ends and nothing else. -/
theorem trim_eq_iff : trim cs = word ↔ Trimmed word cs := by
  constructor
  · rintro rfl
    exact trimmed_trim cs
  · rintro ⟨⟨before, after, hbefore, hafter, rfl⟩, hstarts, hends⟩
    rw [trim_eq]
    cases word with
    | nil =>
      have hblank : ∀ c ∈ before ++ [] ++ after, isBlank c = true := by
        simpa [or_imp, forall_and] using ⟨hbefore, hafter⟩
      rw [List.dropWhile_eq_nil_iff.2 hblank, List.rdropWhile_nil]
    | cons c word =>
      have hword : ∀ d ∈ (c :: word ++ after).head?, isBlank d = false := hstarts
      rw [List.append_assoc, dropWhile_blanks hbefore hword, rdropWhile_blanks hafter hends]

theorem trim_eq_nil_iff : trim cs = [] ↔ ∀ c ∈ cs, isBlank c = true := by
  rw [trim_eq_iff]
  constructor
  · rintro ⟨⟨before, after, hbefore, hafter, rfl⟩, -, -⟩
    simpa [or_imp, forall_and] using ⟨hbefore, hafter⟩
  · exact fun h => ⟨⟨cs, [], h, nofun, by simp⟩, nofun, nofun⟩

theorem Trimmed.mem (h : Trimmed word cs) (hc : c ∈ cs) : isBlank c = true ∨ c ∈ word := by
  obtain ⟨before, after, hbefore, hafter, rfl⟩ := h.padded
  simp only [List.mem_append] at hc
  obtain (hc | hc) | hc := hc
  · exact .inl (hbefore c hc)
  · exact .inr hc
  · exact .inl (hafter c hc)

theorem Trimmed.subset (h : Trimmed word cs) : word ⊆ cs := by
  obtain ⟨before, after, -, -, rfl⟩ := h.padded
  intro c hc
  simp [hc]

theorem Trimmed.notMem (h : Trimmed word cs) (hblank : isBlank c = false) (hc : c ∉ word) :
    c ∉ cs := by
  intro hmem
  obtain hb | hmem := h.mem hmem
  · rw [hblank] at hb
    cases hb
  · exact hc hmem

theorem dropWhile_append_cons (hc : isBlank c = false) (key value : List Char) :
    (key ++ c :: value).dropWhile isBlank = key.dropWhile isBlank ++ c :: value := by
  rw [List.dropWhile_append]
  split
  · next hempty =>
    rw [List.isEmpty_iff.1 hempty, List.dropWhile_cons_of_neg (by simp [hc])]
    rfl
  · rfl

theorem trim_append_cons (hc : isBlank c = false) (key value : List Char) :
    trim (key ++ c :: value) = key.dropWhile isBlank ++ c :: value.rdropWhile isBlank := by
  rw [trim_eq, dropWhile_append_cons hc, List.rdropWhile, List.reverse_append, List.reverse_cons,
    List.append_assoc, List.singleton_append, dropWhile_append_cons hc]
  simp [List.rdropWhile]

theorem trim_dropWhile (cs : List Char) : trim (cs.dropWhile isBlank) = trim cs := by
  rw [trim_eq, List.dropWhile_idempotent, ← trim_eq]

theorem trim_rdropWhile (cs : List Char) : trim (cs.rdropWhile isBlank) = trim cs := by
  obtain ⟨⟨before, after, hbefore, hafter, hcs⟩, hstarts, hends⟩ :=
    trimmed_trim (cs.rdropWhile isBlank)
  have hrest : ∀ c ∈ after ++ cs.rtakeWhile isBlank, isBlank c = true := by
    intro c hc
    obtain hc | hc := List.mem_append.1 hc
    · exact hafter c hc
    · exact List.mem_rtakeWhile_imp hc
  have hall : cs = before ++ trim (cs.rdropWhile isBlank) ++ (after ++ cs.rtakeWhile isBlank) := by
    rw [← List.append_assoc, ← hcs, List.rdropWhile_append_rtakeWhile]
  exact (trim_eq_iff.2 ⟨⟨before, _, hbefore, hrest, hall⟩, hstarts, hends⟩).symm

end SqlMapper.Text
