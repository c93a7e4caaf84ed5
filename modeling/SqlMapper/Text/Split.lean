namespace SqlMapper.Text

/-- The pieces between occurrences of `sep`: one more than there are occurrences. -/
def split (sep : Char) : List Char → List (List Char)
  | [] => [[]]
  | c :: cs =>
    if c = sep then [] :: split sep cs
    else match split sep cs with
      | [] => [[c]]
      | w :: ws => (c :: w) :: ws

def splitOnce (sep : Char) : List Char → List Char × Option (List Char)
  | [] => ([], none)
  | c :: cs => if c = sep then ([], some cs) else
    let (before, after) := splitOnce sep cs
    (c :: before, after)

theorem splitOnce_of_notMem {sep : Char} {cs : List Char} (h : sep ∉ cs) :
    splitOnce sep cs = (cs, none) := by
  induction cs with
  | nil => rfl
  | cons c cs ih =>
    rw [List.mem_cons, not_or] at h
    simp [splitOnce, Ne.symm h.1, ih h.2]

theorem splitOnce_append {sep : Char} {before : List Char} (h : sep ∉ before)
    (after : List Char) : splitOnce sep (before ++ sep :: after) = (before, some after) := by
  induction before with
  | nil => simp [splitOnce]
  | cons c before ih =>
    rw [List.mem_cons, not_or] at h
    simp [splitOnce, Ne.symm h.1, ih h.2]

theorem fst_splitOnce_of_none {sep : Char} {cs : List Char} (h : (splitOnce sep cs).2 = none) :
    (splitOnce sep cs).1 = cs := by
  induction cs with
  | nil => rfl
  | cons c cs ih =>
    by_cases hc : c = sep
    · simp [splitOnce, hc] at h
    · rw [splitOnce, if_neg hc] at h ⊢
      exact congrArg (c :: ·) (ih h)

theorem split_ne_nil (sep : Char) (cs : List Char) : split sep cs ≠ [] := by
  cases cs with
  | nil => simp [split]
  | cons c cs =>
    simp only [split]
    split
    · simp
    · split <;> simp

theorem split_eq_splitOnce (sep : Char) (cs : List Char) :
    split sep cs = (splitOnce sep cs).1 :: ((splitOnce sep cs).2.elim [] (split sep)) := by
  induction cs with
  | nil => rfl
  | cons c cs ih =>
    by_cases h : c = sep
    · simp [split, splitOnce, h]
    · simp [split, splitOnce, h, ih]

theorem split_append_cons (sep : Char) (before after : List Char) :
    split sep (before ++ sep :: after) = split sep before ++ split sep after := by
  induction before with
  | nil => simp [split]
  | cons c before ih =>
    by_cases h : c = sep
    · simp [split, h, ih]
    · simp only [List.cons_append, split, h, if_false, ih]
      match hs : split sep before with
      | [] => exact absurd hs (split_ne_nil sep before)
      | w :: ws => rfl

theorem split_intercalate {sep : Char} {parts : List (List Char)} (hne : parts ≠ [])
    (h : ∀ part ∈ parts, sep ∉ part) : split sep (List.intercalate [sep] parts) = parts := by
  induction parts with
  | nil => exact absurd rfl hne
  | cons part parts ih =>
    obtain ⟨hpart, hparts⟩ := List.forall_mem_cons.1 h
    rw [split_eq_splitOnce]
    cases parts with
    | nil =>
      rw [List.intercalate_singleton, splitOnce_of_notMem hpart]
      rfl
    | cons other parts =>
      rw [List.intercalate_cons_cons, List.append_assoc, List.singleton_append,
        splitOnce_append hpart, Option.elim_some, ih nofun hparts]

theorem intercalate_append_cons (sep : Char) {parts : List (List Char)} (hne : parts ≠ [])
    (part : List Char) (more : List (List Char)) :
    List.intercalate [sep] (parts ++ part :: more) =
      List.intercalate [sep] parts ++ sep :: List.intercalate [sep] (part :: more) := by
  induction parts with
  | nil => exact absurd rfl hne
  | cons first parts ih =>
    cases parts with
    | nil => simp [List.intercalate_cons_cons]
    | cons second parts =>
      have hrest := ih nofun
      rw [List.cons_append] at hrest
      simp [List.intercalate_cons_cons, hrest]

theorem notMem_intercalate {sep c : Char} {parts : List (List Char)} (hc : c ≠ sep)
    (h : ∀ part ∈ parts, c ∉ part) : c ∉ List.intercalate [sep] parts := by
  induction parts with
  | nil => simp
  | cons part parts ih =>
    obtain ⟨hpart, hparts⟩ := List.forall_mem_cons.1 h
    cases parts with
    | nil => simpa using hpart
    | cons other parts =>
      rw [List.intercalate_cons_cons]
      simp only [List.mem_append, List.mem_singleton, not_or]
      exact ⟨⟨hpart, hc⟩, ih hparts⟩

theorem of_mem_split {sep : Char} {cs part : List Char} (h : part ∈ split sep cs) :
    sep ∉ part ∧ part ⊆ cs := by
  induction cs generalizing part with
  | nil =>
    rw [split, List.mem_singleton] at h
    subst h
    exact ⟨List.not_mem_nil, List.nil_subset []⟩
  | cons c cs ih =>
    have htail : ∀ part ∈ split sep cs, sep ∉ part ∧ part ⊆ c :: cs := fun part hpart =>
      ⟨(ih hpart).1, List.subset_cons_of_subset c (ih hpart).2⟩
    rw [split] at h
    split at h
    · obtain rfl | h := List.mem_cons.1 h
      · exact ⟨List.not_mem_nil, List.nil_subset _⟩
      · exact htail part h
    · next hc =>
      split at h
      · next hs => exact absurd hs (split_ne_nil sep cs)
      · next w ws hs =>
        rw [hs] at htail
        obtain ⟨hw, hws⟩ := List.forall_mem_cons.1 htail
        obtain rfl | h := List.mem_cons.1 h
        · exact ⟨by simp [Ne.symm hc, hw.1], by simp [hw.2]⟩
        · exact hws part h

theorem intercalate_split (sep : Char) (cs : List Char) :
    List.intercalate [sep] (split sep cs) = cs := by
  induction cs with
  | nil => rfl
  | cons c cs ih =>
    by_cases h : c = sep
    · subst h
      simp only [split, if_true]
      match hs : split c cs with
      | [] => exact absurd hs (split_ne_nil c cs)
      | w :: ws =>
        rw [hs] at ih
        simpa [List.intercalate] using ih
    · simp only [split, h, if_false]
      match hs : split sep cs with
      | [] => exact absurd hs (split_ne_nil sep cs)
      | w :: ws =>
        rw [hs] at ih
        cases ws <;> simpa [List.intercalate] using ih

/-- One text has the other's pieces and more if and only if it goes on after the other with a separator. -/
theorem split_prefix_split_iff {sep : Char} {cs ds : List Char} :
    split sep cs <+: split sep ds ↔ cs = ds ∨ ∃ rest, ds = cs ++ sep :: rest := by
  constructor
  · rintro ⟨more, hmore⟩
    rw [← intercalate_split sep ds, ← hmore]
    cases more with
    | nil =>
      rw [List.append_nil, intercalate_split]
      exact .inl rfl
    | cons part more =>
      rw [intercalate_append_cons sep (split_ne_nil sep cs), intercalate_split]
      exact .inr ⟨_, rfl⟩
  · rintro (rfl | ⟨rest, rfl⟩)
    · exact List.prefix_rfl
    · exact ⟨split sep rest, (split_append_cons sep cs rest).symm⟩

end SqlMapper.Text
