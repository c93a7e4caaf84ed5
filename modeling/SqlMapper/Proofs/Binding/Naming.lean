import Mathlib.Data.List.Nodup
import SqlMapper.Proofs.Binding.Fitting
import SqlMapper.Proofs.Parameter.Property

namespace SqlMapper

namespace Parameter

theorem lookup_named {arguments : NameMap Value} {property name : String} {rest : List String}
    (h : segments property = name :: rest) :
    (named arguments).lookup property = (arguments.get? name).elim
      (.error (.parameterNotFound name arguments.names)) fun v =>
        (v.get? rest).elim (.error (.noSuchProperty property v.typeName)) .ok := by
  rw [segments_eq_splitHead] at h
  obtain ⟨hhead, hrest⟩ := List.cons.inj h
  unfold lookup NameMap.argument
  rcases hsplit : splitHead property with ⟨head, _ | path⟩ <;> rw [hsplit] at hhead hrest <;>
    subst hhead hrest <;> dsimp only
  · cases arguments.get? head with
    | none => rfl
    | some v => simp
  · cases arguments.get? head with
    | none => rfl
    | some v =>
      have hproperty : v.get? (segments path) = v.property path := rfl
      rw [Option.elim_some, Option.elim_some, hproperty]
      cases hfound : v.property path <;> simp [bind, Except.bind, hfound]

end Parameter

theorem segments_of_notMem {name : String} (h : '.' ∉ name.toList) : segments name = [name] := by
  rw [segments, Text.split_eq_splitOnce, Text.splitOnce_of_notMem h]
  simp

theorem segments_append {name : String} (h : '.' ∉ name.toList) (path : String) :
    segments (name ++ "." ++ path) = name :: segments path := by
  have htext : (name ++ "." ++ path).toList = name.toList ++ '.' :: path.toList := by simp
  rw [segments, htext, Text.split_eq_splitOnce, Text.splitOnce_append h]
  simp [segments]

namespace ParameterNames

variable {p : ParameterNames} {arguments : List Argument} {k : Nat} {name : String}

theorem genericName_injective {k n : Nat} (h : genericName k = genericName n) : k = n := by
  have hdigits := congrArg String.toList ((String.append_right_inj "param").1 h)
  rw [Nat.toList_repr, Nat.toList_repr] at hdigits
  have hnumber := congrArg (Nat.ofDigitChars 10 · 0) hdigits
  simp only [Nat.ofDigitChars_ten_toDigits] at hnumber
  exact Nat.succ.inj hnumber

theorem notMem_genericName (n : Nat) : '.' ∉ (genericName n).toList := by
  rw [genericName, String.toList_append, Nat.toList_repr, List.mem_append, not_or]
  exact ⟨by decide, fun h => by cases Nat.isDigit_of_mem_toDigits (by decide) (by decide) h⟩

/-- The `k`-th of the parameters goes by its own name and, if that is no parameter's own, by its
generic name. -/
def GoesBy (p : ParameterNames) (k : Nat) (name : String) : Prop :=
  (p.names.map Prod.snd)[k]? = some name ∨
    k < p.names.length ∧ name = genericName k ∧ name ∉ p.names.map Prod.snd

theorem goesBy_iff {s : Nat × String} (hs : p.names[k]? = some s) :
    p.GoesBy k name ↔ name = s.2 ∨ name = genericName k ∧ name ∉ p.names.map Prod.snd := by
  have hk : k < p.names.length := (List.getElem?_eq_some_iff.1 hs).1
  rw [GoesBy, List.getElem?_map, hs, Option.map_some, Option.some_inj, and_iff_right hk,
    @eq_comm _ s.2]

theorem GoesBy.lt (h : p.GoesBy k name) : k < p.names.length := by
  obtain hown | ⟨hk, -, -⟩ := h
  · simpa using (List.getElem?_eq_some_iff.1 hown).1
  · exact hk

theorem GoesBy.notMem (hdots : ∀ own ∈ p.names.map Prod.snd, '.' ∉ own.toList)
    (h : p.GoesBy k name) : '.' ∉ name.toList := by
  obtain hown | ⟨-, rfl, -⟩ := h
  · exact hdots name (List.mem_of_getElem? hown)
  · exact notMem_genericName k

theorem GoesBy.eq (hnames : (p.names.map Prod.snd).Nodup) {n : Nat} (h : p.GoesBy k name)
    (h' : p.GoesBy n name) : k = n := by
  obtain hown | ⟨-, rfl, hnone⟩ := h
  · obtain hown' | ⟨-, -, hnone⟩ := h'
    · have hk := (List.getElem?_eq_some_iff.1 hown).1
      exact (List.getElem?_inj hk hnames).1 (hown.trans hown'.symm)
    · exact absurd (List.mem_of_getElem? hown) hnone
  · obtain hown' | ⟨-, hname, -⟩ := h'
    · exact absurd (List.mem_of_getElem? hown') hnone
    · exact genericName_injective hname

theorem sorted_bindFrom {n : Nat} {rest : List (Nat × String)} {m m' : NameMap Value}
    (h : bindFrom p arguments n rest m = .ok m') (hm : NameMap.Sorted m) : NameMap.Sorted m' := by
  induction rest generalizing n m with
  | nil =>
    cases h
    exact hm
  | cons s rest ih =>
    obtain ⟨v, m₁, -, hrest, hm₁, -⟩ := bindFrom_cons h
    exact ih hrest (hm₁ hm)

theorem bindFrom_goesBy (hnames : (p.names.map Prod.snd).Nodup) {n : Nat}
    {rest : List (Nat × String)} {m m' : NameMap Value} (hdrop : p.names.drop n = rest)
    (h : bindFrom p arguments n rest m = .ok m') :
    (∀ k name s, n ≤ k → p.GoesBy k name → p.names[k]? = some s →
      ∃ v, valueAt arguments s.1 = .ok v ∧ m'.get? name = some v) ∧
    ∀ name, (∀ k, n ≤ k → ¬ p.GoesBy k name) → m'.get? name = m.get? name := by
  induction rest generalizing n m with
  | nil =>
    cases h
    refine ⟨fun k name s hk hgoes _ => ?_, fun _ _ => rfl⟩
    have hlength := List.drop_eq_nil_iff.1 hdrop
    exact absurd hgoes.lt (by omega)
  | cons s rest ih =>
    have hs : p.names[n]? = some s := by
      rw [← List.head?_drop, hdrop, List.head?_cons]
    have hdrop' : p.names.drop (n + 1) = rest := by
      rw [← List.tail_drop, hdrop, List.tail_cons]
    obtain ⟨v, m₁, hv, hrest, -, hm₁⟩ := bindFrom_cons h
    obtain ⟨hbound, hothers⟩ := ih hdrop' hrest
    refine ⟨fun k name s' hk hgoes hs' => ?_, fun name hnone => ?_⟩
    · obtain rfl | hlt := Nat.eq_or_lt_of_le hk
      · cases hs.symm.trans hs'
        refine ⟨v, hv, ?_⟩
        rw [hothers name fun j hj hgoes' => by have := hgoes.eq hnames hgoes'; omega, hm₁,
          if_pos ((goesBy_iff hs).1 hgoes)]
      · exact hbound k name s' hlt hgoes hs'
    · rw [hothers name fun k hk => hnone k (by omega), hm₁,
        if_neg (mt (goesBy_iff hs).2 (hnone n (Nat.le_refl n)))]

theorem names_ne_nil {m : Method} {usesDeclaredNames : Bool}
    (h : (ofMethod m usesDeclaredNames).hasAlias = true) :
    (ofMethod m usesDeclaredNames).names ≠ [] := by
  intro hnil
  have hpositions := map_fst_names m usesDeclaredNames
  rw [hnil, List.map_nil, eq_comm, List.map_eq_nil_iff] at hpositions
  rw [ofMethod, hpositions] at h
  cases h

/-- The arguments are packed by name if a parameter has an alias or if there are several. -/
theorem pack_eq_bindFrom (hne : p.names ≠ []) (h : p.hasAlias = true ∨ 2 ≤ p.names.length) :
    p.pack arguments = (bindFrom p arguments 0 p.names []).map Parameter.named := by
  unfold pack
  split
  · next hnil => exact absurd hnil hne
  · next i name hone hno =>
    rw [hone, hno] at h
    simp at h
  · cases bindFrom p arguments 0 p.names [] <;> rfl

/-- The arguments of a method that takes them by name. Each is found under the names that its
parameter goes by, and its properties after a dot. Nothing else is found, and then the names are
told in order. -/
theorem pack_named {m : Method} {usesDeclaredNames : Bool}
    (hp : ofMethod m usesDeclaredNames = p) (hnamed : p.hasAlias = true ∨ 2 ≤ p.names.length)
    (hnames : (p.names.map Prod.snd).Nodup)
    (hdots : ∀ own ∈ p.names.map Prod.snd, '.' ∉ own.toList) (hfits : m.Accepts arguments) :
    ∃ bound : NameMap Value, p.pack arguments = .ok (.named bound) ∧
      bound.names.Pairwise (· < ·) ∧ (∀ name, name ∈ bound.names ↔ ∃ k, p.GoesBy k name) ∧
      (∀ k name, p.GoesBy k name → ∃ v, (arguments.filterMap Argument.value?)[k]? = some v ∧
        (Parameter.named bound).lookup name = .ok v ∧
        ∀ path, (Parameter.named bound).lookup (name ++ "." ++ path) = (v.property path).elim
          (.error (.noSuchProperty (name ++ "." ++ path) v.typeName)) .ok) ∧
      ∀ property head, (segments property).head? = some head → head ∉ bound.names →
        (Parameter.named bound).lookup property =
          .error (.parameterNotFound head bound.names) := by
  have hne : p.names ≠ [] := by
    obtain halias | hlength := hnamed
    · exact hp ▸ names_ne_nil (hp ▸ halias)
    · exact List.ne_nil_of_length_pos (by omega)
  have hgiven : ∀ s ∈ p.names, ∃ v, valueAt arguments s.1 = .ok v := by
    intro s hs
    obtain ⟨k, hk⟩ := List.mem_iff_getElem?.1 hs
    obtain ⟨v, -, hv⟩ := exists_valueAt hp hfits hk
    exact ⟨v, hv⟩
  obtain ⟨bound, hbind⟩ := exists_bindFrom hgiven 0 []
  obtain ⟨hbound, hothers⟩ := bindFrom_goesBy hnames List.drop_zero hbind
  have hget : ∀ k name, p.GoesBy k name →
      ∃ v, (arguments.filterMap Argument.value?)[k]? = some v ∧ bound.get? name = some v := by
    intro k name hgoes
    have hs := List.getElem?_eq_getElem hgoes.lt
    obtain ⟨v, hv, hat⟩ := exists_valueAt hp hfits hs
    obtain ⟨w, hw, hfound⟩ := hbound k name _ (Nat.zero_le k) hgoes hs
    cases hat.symm.trans hw
    exact ⟨v, hv, hfound⟩
  refine ⟨bound, ?_, (sorted_bindFrom hbind List.Pairwise.nil).names, fun name => ?_,
    fun k name hgoes => ?_, fun property head hhead hnone => ?_⟩
  · rw [pack_eq_bindFrom hne hnamed, hbind]
    rfl
  · rw [NameMap.mem_names_iff]
    constructor
    · rintro ⟨v, hv⟩
      by_contra hnone
      rw [hothers name fun k _ hgoes => hnone ⟨k, hgoes⟩] at hv
      cases hv
    · rintro ⟨k, hgoes⟩
      obtain ⟨v, -, hv⟩ := hget k name hgoes
      exact ⟨v, hv⟩
  · obtain ⟨v, hat, hv⟩ := hget k name hgoes
    have hdot := hgoes.notMem hdots
    refine ⟨v, hat, ?_, fun path => ?_⟩
    · rw [Parameter.lookup_named (segments_of_notMem hdot), hv]
      simp
    · rw [Parameter.lookup_named (segments_append hdot path), hv]
      rfl
  · obtain ⟨rest, hrest⟩ := List.head?_eq_some_iff.1 hhead
    rw [NameMap.mem_names_iff, ← Option.ne_none_iff_exists', not_not] at hnone
    rw [Parameter.lookup_named hrest, hnone]
    rfl

def pagedMethod : Method where
  name := "find"
  returns := .any
  parameters :=
    [⟨"from", none, .value .any⟩, ⟨"window", none, .bounds⟩, ⟨"param1", none, .value .any⟩]
  mapKey := none
  flushes := false

def pagedArguments : List Argument := [.value (.string "ann"), .bounds .all, .value (.string "bob")]

/-- The generic name of the first parameter is the own name of the second. -/
theorem second_by_first_generic_name :
    ∃ bound, (ofMethod pagedMethod true).pack pagedArguments = .ok (.named bound) ∧
      (Parameter.named bound).lookup "from" = .ok (.string "ann") ∧
      (Parameter.named bound).lookup "param1" = .ok (.string "bob") ∧
      (Parameter.named bound).lookup "param2" = .ok (.string "bob") := by
  have hfits : pagedMethod.Accepts pagedArguments :=
    Method.accepts_iff_forall₂.2 (.cons rfl (.cons rfl (.cons rfl .nil)))
  obtain ⟨bound, hpack, -, -, hfound, -⟩ :=
    pack_named (p := ofMethod pagedMethod true) rfl (.inr (by decide)) (by decide) (by decide) hfits
  have hlookup : ∀ k name v, (ofMethod pagedMethod true).GoesBy k name →
      (pagedArguments.filterMap Argument.value?)[k]? = some v →
      (Parameter.named bound).lookup name = .ok v := by
    intro k name v hgoes hv
    obtain ⟨w, hw, hlookup, -⟩ := hfound k name hgoes
    cases hv.symm.trans hw
    exact hlookup
  exact ⟨bound, hpack, hlookup 0 "from" _ (.inl rfl) rfl, hlookup 1 "param1" _ (.inl rfl) rfl,
    hlookup 1 "param2" _ (.inr ⟨by decide, by decide, by decide⟩) rfl⟩

end ParameterNames

end SqlMapper
