import SqlMapper.Binding.Arguments
import SqlMapper.Proofs.Maintains

namespace SqlMapper.ParameterNames

variable {p : ParameterNames} {arguments : List Argument} {name : String}

def lastNamed (p : ParameterNames) (name : String) : Option Nat :=
  (p.names.filter (·.2 = name)).getLast?.map Prod.fst

theorem getElem?_of_valueAt {i : Nat} {v : Value} (h : valueAt arguments i = .ok v) :
    arguments[i]? = some (.value v) := by
  unfold valueAt at h
  split at h
  · next hi =>
    cases h
    exact hi
  · cases h

theorem bindFrom_cons {n : Nat} {s : Nat × String} {rest : List (Nat × String)}
    {m m' : NameMap Value} (h : bindFrom p arguments n (s :: rest) m = .ok m') :
    ∃ v m₁, valueAt arguments s.1 = .ok v ∧ bindFrom p arguments (n + 1) rest m₁ = .ok m' ∧
      (NameMap.Sorted m → NameMap.Sorted m₁) ∧
      ∀ name, m₁.get? name =
        if name = s.2 ∨ name = genericName n ∧ name ∉ p.names.map Prod.snd then some v
        else m.get? name := by
  obtain ⟨v, hv, h⟩ := ok_of_except_bind_ok h
  refine ⟨v, _, hv, h, fun hm => ?_, fun name => ?_⟩
  · split
    · exact NameMap.sorted_insert hm _ _
    · exact NameMap.sorted_insert (NameMap.sorted_insert hm _ _) _ _
  · have hown : name ∈ p.names.map Prod.snd ↔ p.names.any (·.2 == name) = true := by
      simp
    have hinsert : (m.insert s.2 v).get? name = if name = s.2 then some v else m.get? name := by
      split
      · next hn => rw [hn, NameMap.get?_insert_self]
      · next hn => exact NameMap.get?_insert_of_ne hn v m
    by_cases hn : name = genericName n
    · subst hn
      split
      · next hgeneric => simp [hinsert, hown, hgeneric]
      · next hgeneric => simp [NameMap.get?_insert_self, hown, hgeneric]
    · split
      · simp [hinsert, hn]
      · simp [NameMap.get?_insert_of_ne hn, hinsert, hn]

theorem valueAt_of_bindFrom {n : Nat} {rest : List (Nat × String)} {m m' : NameMap Value}
    (h : bindFrom p arguments n rest m = .ok m') :
    ∀ s ∈ rest, ∃ v, valueAt arguments s.1 = .ok v := by
  induction rest generalizing n m with
  | nil => simp
  | cons s rest ih =>
    obtain ⟨v, m₁, hv, hrest, -, -⟩ := bindFrom_cons h
    exact List.forall_mem_cons.2 ⟨⟨v, hv⟩, ih hrest⟩

theorem exists_bindFrom {rest : List (Nat × String)}
    (h : ∀ s ∈ rest, ∃ v, valueAt arguments s.1 = .ok v) (n : Nat) (m : NameMap Value) :
    ∃ m', bindFrom p arguments n rest m = .ok m' := by
  induction rest generalizing n m with
  | nil => exact ⟨m, rfl⟩
  | cons s rest ih =>
    obtain ⟨⟨v, hv⟩, hrest⟩ := List.forall_mem_cons.1 h
    rw [bindFrom, hv]
    exact ih hrest (n + 1) _

/-- Of parameters with one name the last counts. -/
theorem get?_of_bindFrom {n : Nat} {rest : List (Nat × String)} {m m' : NameMap Value}
    (hown : name ∈ p.names.map Prod.snd) (h : bindFrom p arguments n rest m = .ok m') :
    m'.get? name = ((rest.filter (·.2 = name)).getLast?.map Prod.fst).elim (m.get? name)
      fun i => (valueAt arguments i).toOption := by
  induction rest generalizing n m with
  | nil => cases h; rfl
  | cons s rest ih =>
    obtain ⟨v, m₁, hv, hrest, -, hm₁⟩ := bindFrom_cons h
    rw [ih hrest, hm₁ name, List.filter_cons]
    simp only [hown, not_true, and_false, or_false]
    by_cases hn : s.2 = name
    · simp only [hn, decide_true, if_true, List.getLast?_cons]
      cases (rest.filter (·.2 = name)).getLast? with
      | none => simp [hv, Except.toOption]
      | some t => simp
    · simp [hn, Ne.symm hn]

theorem pack_cases {packed : Parameter} (h : p.pack arguments = .ok packed) :
    p.names = [] ∧ packed = .absent ∨
      (∃ i name v, p.names = [(i, name)] ∧ valueAt arguments i = .ok v ∧ packed = .single v) ∨
      ∃ m, bindFrom p arguments 0 p.names [] = .ok m ∧ packed = .named m := by
  unfold pack at h
  split at h
  · next hnames =>
    cases h
    exact .inl ⟨hnames, rfl⟩
  · next i name hnames _ =>
    obtain ⟨v, hv, h⟩ := ok_of_except_bind_ok h
    cases h
    exact .inr (.inl ⟨i, name, v, hnames, hv, rfl⟩)
  · obtain ⟨m, hm, h⟩ := ok_of_except_bind_ok h
    cases h
    exact .inr (.inr ⟨m, hm, rfl⟩)

theorem valueAt_of_pack {packed : Parameter} (h : p.pack arguments = .ok packed) :
    ∀ s ∈ p.names, ∃ v, valueAt arguments s.1 = .ok v := by
  obtain ⟨hnames, -⟩ | ⟨i, name, v, hnames, hv, -⟩ | ⟨m, hm, -⟩ := pack_cases h
  · simp [hnames]
  · simpa [hnames] using ⟨v, hv⟩
  · exact valueAt_of_bindFrom hm

theorem exists_lastNamed {s : Nat × String} (hs : s ∈ p.names) :
    ∃ i, p.lastNamed s.2 = some i ∧ (i, s.2) ∈ p.names := by
  cases hlast : (p.names.filter (·.2 = s.2)).getLast? with
  | none =>
    have hnone := List.filter_eq_nil_iff.1 (List.getLast?_eq_none_iff.1 hlast) s hs
    simp at hnone
  | some t =>
    obtain ⟨ht, hname⟩ := List.mem_filter.1 (List.mem_of_getLast? hlast)
    refine ⟨t.1, by rw [lastNamed, hlast]; rfl, ?_⟩
    rwa [← of_decide_eq_true hname]

theorem packedValue_of_pack {packed : Parameter} (h : p.pack arguments = .ok packed)
    {s : Nat × String} (hs : s ∈ p.names) :
    ∃ i v, p.lastNamed s.2 = some i ∧ valueAt arguments i = .ok v ∧
      packedValue packed s.2 = some v := by
  obtain ⟨i, hi, hmem⟩ := exists_lastNamed hs
  obtain ⟨v, hv⟩ := valueAt_of_pack h _ hmem
  refine ⟨i, v, hi, hv, ?_⟩
  obtain ⟨hnames, -⟩ | ⟨j, name, w, hnames, hw, rfl⟩ | ⟨m, hm, rfl⟩ := pack_cases h
  · simp [hnames] at hs
  · rw [hnames, List.mem_singleton, Prod.mk.injEq] at hmem
    rw [hmem.1, hw] at hv
    cases hv
    rfl
  · have hget := get?_of_bindFrom (List.mem_map_of_mem hs) hm
    rw [← lastNamed, hi, Option.elim_some, hv] at hget
    exact hget

theorem map_fst_names (m : Method) (usesDeclaredNames : Bool) :
    (ofMethod m usesDeclaredNames).names.map Prod.fst = (valueParameters m).map Prod.fst := by
  calc (ofMethod m usesDeclaredNames).names.map Prod.fst
      = ((valueParameters m).zipIdx.map Prod.fst).map Prod.fst := by
        rw [ofMethod, List.map_map, List.map_map]
        rfl
    _ = (valueParameters m).map Prod.fst := by rw [List.zipIdx_map_fst]

theorem nodup_positions (m : Method) (usesDeclaredNames : Bool) :
    ((ofMethod m usesDeclaredNames).names.map Prod.fst).Nodup := by
  have hsublist : ((valueParameters m).map Prod.fst).Sublist
      (m.parameters.zipIdx.map Prod.snd) := by
    rw [valueParameters, List.map_map]
    exact List.filter_sublist.map _
  rw [map_fst_names]
  refine hsublist.nodup ?_
  rw [List.zipIdx_map_snd]
  exact List.nodup_range'

end SqlMapper.ParameterNames
