import SqlMapper.Value.Path

namespace SqlMapper

/-- Neither of the paths leads through where the other ends. -/
def PathsApart (path other : List String) : Prop :=
  ¬ path <+: other ∧ ¬ other <+: path

theorem pathsApart_cons_iff {name : String} {rest others : List String} :
    PathsApart (name :: rest) (name :: others) ↔ PathsApart rest others := by
  simp [PathsApart, List.cons_prefix_cons]

theorem pathsApart_of_head_ne {name other : String} (h : name ≠ other) (rest others : List String) :
    PathsApart (name :: rest) (other :: others) :=
  ⟨fun hp => h (List.cons_prefix_cons.1 hp).1, fun hp => h (List.cons_prefix_cons.1 hp).1.symm⟩

namespace Value

theorem set?_object_cons {fields : NameMap Value} {name : String} {rest : List String}
    (h : rest ≠ []) (x : Value) :
    (object fields).set? (name :: rest) x = (NameMap.get? name fields).bind fun child =>
      (child.set? rest x).map fun c => object (NameMap.insert name c fields) := by
  rw [set?]
  · cases NameMap.get? name fields <;> rfl
  · exact h

/-- A write replaces one field of an object: by the value itself at the end of the path, and before
that by the field with the rest of the path written. -/
theorem set?_cons {v x updated : Value} {name : String} {rest : List String}
    (h : v.set? (name :: rest) x = some updated) :
    ∃ fields c, v = object fields ∧ updated = object (NameMap.insert name c fields) ∧
      (rest = [] ∧ c = x ∨
        ∃ child, NameMap.get? name fields = some child ∧ child.set? rest x = some c) := by
  cases v with
  | object fields =>
    by_cases hrest : rest = []
    · subst hrest
      exact ⟨fields, x, rfl, (Option.some.inj h).symm, .inl ⟨rfl, rfl⟩⟩
    · rw [set?_object_cons hrest] at h
      obtain ⟨child, hchild, h⟩ := Option.bind_eq_some_iff.1 h
      obtain ⟨c, hc, rfl⟩ := Option.map_eq_some_iff.1 h
      exact ⟨fields, c, rfl, rfl, .inr ⟨child, hchild, hc⟩⟩
  | _ => cases h

/-- Wherever the path still goes on there is an object. -/
def Admits (v : Value) (path : List String) : Prop :=
  ∀ before name rest, path = before ++ name :: rest → ∃ fields, v.get? before = some (object fields)

theorem admits_cons_iff {v : Value} {name : String} {rest : List String} :
    v.Admits (name :: rest) ↔ ∃ fields, v = object fields ∧
      (rest = [] ∨ ∃ child, NameMap.get? name fields = some child ∧ child.Admits rest) := by
  constructor
  · intro h
    obtain ⟨fields, hfields⟩ := h [] name rest rfl
    rw [get?_nil, Option.some_inj] at hfields
    subst hfields
    refine ⟨fields, rfl, ?_⟩
    by_cases hrest : rest = []
    · exact .inl hrest
    · obtain ⟨next, others, rfl⟩ := List.exists_cons_of_ne_nil hrest
      obtain ⟨_, hchild⟩ := h [name] next others rfl
      rw [get?_object_cons] at hchild
      obtain ⟨child, hget, -⟩ := Option.bind_eq_some_iff.1 hchild
      refine .inr ⟨child, hget, fun before next' others' hsplit => ?_⟩
      have hreached := h (name :: before) next' others' (by rw [hsplit, List.cons_append])
      rwa [get?_object_cons, hget, Option.bind_some] at hreached
  · rintro ⟨fields, rfl, hrest⟩ before next others hsplit
    cases before with
    | nil => exact ⟨fields, rfl⟩
    | cons first before =>
      obtain ⟨rfl, rfl⟩ := List.cons.inj hsplit
      obtain hrest | ⟨child, hget, hchild⟩ := hrest
      · simp at hrest
      · rw [get?_object_cons, hget, Option.bind_some]
        exact hchild before next others rfl

theorem set?_ok_iff {v x : Value} {path : List String} (hne : path ≠ []) :
    (∃ updated, v.set? path x = some updated) ↔ v.Admits path := by
  induction path generalizing v with
  | nil => exact absurd rfl hne
  | cons name rest ih =>
    rw [admits_cons_iff]
    constructor
    · rintro ⟨updated, h⟩
      obtain ⟨fields, c, rfl, -, ⟨hrest, -⟩ | ⟨child, hget, hc⟩⟩ := set?_cons h
      · exact ⟨fields, rfl, .inl hrest⟩
      · by_cases hrest : rest = []
        · exact ⟨fields, rfl, .inl hrest⟩
        · exact ⟨fields, rfl, .inr ⟨child, hget, (ih hrest).1 ⟨c, hc⟩⟩⟩
    · rintro ⟨fields, rfl, h⟩
      by_cases hrest : rest = []
      · subst hrest
        exact ⟨_, rfl⟩
      · obtain h | ⟨child, hget, hchild⟩ := h
        · exact absurd h hrest
        · obtain ⟨c, hc⟩ := (ih hrest).2 hchild
          rw [set?_object_cons hrest, hget, Option.bind_some, hc]
          exact ⟨_, rfl⟩

theorem set?_eq_none_iff {v x : Value} {path : List String} (hne : path ≠ []) :
    v.set? path x = none ↔ ¬ v.Admits path := by
  rw [← set?_ok_iff hne (x := x), Option.eq_none_iff_forall_ne_some, not_exists]

theorem get?_of_set? {v x updated : Value} {path : List String}
    (h : v.set? path x = some updated) : updated.get? path = some x := by
  induction path generalizing v updated with
  | nil => rw [set?_nil] at h; cases h
  | cons name rest ih =>
    obtain ⟨fields, c, rfl, rfl, hc⟩ := set?_cons h
    rw [get?_object_cons, NameMap.get?_insert_self, Option.bind_some]
    obtain ⟨rfl, rfl⟩ | ⟨child, -, hc⟩ := hc
    · exact get?_nil c
    · exact ih hc

theorem get?_of_set?_of_apart {v x updated : Value} {path other : List String}
    (h : v.set? path x = some updated) (ha : PathsApart path other) :
    updated.get? other = v.get? other := by
  induction path generalizing v updated other with
  | nil => rw [set?_nil] at h; cases h
  | cons name rest ih =>
    obtain ⟨fields, c, rfl, rfl, hc⟩ := set?_cons h
    cases other with
    | nil => exact absurd List.nil_prefix ha.2
    | cons name' others =>
      by_cases hn : name' = name
      · subst hn
        have ha' := pathsApart_cons_iff.1 ha
        obtain ⟨rfl, -⟩ | ⟨child, hchild, hc⟩ := hc
        · exact absurd List.nil_prefix ha'.1
        · rw [get?_object_cons, get?_object_cons, NameMap.get?_insert_self, hchild,
            Option.bind_some, Option.bind_some]
          exact ih hc ha'
      · rw [get?_object_cons, get?_object_cons, NameMap.get?_insert_of_ne hn]

end Value

end SqlMapper
