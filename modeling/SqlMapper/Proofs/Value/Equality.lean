import SqlMapper.Value.Path

namespace SqlMapper

theorem Binary64.equals_trans {x y z : Binary64} (h : x.equals y = true) (h' : y.equals z = true) :
    x.equals z = true := by
  simp only [equals, Bool.and_eq_true, Bool.or_eq_true, Bool.not_eq_true', beq_iff_eq] at h h' ⊢
  obtain ⟨⟨hx, -⟩, h⟩ := h
  obtain ⟨⟨-, hz⟩, h'⟩ := h'
  refine ⟨⟨hx, hz⟩, ?_⟩
  obtain h | h := h
  · obtain rfl := Binary64.ext h
    exact h'
  · obtain h' | h' := h'
    · obtain rfl := Binary64.ext h'
      exact .inr h
    · exact .inr ⟨h.1, h'.2⟩

namespace Value

mutual

theorem equals_trans : ∀ {u v w : Value}, u.equals v = true → v.equals w = true → u.equals w = true
  | null, v, w, h, h' => by cases v <;> simp [equals] at h; exact h'
  | bool a, v, w, h, h' => by cases v <;> simp [equals] at h; subst h; exact h'
  | int a, v, w, h, h' => by cases v <;> simp [equals] at h; subst h; exact h'
  | float a, v, w, h, h' => by
    cases v <;> simp [equals] at h
    cases w <;> simp [equals] at h' ⊢
    exact Binary64.equals_trans h h'
  | string a, v, w, h, h' => by cases v <;> simp [equals] at h; subst h; exact h'
  | bytes a, v, w, h, h' => by cases v <;> simp [equals] at h; subst h; exact h'
  | array a, v, w, h, h' => by
    cases v <;> simp [equals] at h
    cases w <;> simp [equals] at h' ⊢
    exact equalItems_trans h h'
  | object a, v, w, h, h' => by
    cases v <;> simp [equals] at h
    cases w <;> simp [equals] at h' ⊢
    exact equalFields_trans h h'

theorem equalItems_trans : ∀ {u v w : List Value},
    equalItems u v = true → equalItems v w = true → equalItems u w = true
  | [], v, w, h, h' => by cases v <;> simp [equalItems] at h; exact h'
  | a :: as, v, w, h, h' => by
    cases v <;> simp [equalItems] at h
    cases w <;> simp [equalItems] at h' ⊢
    exact ⟨equals_trans h.1 h'.1, equalItems_trans h.2 h'.2⟩

theorem equalFields_trans : ∀ {u v w : List (String × Value)},
    equalFields u v = true → equalFields v w = true → equalFields u w = true
  | [], v, w, h, h' => by cases v <;> simp [equalFields] at h; exact h'
  | (m, a) :: as, v, w, h, h' => by
    cases v <;> simp [equalFields] at h
    cases w <;> simp [equalFields] at h' ⊢
    exact ⟨⟨h.1.1.trans h'.1.1, equals_trans h.1.2 h'.1.2⟩, equalFields_trans h.2 h'.2⟩

end

mutual

theorem equals_comm : ∀ v w : Value, v.equals w = w.equals v
  | null, w => by cases w <;> rfl
  | bool a, w => by cases w <;> simp [equals, BEq.comm]
  | int a, w => by cases w <;> simp [equals, BEq.comm]
  | float a, w => by cases w <;> simp [equals, Binary64.equals_comm]
  | string a, w => by cases w <;> simp [equals, BEq.comm]
  | bytes a, w => by cases w <;> simp [equals, BEq.comm]
  | array a, w => by cases w <;> simp [equals, equalItems_comm a]
  | object a, w => by cases w <;> simp [equals, equalFields_comm a]

theorem equalItems_comm : ∀ v w : List Value, equalItems v w = equalItems w v
  | [], w => by cases w <;> rfl
  | a :: as, w => by
    cases w with
    | nil => rfl
    | cons b bs => rw [equalItems, equalItems, equals_comm a b, equalItems_comm as bs]

theorem equalFields_comm : ∀ v w : List (String × Value), equalFields v w = equalFields w v
  | [], w => by cases w <;> rfl
  | (m, a) :: as, w => by
    cases w with
    | nil => rfl
    | cons b bs =>
      rw [equalFields, equalFields, equals_comm a b.2, equalFields_comm as bs, BEq.comm]

end

theorem equals_symm {v w : Value} (h : v.equals w = true) : w.equals v = true :=
  (equals_comm w v).trans h

/-- What is equal to anything is equal to itself. -/
theorem equals_self {v w : Value} (h : v.equals w = true) : v.equals v = true :=
  equals_trans h (equals_symm h)

theorem get?_of_equalFields {fields others : List (String × Value)} {name : String} {y : Value}
    (h : equalFields fields others = true) (hy : NameMap.get? name others = some y) :
    ∃ x, NameMap.get? name fields = some x ∧ x.equals y = true := by
  induction fields generalizing others with
  | nil => cases others <;> simp [equalFields] at h hy
  | cons e fields ih =>
    cases others with
    | nil => cases hy
    | cons d others =>
      obtain ⟨m, a⟩ := e
      obtain ⟨n, b⟩ := d
      simp only [equalFields, Bool.and_eq_true, beq_iff_eq] at h
      obtain ⟨⟨rfl, hab⟩, hrest⟩ := h
      by_cases hm : m = name
      · rw [NameMap.get?, if_pos hm] at hy ⊢
        cases hy
        exact ⟨a, rfl, hab⟩
      · rw [NameMap.get?, if_neg hm] at hy ⊢
        exact ih hrest hy

theorem get?_of_equals {v w x : Value} {path : List String} (h : v.equals w = true)
    (hx : w.get? path = some x) : ∃ y, v.get? path = some y ∧ y.equals x = true := by
  induction path generalizing v w with
  | nil =>
    rw [get?_nil] at hx ⊢
    cases hx
    exact ⟨v, rfl, h⟩
  | cons name rest ih =>
    cases w with
    | object others =>
      cases v with
      | object fields =>
        rw [get?_object_cons] at hx ⊢
        obtain ⟨b, hb, hx⟩ := Option.bind_eq_some_iff.1 hx
        obtain ⟨a, ha, hab⟩ := get?_of_equalFields (by simpa [equals] using h) hb
        rw [ha]
        exact ih hab hx
      | _ => cases h
    | _ => cases hx

/-- The same for a caller: one and the same value, or values that are equal. -/
def Same (v w : Value) : Prop := v = w ∨ v.equals w = true

theorem Same.refl (v : Value) : v.Same v := .inl rfl

theorem Same.trans {u v w : Value} (h : u.Same v) (h' : v.Same w) : u.Same w := by
  obtain rfl | h := h
  · exact h'
  · obtain rfl | h' := h'
    · exact .inr h
    · exact .inr (equals_trans h h')

theorem get?_of_same {v w x : Value} {path : List String} (h : v.Same w)
    (hx : w.get? path = some x) : ∃ y, v.get? path = some y ∧ y.Same x := by
  obtain rfl | h := h
  · exact ⟨x, hx, .refl x⟩
  · obtain ⟨y, hy, hyx⟩ := get?_of_equals h hx
    exact ⟨y, hy, .inr hyx⟩

end Value

end SqlMapper
