import SqlMapper.Contract.Basic

namespace SqlMapper.Contract

@[elab_as_elim] theorem inheritance {P : Contract → Prop}
    (extend : ∀ c : Contract, (∀ e ∈ c.parents, P e.1) → P c) (c : Contract) : P c :=
  match c with
  | mk _ _ parents _ => by
    apply extend
    intro e he
    have hlt : sizeOf e < sizeOf parents := List.sizeOf_lt_of_mem he
    exact inheritance extend e.1
termination_by sizeOf c
decreasing_by
  obtain ⟨parent, arguments⟩ := e
  simp only [mk.sizeOf_spec, Prod.mk.sizeOf_spec] at hlt ⊢
  omega

/-- The contract has this name or extends, directly or not, one that has. -/
inductive Extends (ancestor : String) : Contract → Prop where
  | self {c : Contract} (h : c.name = ancestor) : Extends ancestor c
  | parent {c : Contract} {e : Extension} (he : e ∈ c.parents) (h : Extends ancestor e.1) :
      Extends ancestor c

variable {ancestor : String} {c : Contract}

theorem extends_iff :
    Extends ancestor c ↔ c.name = ancestor ∨ ∃ e ∈ c.parents, Extends ancestor e.1 := by
  constructor
  · intro h
    cases h with
    | self h => exact .inl h
    | parent he h => exact .inr ⟨_, he, h⟩
  · rintro (h | ⟨e, he, h⟩)
    · exact .self h
    · exact .parent he h

theorem anySubtypeOf_eq_any (parents : List Extension) :
    anySubtypeOf ancestor parents = parents.any (·.1.isSubtypeOf ancestor) := by
  induction parents with
  | nil => rfl
  | cons e parents ih => rw [anySubtypeOf, ih, List.any_cons]

theorem isSubtypeOf_eq (c : Contract) :
    c.isSubtypeOf ancestor = (c.name == ancestor || c.parents.any (·.1.isSubtypeOf ancestor)) := by
  cases c
  rw [isSubtypeOf, anySubtypeOf_eq_any]
  rfl

theorem isSubtypeOf_iff : c.isSubtypeOf ancestor = true ↔ Extends ancestor c := by
  induction c using inheritance with
  | extend c ih =>
    rw [isSubtypeOf_eq, Bool.or_eq_true, beq_iff_eq, List.any_eq_true, extends_iff]
    apply or_congr Iff.rfl
    constructor
    · rintro ⟨e, he, h⟩
      exact ⟨e, he, (ih e he).1 h⟩
    · rintro ⟨e, he, h⟩
      exact ⟨e, he, (ih e he).2 h⟩

end SqlMapper.Contract
