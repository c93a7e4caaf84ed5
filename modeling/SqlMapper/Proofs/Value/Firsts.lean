import Mathlib.Data.List.Induction
import SqlMapper.Proofs.Value.Equality

namespace SqlMapper.Value

/-- Those of the values that equal none of `seen` and none before them. -/
def firstsAfter (seen : List Value) : List Value → List Value
  | [] => []
  | v :: vs =>
    if seen.any (·.equals v) then firstsAfter (seen ++ [v]) vs
    else v :: firstsAfter (seen ++ [v]) vs

def firsts (vs : List Value) : List Value := firstsAfter [] vs

theorem firstsAfter_append (seen vs ws : List Value) :
    firstsAfter seen (vs ++ ws) = firstsAfter seen vs ++ firstsAfter (seen ++ vs) ws := by
  induction vs generalizing seen with
  | nil => simp [firstsAfter]
  | cons v vs ih => by_cases h : seen.any (·.equals v) <;> simp [firstsAfter, h, ih]

theorem firsts_concat (vs : List Value) (v : Value) :
    firsts (vs ++ [v]) = firsts vs ++ if vs.any (·.equals v) then [] else [v] := by
  rw [firsts, firstsAfter_append, List.nil_append]
  rfl

/-- What equals a value of the list equals one that is left of it: equality being transitive, it does not
matter which of its equals was met first. -/
theorem any_firsts (vs : List Value) (w : Value) :
    (firsts vs).any (·.equals w) = vs.any (·.equals w) := by
  induction vs using List.reverseRecOn with
  | nil => rfl
  | append_singleton vs v ih =>
    rw [firsts_concat, List.any_append, ih, List.any_append]
    by_cases h : vs.any (·.equals v) = true
    · rw [if_pos h, List.any_nil, Bool.or_false]
      apply Bool.eq_iff_iff.mpr
      simp only [Bool.or_eq_true, List.any_cons, List.any_nil, Bool.or_false]
      refine ⟨.inl, fun hw => hw.elim id fun hvw => ?_⟩
      obtain ⟨u, hu, huv⟩ := List.any_eq_true.mp h
      exact List.any_eq_true.mpr ⟨u, hu, equals_trans huv hvw⟩
    · rw [if_neg h]

/-- `kept` is what is left of the values when each that equals one kept before it is left out. -/
structure Distinct (vs kept : List Value) : Prop where
  sublist : kept.Sublist vs
  unequal : kept.Pairwise fun v w => v.equals w = false
  omitted : ∀ before v after, vs = before ++ v :: after → ∃ earlier later,
    kept = earlier ++ later ∧ earlier.Sublist before ∧
      ((∃ w ∈ earlier, w.equals v = true) ∨ later.head? = some v)

theorem firsts_sublist (vs : List Value) : (firsts vs).Sublist vs := by
  induction vs using List.reverseRecOn with
  | nil => exact .refl _
  | append_singleton vs v ih =>
    rw [firsts_concat]
    apply ih.append
    split
    · exact List.nil_sublist _
    · exact .refl _

theorem pairwise_firsts (vs : List Value) :
    (firsts vs).Pairwise fun v w => v.equals w = false := by
  induction vs using List.reverseRecOn with
  | nil => exact .nil
  | append_singleton vs v ih =>
    rw [firsts_concat, List.pairwise_append]
    refine ⟨ih, ?_, fun u hu w hw => ?_⟩
    · split <;> simp
    · by_cases h : vs.any (·.equals v) = true
      · simp [h] at hw
      · obtain rfl : w = v := by simpa [h] using hw
        simp only [List.any_eq_true, not_exists, not_and, Bool.not_eq_true] at h
        exact h u ((firsts_sublist vs).subset hu)

theorem distinct_firsts (vs : List Value) : Distinct vs (firsts vs) where
  sublist := firsts_sublist vs
  unequal := pairwise_firsts vs
  omitted := by
    rintro before v after rfl
    refine ⟨firsts before, firstsAfter before (v :: after), firstsAfter_append [] _ _,
      firsts_sublist before, ?_⟩
    by_cases h : before.any (·.equals v) = true
    · rw [← any_firsts] at h
      exact .inl (List.any_eq_true.mp h)
    · rw [firstsAfter, if_neg h]
      exact .inr rfl

end SqlMapper.Value
