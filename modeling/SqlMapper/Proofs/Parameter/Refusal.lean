import SqlMapper.Proofs.Parameter.Writing

namespace SqlMapper

/-- The whole of the other property, or what stands before one of its dots. -/
def DottedPrefix (property other : String) : Prop :=
  property = other ∨ ∃ rest, other = property ++ "." ++ rest

theorem segments_prefix_iff {s t : String} :
    segments s <+: segments t ↔ Text.split '.' s.toList <+: Text.split '.' t.toList := by
  refine ⟨fun h => ?_, fun h => h.map String.ofList⟩
  have hchars := h.map String.toList
  simpa [segments, Function.comp_def] using hchars

theorem dottedPrefix_iff {s t : String} : DottedPrefix s t ↔ segments s <+: segments t := by
  rw [segments_prefix_iff, Text.split_prefix_split_iff, String.toList_inj]
  constructor
  · rintro (rfl | ⟨rest, rfl⟩)
    · exact .inl rfl
    · exact .inr ⟨rest.toList, by simp⟩
  · rintro (h | ⟨rest, h⟩)
    · exact .inl h
    · refine .inr ⟨String.ofList rest, ?_⟩
      rw [← String.toList_inj, h]
      simp

theorem pathsApart_of_not_dottedPrefix {s t : String} (h : ¬ DottedPrefix s t) (h' : ¬ DottedPrefix t s) :
    PathsApart (segments s) (segments t) :=
  ⟨mt dottedPrefix_iff.mpr h, mt dottedPrefix_iff.mpr h'⟩

namespace Parameter

inductive Refuses (property : String) : Parameter → Error → Prop where
  | absent : Refuses property absent (.noSuchProperty property "null")
  | single {v : Value} (h : ¬ v.Admits (segments property)) :
    Refuses property (single v) (.noSuchProperty property v.typeName)
  | entry {arguments : NameMap Value} {name : String} {rest : List String} {v : Value}
    (path : segments property = name :: rest) (dotted : rest ≠ [])
    (bound : NameMap.get? name arguments = some v) (h : ¬ v.Admits rest) :
    Refuses property (named arguments) (.noSuchProperty property v.typeName)
  | unbound {arguments : NameMap Value} {name : String} {rest : List String}
    (path : segments property = name :: rest) (dotted : rest ≠ [])
    (h : NameMap.get? name arguments = none) :
    Refuses property (named arguments) (.parameterNotFound name (NameMap.names arguments))

variable {property : String} {x : Value} {p q : Parameter} {e : Error}

theorem assign_single_error_iff {v : Value} :
    (single v).assign property x = .error e ↔ (single v).Refuses property e := by
  have hnone_iff := Value.set?_eq_none_iff (v := v) (x := x) (segments_ne_nil property)
  constructor
  · intro h
    simp only [assign] at h
    split at h
    · cases h
    · next hnone =>
      cases h
      exact .single (hnone_iff.mp hnone)
  · intro h
    cases h with
    | single h =>
      have hnone : v.setProperty property x = none := hnone_iff.mpr h
      simp only [assign, hnone]

theorem named_refuses_iff {arguments : NameMap Value} {head : String} {rest : List String}
    (hpath : segments property = head :: rest) (hdotted : rest ≠ []) :
    (named arguments).Refuses property e ↔
      NameMap.get? head arguments = none ∧ e = .parameterNotFound head (NameMap.names arguments) ∨
      ∃ v, NameMap.get? head arguments = some v ∧ ¬ v.Admits rest ∧ e = .noSuchProperty property v.typeName := by
  constructor
  · intro h
    cases h with
    | entry path _ bound h =>
      obtain ⟨rfl, rfl⟩ := List.cons.inj (path.symm.trans hpath)
      exact .inr ⟨_, bound, h, rfl⟩
    | unbound path _ h =>
      obtain ⟨rfl, -⟩ := List.cons.inj (path.symm.trans hpath)
      exact .inl ⟨h, rfl⟩
  · rintro (⟨h, rfl⟩ | ⟨v, bound, h, rfl⟩)
    · exact .unbound hpath hdotted h
    · exact .entry hpath hdotted bound h

theorem not_named_refuses {arguments : NameMap Value} {head : String}
    (hpath : segments property = [head]) : ¬ (named arguments).Refuses property e := by
  intro h
  cases h with
  | entry path dotted | unbound path dotted =>
    exact absurd (List.cons.inj (path.symm.trans hpath)).2 dotted

theorem assign_named_error_iff {arguments : NameMap Value} :
    (named arguments).assign property x = .error e ↔ (named arguments).Refuses property e := by
  have hpath := segments_eq_splitHead property
  rcases hs : splitHead property with ⟨head, _ | path⟩ <;> rw [hs] at hpath
  · simp only [assign, hs, reduceCtorEq, false_iff]
    exact not_named_refuses hpath
  · have hdotted := segments_ne_nil path
    rw [named_refuses_iff hpath hdotted]
    simp only [assign, hs, NameMap.argument]
    cases hget : NameMap.get? head arguments with
    | none => simp [bind, Except.bind, eq_comm]
    | some v =>
      have hnone_iff : v.setProperty path x = none ↔ ¬ v.Admits (segments path) :=
        Value.set?_eq_none_iff hdotted
      cases hset : v.setProperty path x with
      | none => simp [bind, Except.bind, hset, hnone_iff.mp hset, eq_comm]
      | some updated =>
        have hadmits : v.Admits (segments path) := by
          by_contra h
          cases hset.symm.trans (hnone_iff.mpr h)
        simp [bind, Except.bind, hset, hadmits]

theorem assign_error_iff : p.assign property x = .error e ↔ p.Refuses property e := by
  cases p with
  | absent =>
    constructor
    · rintro ⟨⟩
      exact .absent
    · rintro ⟨⟩
      rfl
  | single v => exact assign_single_error_iff
  | named arguments => exact assign_named_error_iff

/-- An assignment is refused exactly to no parameter object, along a path that does not lead through
objects, and to a property of an argument that is not bound; then it changes nothing. Otherwise the property
has the value from then on, and lookups of properties of which neither is a part of the other are answered
as before, but that the assignment may have bound an argument. -/
theorem write_lookup (property : String) (x : Value) (p : Parameter) :
    (∀ e, ((write property x).outcome p).1 = .error e ↔ p.Refuses property e) ∧
    (∀ e q, (write property x).outcome p = (.error e, q) → q = p) ∧
    ∀ q, (write property x).outcome p = (.ok (), q) → q.lookup property = .ok x ∧
      ∀ other, ¬ DottedPrefix other property → ¬ DottedPrefix property other →
        AnswersAlikeBut property (p.lookup other) (q.lookup other) := by
  cases h : p.assign property x with
  | error e =>
    rw [write_of_error h]
    refine ⟨fun e' => ?_, ?_, nofun⟩
    · rw [← assign_error_iff (x := x), h, Except.error.injEq, Except.error.injEq]
    · rintro _ _ ⟨⟩
      rfl
  | ok updated =>
    rw [write_of_ok h]
    refine ⟨fun e => ?_, nofun, ?_⟩
    · rw [← assign_error_iff (x := x), h]
      exact ⟨nofun, nofun⟩
    · rintro _ ⟨⟩
      refine ⟨lookup_of_assign h, fun other hwhole hpart => ?_⟩
      exact lookup_of_assign_of_apart h (pathsApart_of_not_dottedPrefix hpart hwhole)

/-- A name that has been bound is one of those that a later lookup lists. -/
example : (write "limit" .null).outcome (named [("id", .null)]) =
      (.ok (), named [("id", .null), ("limit", .null)]) ∧
    (named [("id", .null)]).lookup "offset" = .error (.parameterNotFound "offset" ["id"]) ∧
    (named [("id", .null), ("limit", .null)]).lookup "offset" =
      .error (.parameterNotFound "offset" ["id", "limit"]) := ⟨rfl, rfl, rfl⟩

end Parameter

end SqlMapper
