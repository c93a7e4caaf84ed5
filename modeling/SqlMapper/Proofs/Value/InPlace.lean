import SqlMapper.Proofs.Parameter.Property
import SqlMapper.Proofs.Value.Parts

namespace SqlMapper

theorem NameMap.insert_of_get? {α : Type} {name : String} {a : α} {m : NameMap α} (hm : Sorted m)
    (h : get? name m = some a) : insert name a m = m := by
  induction m with
  | nil => cases h
  | cons e rest ih =>
    obtain ⟨n, b⟩ := e
    obtain ⟨hfirst, hrest⟩ := List.pairwise_cons.mp hm
    by_cases hn : n = name
    · rw [get?, if_pos hn] at h
      cases h
      rw [insert, if_pos hn, hn]
    · rw [get?, if_neg hn] at h
      have hlt : n < name := hfirst (name, a) (mem_of_get? h)
      rw [insert, if_neg hn, if_neg (String.lt_asymm hlt), ih hrest h]

/-- An object that a walk has gone through, and the field by which it went on. -/
structure Passage where
  fields : NameMap Value
  name : String

/-- What a walk into a value has come to, and through what, the nearest first. -/
structure PropertyWalk where
  here : Value
  passed : List Passage

namespace PropertyWalk

/-- The whole value again, with what the walk has come to in its place. -/
def whole (w : PropertyWalk) : Value :=
  w.passed.foldl (fun v p => .object (NameMap.insert p.name v p.fields)) w.here

/-- Goes by the names from object to object and puts `x` under the last of them. Answers whether it got
there, and where it is then. -/
def assign (x : Value) : List String → PropertyWalk → Bool × PropertyWalk
  | [], w => (false, w)
  | name :: rest, w =>
    match w.here with
    | .object fields =>
      if rest.isEmpty then (true, { w with here := .object (NameMap.insert name x fields) })
      else match NameMap.get? name fields with
        | some next => assign x rest ⟨next, ⟨fields, name⟩ :: w.passed⟩
        | none => (false, w)
    | _ => (false, w)

end PropertyWalk

namespace Value

def put (v : Value) (path : String) (x : Value) : Bool × Value :=
  let (reached, w) := PropertyWalk.assign x (segments path) ⟨v, []⟩
  (reached, w.whole)

def FieldsSorted : Value → Prop
  | object fields => NameMap.Sorted fields
  | _ => True

/-- The fields of all objects within are in the order of their names. -/
def Ordered (v : Value) : Prop := v.Throughout FieldsSorted

variable {u v x y : Value} {path : List String}

theorem Ordered.sorted {fields : NameMap Value} (h : (object fields).Ordered) : NameMap.Sorted fields :=
  (throughout_object_iff.mp h).1

theorem Ordered.field {fields : NameMap Value} {name : String} (h : (object fields).Ordered)
    (hget : NameMap.get? name fields = some v) : v.Ordered :=
  (throughout_object_iff.mp h).2 (name, v) (NameMap.mem_of_get? hget)

theorem Ordered.insert {fields : NameMap Value} (h : (object fields).Ordered) (name : String)
    (hx : x.Ordered) : (object (NameMap.insert name x fields)).Ordered := by
  obtain ⟨hsorted, hfields⟩ := throughout_object_iff.mp h
  refine throughout_object_iff.mpr ⟨NameMap.sorted_insert hsorted name x, fun e he => ?_⟩
  obtain rfl | he := NameMap.mem_insert he
  · exact hx
  · exact hfields e he

theorem ne_nil_of_set? (h : v.set? path x = some u) : path ≠ [] := by
  rintro rfl
  rw [set?_nil] at h
  cases h

theorem ordered_of_set? (h : v.set? path x = some u) (hv : v.Ordered) (hx : x.Ordered) : u.Ordered := by
  induction path generalizing v u with
  | nil => exact absurd rfl (ne_nil_of_set? h)
  | cons name rest ih =>
    obtain ⟨fields, c, rfl, rfl, ⟨-, rfl⟩ | ⟨child, hchild, hc⟩⟩ := set?_cons h
    · exact hv.insert name hx
    · exact hv.insert name (ih hc (hv.field hchild))

/-- A value as insertion builds them. -/
structure InOrder where
  value : Value
  ordered : value.Ordered

/-- Of two writes to one path the second counts. -/
theorem set?_set? (h : v.set? path x = some u) : u.set? path y = v.set? path y := by
  induction path generalizing v u with
  | nil => exact absurd rfl (ne_nil_of_set? h)
  | cons name rest ih =>
    obtain ⟨fields, c, rfl, rfl, ⟨rfl, rfl⟩ | ⟨child, hchild, hc⟩⟩ := set?_cons h
    · simp only [set?, NameMap.insert_insert]
    · have hrest : rest ≠ [] := ne_nil_of_set? hc
      rw [set?_object_cons hrest, set?_object_cons hrest, NameMap.get?_insert_self, hchild,
        Option.bind_some, Option.bind_some, ih hc]
      simp only [NameMap.insert_insert]

end Value

namespace PropertyWalk

open Value

variable {u v x : Value} {path : List String}

theorem whole_enter {fields : NameMap Value} {name : String} (hfields : NameMap.Sorted fields)
    (h : NameMap.get? name fields = some v) (passed : List Passage) :
    whole ⟨v, ⟨fields, name⟩ :: passed⟩ = whole ⟨.object fields, passed⟩ := by
  rw [whole, List.foldl_cons, NameMap.insert_of_get? hfields h]
  rfl

variable {fields : NameMap Value} {name : String} {rest : List String}

theorem assign_enter (hrest : rest ≠ []) (h : NameMap.get? name fields = some v)
    (passed : List Passage) :
    assign x (name :: rest) ⟨.object fields, passed⟩ =
      assign x rest ⟨v, ⟨fields, name⟩ :: passed⟩ := by
  simp [assign, hrest, h]

theorem assign_missing (hrest : rest ≠ []) (h : NameMap.get? name fields = none)
    (passed : List Passage) :
    assign x (name :: rest) ⟨.object fields, passed⟩ = (false, ⟨.object fields, passed⟩) := by
  simp [assign, hrest, h]

theorem assign_of_set? (h : v.set? path x = some u) (passed : List Passage) :
    ∃ w, assign x path ⟨v, passed⟩ = (true, w) ∧ w.whole = whole ⟨u, passed⟩ := by
  induction path generalizing v u passed with
  | nil => exact absurd rfl (ne_nil_of_set? h)
  | cons name rest ih =>
    obtain ⟨fields, c, rfl, rfl, ⟨rfl, rfl⟩ | ⟨child, hchild, hc⟩⟩ := set?_cons h
    · exact ⟨_, rfl, rfl⟩
    · rw [assign_enter (ne_nil_of_set? hc) hchild]
      exact ih hc (⟨fields, name⟩ :: passed)

theorem assign_of_set?_eq_none (hv : v.Ordered) (h : v.set? path x = none) (passed : List Passage) :
    ∃ w, assign x path ⟨v, passed⟩ = (false, w) ∧ w.whole = whole ⟨v, passed⟩ := by
  -- wherever the walk gives up, the whole is still what it was at the object before
  induction path generalizing v passed with
  | nil => exact ⟨_, rfl, rfl⟩
  | cons name rest ih =>
    cases v with
    | object fields =>
      have hrest : rest ≠ [] := by
        rintro rfl
        rw [set?] at h
        cases h
      rw [set?_object_cons hrest] at h
      cases hchild : NameMap.get? name fields with
      | none => exact ⟨_, assign_missing hrest hchild passed, rfl⟩
      | some child =>
        rw [hchild, Option.bind_some, Option.map_eq_none_iff] at h
        obtain ⟨w, hw, hwhole⟩ := ih (hv.field hchild) h (⟨fields, name⟩ :: passed)
        exact ⟨w, (assign_enter hrest hchild passed).trans hw,
          hwhole.trans (whole_enter hv.sorted hchild passed)⟩
    | _ => exact ⟨_, rfl, rfl⟩

end PropertyWalk

namespace Value

variable {u v x : Value} {path : String}

/-- In place, the value becomes what setting answers. -/
theorem put_of_setProperty (h : v.setProperty path x = some u) : v.put path x = (true, u) := by
  obtain ⟨w, hw, hwhole⟩ := PropertyWalk.assign_of_set? h []
  rw [put, hw]
  exact congrArg (true, ·) hwhole

/-- In place, the value stays as it was where setting has no answer. -/
theorem put_of_eq_none (hv : v.Ordered) (h : v.setProperty path x = none) :
    v.put path x = (false, v) := by
  obtain ⟨w, hw, hwhole⟩ := PropertyWalk.assign_of_set?_eq_none hv h []
  rw [put, hw]
  exact congrArg (false, ·) hwhole

theorem setProperty_ok_iff : (∃ u, v.setProperty path x = some u) ↔ v.Admits (segments path) :=
  set?_ok_iff (segments_ne_nil path)

theorem put_twice (h : v.setProperty path x = some u) (y : Value) : u.put path y = v.put path y := by
  have hset : u.setProperty path y = v.setProperty path y := set?_set? h
  have hadmits : v.Admits (segments path) := setProperty_ok_iff.mp ⟨u, h⟩
  obtain ⟨w, hw⟩ : ∃ w, v.setProperty path y = some w := setProperty_ok_iff.mpr hadmits
  rw [put_of_setProperty hw, put_of_setProperty (hset.trans hw)]

/-- Setting a property reaches exactly the paths that lead through objects. Then the property has the value
from then on, and those along paths apart from this one are as they were; otherwise the whole value is. Of
two values that are set the second counts. -/
theorem property_lens (v : InOrder) {reached : Bool} (h : v.value.put path x = (reached, u)) :
    (reached = true ↔ v.value.Admits (segments path)) ∧
    (reached = true → u.property path = some x ∧
      ∀ other, PathsApart (segments path) (segments other) →
        u.property other = v.value.property other) ∧
    (reached = false → u = v.value) ∧
    (∀ y, u.put path y = v.value.put path y) ∧
    v.value.setProperty path x = (if reached then some u else none) ∧
    (x.Ordered → u.Ordered) := by
  obtain ⟨v, hv⟩ := v
  dsimp only at h ⊢
  cases hset : v.setProperty path x with
  | some w =>
    cases (put_of_setProperty hset).symm.trans h
    have hadmits : v.Admits (segments path) := setProperty_ok_iff.mp ⟨u, hset⟩
    exact ⟨iff_of_true rfl hadmits, fun _ => ⟨get?_of_set? hset, fun _ => get?_of_set?_of_apart hset⟩,
      nofun, put_twice hset, rfl, ordered_of_set? hset hv⟩
  | none =>
    cases (put_of_eq_none hv hset).symm.trans h
    have hrefused : ¬ u.Admits (segments path) := (set?_eq_none_iff (segments_ne_nil path)).mp hset
    exact ⟨iff_of_false nofun hrefused, nofun, fun _ => rfl, fun _ => rfl, rfl, fun _ => hv⟩

def cityless : Value := .object [("address", .object []), ("id", .int 7)]

/-- A city is created in the address, and nothing is created on the way to one. -/
theorem city_set :
    cityless.Ordered ∧
    cityless.put "address.city" (.string "Oslo") =
      (true, .object [("address", .object [("city", .string "Oslo")]), ("id", .int 7)]) ∧
    cityless.Admits (segments "address.city") ∧
    cityless.put "home.city" (.string "Oslo") = (false, cityless) ∧
    ¬ cityless.Admits (segments "home.city") := by
  have hid : (Value.int 7).Ordered := (throughout_iff rfl rfl).mpr trivial
  have haddress : (Value.object []).Ordered := throughout_object_iff.mpr ⟨.nil, nofun⟩
  have hsorted : NameMap.Sorted [("address", Value.object []), ("id", Value.int 7)] :=
    List.pairwise_pair.mpr (by decide)
  have hordered : cityless.Ordered := throughout_object_iff.mpr
    ⟨hsorted, List.forall_mem_cons.mpr ⟨haddress, List.forall_mem_singleton.mpr hid⟩⟩
  have hset : cityless.put "address.city" (.string "Oslo") =
      (true, .object [("address", .object [("city", .string "Oslo")]), ("id", .int 7)]) := by
    decide +kernel
  have hrefused : cityless.put "home.city" (.string "Oslo") = (false, cityless) := by decide +kernel
  have hadmits := (property_lens ⟨cityless, hordered⟩ hset).1.mp rfl
  have hnot := (property_lens ⟨cityless, hordered⟩ hrefused).1.not.mp nofun
  exact ⟨hordered, hset, hadmits, hrefused, hnot⟩

end Value

end SqlMapper
