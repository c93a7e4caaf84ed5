import SqlMapper.Proofs.Value.Equality
import SqlMapper.Proofs.Value.Parts
import SqlMapper.Result.Collection
import SqlMapper.Result.Grouping

namespace SqlMapper

namespace Value

def NotNaN : Value → Prop
  | float x => x.isNaN = false
  | _ => True

mutual

theorem equals_self_iff_throughout : ∀ v : Value, v.equals v = true ↔ v.Throughout NotNaN
  | null | bool _ | int _ | float _ | string _ | bytes _ => by
    rw [throughout_iff rfl rfl]
    simp [equals, NotNaN, Binary64.equals_self_iff]
  | array items => by simp [equals, throughout_array_iff, NotNaN, equalItems_self_iff items]
  | object fields => by simp [equals, throughout_object_iff, NotNaN, equalFields_self_iff fields]

theorem equalItems_self_iff : ∀ items : List Value,
    equalItems items items = true ↔ ∀ v ∈ items, v.Throughout NotNaN
  | [] => by simp [equalItems]
  | v :: vs => by simp [equalItems, equals_self_iff_throughout v, equalItems_self_iff vs]

theorem equalFields_self_iff : ∀ fields : List (String × Value),
    equalFields fields fields = true ↔ ∀ e ∈ fields, e.2.Throughout NotNaN
  | [] => by simp [equalFields]
  | (_, v) :: vs => by simp [equalFields, equals_self_iff_throughout v, equalFields_self_iff vs]

end

variable {v w : Value}

theorem throughout_notNaN_iff :
    v.Throughout NotNaN ↔ ∀ x, (float x).Within v → x.isNaN = false := by
  constructor
  · exact fun h x hx => h (float x) hx
  · intro h u hu
    cases u with
    | float x => exact h x hu
    | _ => trivial

theorem equals_self_iff : v.equals v = true ↔ ∀ x, (float x).Within v → x.isNaN = false :=
  (equals_self_iff_throughout v).trans throughout_notNaN_iff

theorem typeName_of_equals (h : v.equals w = true) : v.typeName = w.typeName := by
  cases v <;> cases w <;> first | rfl | cases h

/-- What equals one of two equal values equals the other. -/
theorem equals_congr (h : v.equals w = true) (u : Value) : u.equals v = u.equals w :=
  Bool.eq_iff_iff.mpr ⟨fun hu => equals_trans hu h, fun hu => equals_trans hu (equals_symm h)⟩

theorem equals_false_of_self (h : v.equals v = false) (u : Value) : u.equals v = false := by
  apply Bool.eq_false_iff.mpr
  intro hu
  rw [equals_self (equals_symm hu)] at h
  cases h

end Value

namespace Grouping

variable {k l : Value}

theorem insertInto_insertInto (h : k.equals l = true) (a b : Value) (entries : List (Value × Value)) :
    insertInto l b (insertInto k a entries) = insertInto k b entries := by
  induction entries with
  | nil => simp [insertInto, h]
  | cons e entries ih =>
    obtain ⟨m, c⟩ := e
    have hm := Value.equals_congr h m
    by_cases hk : m.equals k = true
    · simp [insertInto, ← hm, hk]
    · simp [insertInto, ← hm, hk, ih]

theorem find?_insertInto (h : k.equals l = true) (a : Value) (entries : List (Value × Value)) :
    ((insertInto k a entries).find? fun e => e.1.equals l).map Prod.snd = some a := by
  induction entries with
  | nil => simp [insertInto, h]
  | cons e entries ih =>
    obtain ⟨m, c⟩ := e
    have hm := Value.equals_congr h m
    by_cases hk : m.equals k = true
    · simp [insertInto, ← hm, hk]
    · simpa [insertInto, ← hm, hk] using ih

theorem insertInto_of_new (a : Value) {entries : List (Value × Value)}
    (h : ∀ e ∈ entries, e.1.equals k = false) : insertInto k a entries = entries ++ [(k, a)] := by
  induction entries with
  | nil => rfl
  | cons e entries ih =>
    obtain ⟨he, hentries⟩ := List.forall_mem_cons.mp h
    rw [insertInto, he, ih hentries]
    rfl

theorem insert_insert_of_equals (g : Grouping) (h : k.equals l = true) (a b : Value) :
    (g.insert k a).insert l b = g.insert k b :=
  congrArg Grouping.mk (insertInto_insertInto h a b g.entries)

theorem get?_insert_of_equals (g : Grouping) (h : k.equals l = true) (a : Value) :
    (g.insert k a).get? l = some a :=
  find?_insertInto h a g.entries

theorem entries_insert_of_self (g : Grouping) (h : k.equals k = false) (a : Value) :
    (g.insert k a).entries = g.entries ++ [(k, a)] :=
  insertInto_of_new a fun e _ => Value.equals_false_of_self h e.1

theorem get?_of_self (g : Grouping) (h : k.equals k = false) : g.get? k = none := by
  rw [get?, Option.map_eq_none_iff, List.find?_eq_none]
  intro e _
  simp [Value.equals_false_of_self h e.1]

end Grouping

namespace DeclaredCollection

variable {v w : Value}

theorem add_add_of_equals {c : DeclaredCollection} (hc : c.kind = .set) (h : v.equals w = true) :
    (c.add v).add w = c.add v := by
  have hitems : c.items.any (·.equals v) = c.items.any (·.equals w) :=
    congrArg c.items.any (funext (Value.equals_congr h))
  by_cases hv : c.items.any (·.equals v) = true
  · have hadd : c.add v = c := if_pos ⟨hc, hv⟩
    rw [hadd]
    exact if_pos ⟨hc, hitems.symm.trans hv⟩
  · have hadd : c.add v = { c with items := c.items ++ [v] } := if_neg fun hset => hv hset.2
    rw [hadd]
    exact if_pos ⟨hc, by simp [h]⟩

theorem items_add_of_self (c : DeclaredCollection) (h : v.equals v = false) :
    (c.add v).items = c.items ++ [v] := by
  have hnone : c.items.any (·.equals v) = false := by
    rw [List.any_eq_false]
    intro u _
    simp [Value.equals_false_of_self h u]
  simp [add, hnone]

end DeclaredCollection

/-- Equality is symmetric and transitive, holds between values of one type only, and of a value and itself
exactly if there is no NaN within it. So equal values are one key to a grouping and one item to a set, and
one that does not equal itself is never found and never left out. -/
theorem Value.equals_partial_equivalence :
    (∀ v w : Value, v.equals w = true → w.equals v = true) ∧
    (∀ u v w : Value, u.equals v = true → v.equals w = true → u.equals w = true) ∧
    (∀ v w : Value, v.typeName ≠ w.typeName → v.equals w = false) ∧
    (∀ v : Value, v.equals v = true ↔ ∀ x, (float x).Within v → x.isNaN = false) ∧
    (∀ k l : Value, k.equals l = true →
      (∀ (g : Grouping) (a b : Value),
        (g.insert k a).insert l b = g.insert k b ∧ (g.insert k a).get? l = some a) ∧
      ∀ c : DeclaredCollection, c.kind = .set → (c.add k).add l = c.add k) ∧
    ∀ k : Value, k.equals k = false →
      (∀ (g : Grouping) (a : Value),
        (g.insert k a).entries = g.entries ++ [(k, a)] ∧ g.get? k = none) ∧
      ∀ c : DeclaredCollection, (c.add k).items = c.items ++ [k] := by
  refine ⟨fun _ _ => equals_symm, fun _ _ _ => equals_trans, fun v w htype => ?_,
    fun _ => equals_self_iff, fun k l h => ⟨fun g a b => ?_, fun c hc => ?_⟩,
    fun k h => ⟨fun g a => ?_, fun c => ?_⟩⟩
  · exact Bool.eq_false_iff.mpr fun h => htype (typeName_of_equals h)
  · exact ⟨g.insert_insert_of_equals h a b, g.get?_insert_of_equals h a⟩
  · exact DeclaredCollection.add_add_of_equals hc h
  · exact ⟨g.entries_insert_of_self h a, g.get?_of_self h⟩
  · exact c.items_add_of_self h

def plusZero : Value := .float (.ofInt 0)

def minusZero : Value := .float (.ofBits 0x8000000000000000)

def nestedNaN : Value := .object [("k", .array [.float (.ofBits Binary64.quietNaN)])]

/-- The two zeros are two values and one key. A NaN, however deep, makes of two copies two items of a set. -/
theorem zeros_one_key :
    plusZero ≠ minusZero ∧ plusZero.equals minusZero = true ∧ minusZero.equals plusZero = true ∧
    (Grouping.empty.insert plusZero (.int 1)).insert minusZero (.int 2) = ⟨[(plusZero, .int 2)]⟩ ∧
    nestedNaN.equals nestedNaN = false ∧
    (((DeclaredCollection.empty .set).add nestedNaN).add nestedNaN).items = [nestedNaN, nestedNaN] := by
  have hzeros : plusZero.equals minusZero = true := by decide +kernel
  have hnan : nestedNaN.equals nestedNaN = false := by decide +kernel
  obtain ⟨hsymm, -, -, -, hone, halone⟩ := Value.equals_partial_equivalence
  have hkey := ((hone _ _ hzeros).1 .empty (.int 1) (.int 2)).1
  have hitems := (halone _ hnan).2
  refine ⟨by decide +kernel, hzeros, hsymm _ _ hzeros, hkey, hnan, ?_⟩
  rw [hitems, hitems]
  rfl

end SqlMapper
