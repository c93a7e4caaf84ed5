import SqlMapper.Parameter.Property
import SqlMapper.Proofs.Maintains
import SqlMapper.Proofs.Value.Path

namespace SqlMapper

theorem segments_ne_nil (path : String) : segments path ≠ [] :=
  mt List.map_eq_nil_iff.1 (Text.split_ne_nil '.' path.toList)

theorem segments_eq_splitHead (property : String) :
    segments property = (splitHead property).1 :: (splitHead property).2.elim [] segments := by
  rw [segments, Text.split_eq_splitOnce, List.map_cons, splitHead]
  rcases Text.splitOnce '.' property.toList with ⟨head, _ | tail⟩
  · rfl
  · simp [segments]

theorem fst_splitHead_of_bare {property : String} (h : (splitHead property).2.elim [] segments = []) :
    (splitHead property).1 = property := by
  have hnone : (Text.splitOnce '.' property.toList).2 = none := by
    rcases hs : Text.splitOnce '.' property.toList with ⟨head, _ | tail⟩
    · rfl
    · rw [splitHead, hs] at h
      exact absurd h (segments_ne_nil _)
  change String.ofList (Text.splitOnce '.' property.toList).1 = property
  rw [Text.fst_splitOnce_of_none hnone, String.ofList_toList]

theorem NameMap.argument_insert_self (name : String) (x : Value) (arguments : NameMap Value) :
    (arguments.insert name x).argument name = .ok x := by
  rw [argument, get?_insert_self]

namespace Parameter

theorem assign_of_write {property : String} {x : Value} {p q : Parameter}
    (h : (write property x).outcome p = (.ok (), q)) : p.assign property x = .ok q := by
  unfold Fallible.outcome write at h
  split at h <;> cases h
  assumption

theorem write_of_ok {property : String} {x : Value} {p q : Parameter}
    (h : p.assign property x = .ok q) : (write property x).outcome p = (.ok (), q) := by
  unfold Fallible.outcome write
  rw [h]

theorem write_of_error {property : String} {x : Value} {p : Parameter} {e : Error}
    (h : p.assign property x = .error e) : (write property x).outcome p = (.error e, p) := by
  unfold Fallible.outcome write
  rw [h]

def assignAll (writes : List (String × Value)) (p : Parameter) : Except Error Parameter :=
  writes.foldlM (fun p w => p.assign w.1 w.2) p

theorem assignAll_append (writes others : List (String × Value)) (p : Parameter) :
    p.assignAll (writes ++ others) = p.assignAll writes >>= (·.assignAll others) :=
  List.foldlM_append

theorem assign_named {arguments : NameMap Value} {property : String} {x : Value} {p : Parameter}
    (h : (named arguments).assign property x = .ok p) :
    ∃ updated, p = named updated ∧
      (Value.object arguments).set? (segments property) x = some (.object updated) := by
  rw [segments_eq_splitHead]
  rcases hs : splitHead property with ⟨head, _ | path⟩ <;> simp only [assign, hs] at h
  · cases h
    exact ⟨_, rfl, rfl⟩
  · obtain ⟨target, ht, h⟩ := ok_of_except_bind_ok h
    have hget : NameMap.get? head arguments = some target := by
      unfold NameMap.argument at ht
      split at ht <;> cases ht
      assumption
    split at h
    · next c hc =>
      cases h
      refine ⟨_, rfl, ?_⟩
      rw [Option.elim_some, Value.set?_object_cons (segments_ne_nil path), hget, Option.bind_some,
        show target.set? (segments path) x = some c from hc]
      rfl
    · cases h

theorem lookup_of_assign {property : String} {x : Value} {p q : Parameter}
    (h : p.assign property x = .ok q) : q.lookup property = .ok x := by
  cases p with
  | absent => cases h
  | single target =>
    simp only [assign] at h
    split at h
    · next updated hset =>
      cases h
      have hread : updated.property property = some x := Value.get?_of_set? hset
      -- only objects are written to, so what comes of it is one
      obtain ⟨name, rest, hpath⟩ := List.exists_cons_of_ne_nil (segments_ne_nil property)
      rw [Value.setProperty, hpath] at hset
      obtain ⟨fields, c, -, rfl, -⟩ := Value.set?_cons hset
      simp only [lookup, hread]
    · cases h
  | named arguments =>
    rcases hs : splitHead property with ⟨head, _ | path⟩ <;> simp only [assign, hs] at h
    · cases h
      simp only [lookup, hs, NameMap.argument_insert_self]
    · obtain ⟨target, -, h⟩ := ok_of_except_bind_ok h
      split at h
      · next updated hset =>
        cases h
        have hread : updated.property path = some x := Value.get?_of_set? hset
        simp [lookup, hs, NameMap.argument_insert_self, hread, bind, Except.bind]
      · cases h

variable {arguments updated : NameMap Value} {p : Parameter} {writes : List (String × Value)}

theorem assignAll_named (h : (named arguments).assignAll writes = .ok p) :
    ∃ updated, p = named updated := by
  induction writes generalizing arguments with
  | nil =>
    cases h
    exact ⟨arguments, rfl⟩
  | cons w writes ih =>
    obtain ⟨q, hq, h⟩ := ok_of_except_bind_ok h
    obtain ⟨_, rfl, -⟩ := assign_named hq
    exact ih h

theorem get?_of_assignAll_of_apart {path : List String}
    (h : (named arguments).assignAll writes = .ok (named updated))
    (ha : ∀ w ∈ writes, PathsApart (segments w.1) path) :
    (Value.object updated).get? path = (Value.object arguments).get? path := by
  induction writes generalizing arguments with
  | nil =>
    cases h
    rfl
  | cons w writes ih =>
    obtain ⟨hw, hwrites⟩ := List.forall_mem_cons.1 ha
    obtain ⟨q, hq, h⟩ := ok_of_except_bind_ok h
    obtain ⟨between, rfl, hset⟩ := assign_named hq
    rw [ih h hwrites, Value.get?_of_set?_of_apart hset hw]

theorem get?_of_assignAll {earlier later : List (String × Value)} {property : String} {x : Value}
    (h : (named arguments).assignAll (earlier ++ (property, x) :: later) = .ok (named updated))
    (ha : ∀ w ∈ later, PathsApart (segments w.1) (segments property)) :
    (Value.object updated).get? (segments property) = some x := by
  rw [assignAll_append] at h
  obtain ⟨q, hq, h⟩ := ok_of_except_bind_ok h
  obtain ⟨before, rfl⟩ := assignAll_named hq
  obtain ⟨r, hr, h⟩ := ok_of_except_bind_ok h
  obtain ⟨between, rfl, hset⟩ := assign_named hr
  rw [get?_of_assignAll_of_apart h ha, Value.get?_of_set? hset]

end Parameter

end SqlMapper
