import Mathlib.Data.List.Nodup
import SqlMapper.Proofs.Binding.Packing
import SqlMapper.Proofs.Value.Equality

namespace SqlMapper.ParameterNames

variable {p : ParameterNames} {arguments : List Argument} {q : Parameter}

/-- What an argument becomes whose parameter has this name. -/
def returned (q : Parameter) (name : String) (a : Argument) : Argument :=
  (packedValue q name).elim a (update · a)

theorem writeBack_eq_foldl (p : ParameterNames) (q : Parameter) (arguments : List Argument) :
    p.writeBack q arguments =
      p.names.foldl (fun arguments s => arguments.modify s.1 (returned q s.2)) arguments := by
  unfold writeBack
  congr 1
  funext arguments s
  unfold returned
  dsimp only
  cases packedValue q s.2 with
  | none => exact (List.modify_id s.1 arguments).symm
  | some v => rfl

theorem length_writeBack : (p.writeBack q arguments).length = arguments.length := by
  rw [writeBack_eq_foldl]
  induction p.names generalizing arguments with
  | nil => rfl
  | cons s names ih => rw [List.foldl_cons, ih, List.length_modify]

theorem getElem?_foldl_of_notMem {i : Nat} {names : List (Nat × String)}
    (hi : i ∉ names.map Prod.fst) (arguments : List Argument) :
    (names.foldl (fun arguments s => arguments.modify s.1 (returned q s.2)) arguments)[i]? =
      arguments[i]? := by
  induction names generalizing arguments with
  | nil => rfl
  | cons s names ih =>
    rw [List.map_cons, List.mem_cons, not_or] at hi
    rw [List.foldl_cons, ih hi.2, List.getElem?_modify_ne _ _ (Ne.symm hi.1)]

theorem getElem?_writeBack_of_notMem {i : Nat} (hi : i ∉ p.names.map Prod.fst) :
    (p.writeBack q arguments)[i]? = arguments[i]? := by
  rw [writeBack_eq_foldl, getElem?_foldl_of_notMem hi]

theorem getElem?_writeBack_of_mem (hp : (p.names.map Prod.fst).Nodup) {s : Nat × String}
    (hs : s ∈ p.names) : (p.writeBack q arguments)[s.1]? = arguments[s.1]?.map (returned q s.2) := by
  rw [writeBack_eq_foldl]
  obtain ⟨before, after, hnames⟩ := List.append_of_mem hs
  rw [hnames, List.map_append, List.map_cons, List.nodup_middle, List.nodup_cons, List.mem_append,
    not_or] at hp
  rw [hnames, List.foldl_append, List.foldl_cons, getElem?_foldl_of_notMem hp.1.2,
    List.getElem?_modify_eq, getElem?_foldl_of_notMem hp.1.1]
  rfl

theorem update_eq_self_iff {v w : Value} : update w (.value v) = .value v ↔ v.Same w := by
  rw [update, Value.Same]
  split
  · next h => simp [h]
  · next h => simp [h, @eq_comm _ w v]

theorem getElem?_writeBack_eq_iff (hp : (p.names.map Prod.fst).Nodup) {s : Nat × String} {v : Value}
    (hs : s ∈ p.names) (hv : valueAt arguments s.1 = .ok v) :
    (p.writeBack q arguments)[s.1]? = arguments[s.1]? ↔
      ∀ w, packedValue q s.2 = some w → v.Same w := by
  rw [getElem?_writeBack_of_mem hp hs, getElem?_of_valueAt hv, Option.map_some, Option.some_inj,
    returned]
  cases packedValue q s.2 with
  | none => simp
  | some w => simp [update_eq_self_iff]

/-- The last argument of the same name has the same value. -/
def Heard (p : ParameterNames) (arguments : List Argument) (s : Nat × String) : Prop :=
  ∀ i v w, p.lastNamed s.2 = some i → valueAt arguments s.1 = .ok v → valueAt arguments i = .ok w →
    v.Same w

theorem heard_of_nodup (hp : (p.names.map Prod.snd).Nodup) {s : Nat × String} (hs : s ∈ p.names) :
    p.Heard arguments s := by
  intro i v w hi hv hw
  obtain ⟨j, hj, hmem⟩ := exists_lastNamed hs
  cases hi.symm.trans hj
  have hs' : (i, s.2) = s := List.inj_on_of_nodup_map hp hmem hs rfl
  rw [← hs', hw] at hv
  cases hv
  exact .refl v

theorem heard_iff {packed : Parameter} (h : p.pack arguments = .ok packed) {s : Nat × String}
    {v : Value} (hs : s ∈ p.names) (hv : valueAt arguments s.1 = .ok v) :
    p.Heard arguments s ↔ ∀ w, packedValue packed s.2 = some w → v.Same w := by
  obtain ⟨i, w, hi, hw, hpacked⟩ := packedValue_of_pack h hs
  constructor
  · intro hheard w' hw'
    cases hpacked.symm.trans hw'
    exact hheard i v w hi hv hw
  · intro hsame j v' w' hj hv' hw'
    cases hi.symm.trans hj
    cases hv.symm.trans hv'
    cases hw.symm.trans hw'
    exact hsame w hpacked

/-- A call that writes nothing leaves the arguments alone just if each parameter's value is also that
of the last parameter of its name. In any case only values are written to, and of these none whose
packed value has stayed the same, unless another parameter of its name has a different one. -/
theorem writeBack_of_pack {m : Method} {usesDeclaredNames : Bool} {arguments : List Argument}
    {packed : Parameter}
    (h : (ofMethod m usesDeclaredNames).pack arguments = .ok packed) :
    let p := ofMethod m usesDeclaredNames
    (p.writeBack packed arguments = arguments ↔ ∀ s ∈ p.names, p.Heard arguments s) ∧
      ∀ q, (p.writeBack q arguments).length = arguments.length ∧
        (∀ i : Nat, (∀ v, arguments[i]? ≠ some (.value v)) →
          (p.writeBack q arguments)[i]? = arguments[i]?) ∧
        ∀ s ∈ p.names, p.Heard arguments s →
          (∀ v w, packedValue packed s.2 = some v → packedValue q s.2 = some w → v.Same w) →
          (p.writeBack q arguments)[s.1]? = arguments[s.1]? := by
  intro p
  have hp : (p.names.map Prod.fst).Nodup := nodup_positions m usesDeclaredNames
  have hvalue := valueAt_of_pack h
  refine ⟨⟨fun heq s hs => ?_, fun hheard => ?_⟩, fun q => ⟨length_writeBack, fun i hi => ?_,
    fun s hs hheard hsame => ?_⟩⟩
  · obtain ⟨v, hv⟩ := hvalue s hs
    rw [heard_iff h hs hv, ← getElem?_writeBack_eq_iff hp hs hv, heq]
  · refine List.ext_getElem? fun i => ?_
    by_cases hi : i ∈ p.names.map Prod.fst
    · obtain ⟨s, hs, rfl⟩ := List.mem_map.1 hi
      obtain ⟨v, hv⟩ := hvalue s hs
      rw [getElem?_writeBack_eq_iff hp hs hv, ← heard_iff h hs hv]
      exact hheard s hs
    · exact getElem?_writeBack_of_notMem hi
  · refine getElem?_writeBack_of_notMem fun hmem => ?_
    obtain ⟨s, hs, rfl⟩ := List.mem_map.1 hmem
    obtain ⟨v, hv⟩ := hvalue s hs
    exact hi v (getElem?_of_valueAt hv)
  · obtain ⟨v, hv⟩ := hvalue s hs
    obtain ⟨i, u, -, -, hu⟩ := packedValue_of_pack h hs
    rw [getElem?_writeBack_eq_iff hp hs hv]
    intro w hw
    exact ((heard_iff h hs hv).1 hheard u hu).trans (hsame u w hu hw)

/-- Moves something from one place to another; the first place has an alias. -/
def moveMethod : Method where
  name := "move"
  returns := .void
  parameters := [⟨"from", some "1", .value .any⟩, ⟨"to", none, .value .any⟩]
  mapKey := none
  flushes := false

def twoPlaces : List Argument := [.value (.int 1), .value (.int 2)]

def twoPlacesNamed : Parameter :=
  .named [("1", .int 1), ("param1", .int 1), ("param2", .int 2), ("to", .int 2)]

theorem two_places_kept :
    (ofMethod moveMethod true).pack twoPlaces = .ok twoPlacesNamed ∧
      (ofMethod moveMethod true).writeBack twoPlacesNamed twoPlaces = twoPlaces :=
  ⟨rfl, (writeBack_of_pack (by rfl)).1.2 fun _ hs => heard_of_nodup (by decide) hs⟩

/-- The second parameter goes by its position, which is the alias of the first: packed under one
name, both places become the second. -/
theorem first_place_lost :
    (ofMethod moveMethod false).pack twoPlaces =
        .ok (.named [("1", .int 2), ("param1", .int 1), ("param2", .int 2)]) ∧
      (ofMethod moveMethod false).writeBack
          (.named [("1", .int 2), ("param1", .int 1), ("param2", .int 2)]) twoPlaces =
        [.value (.int 2), .value (.int 2)] :=
  ⟨rfl, rfl⟩

end SqlMapper.ParameterNames
