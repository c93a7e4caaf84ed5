import Mathlib.Data.List.Nodup
import SqlMapper.Proofs.Contract.Hierarchy

namespace SqlMapper.Contract

/-- `a` is the contract itself or one that it extends at any distance. -/
inductive Inherits : Contract → Contract → Prop where
  | self (c : Contract) : Inherits c c
  | parent {c a : Contract} {e : Extension} (he : e ∈ c.parents) (h : Inherits e.1 a) :
      Inherits c a

mutual

/-- What is declared on the contract and above it, depth first: its own methods and then those that
its parents bring, one parent after the other. What comes along two ways comes twice. -/
def declarations : Contract → List (Contract × Method)
  | mk name typeParams parents methods =>
    methods.map (mk name typeParams parents methods, ·) ++ inheritedDeclarations parents

def inheritedDeclarations : List (Contract × List DeclaredType) → List (Contract × Method)
  | [] => []
  | (parent, _) :: rest => parent.declarations ++ inheritedDeclarations rest

end

/-- `a` declares `m`, and nothing of its name is declared on `c` or above it before that. -/
def DeclaresFirst (c a : Contract) (m : Method) : Prop :=
  ∃ before after, c.declarations = before ++ (a, m) :: after ∧ ∀ e ∈ before, e.2.name ≠ m.name

def addDeclaration (seen : List (Contract × Method)) (e : Contract × Method) :
    List (Contract × Method) :=
  if seen.any (·.2.name == e.2.name) then seen else seen ++ [e]

variable {c a : Contract} {m : Method}

theorem inheritedDeclarations_eq_flatMap (parents : List Extension) :
    inheritedDeclarations parents = parents.flatMap (·.1.declarations) := by
  induction parents with
  | nil => rfl
  | cons e parents ih => rw [inheritedDeclarations, ih, List.flatMap_cons]

theorem declarations_eq (c : Contract) :
    c.declarations = c.methods.map (c, ·) ++ c.parents.flatMap (·.1.declarations) := by
  cases c
  rw [declarations, inheritedDeclarations_eq_flatMap]
  rfl

theorem inherits_iff : Inherits c a ↔ a = c ∨ ∃ e ∈ c.parents, Inherits e.1 a := by
  constructor
  · intro h
    cases h with
    | self => exact .inl rfl
    | parent he h => exact .inr ⟨_, he, h⟩
  · rintro (rfl | ⟨e, he, h⟩)
    · exact .self _
    · exact .parent he h

theorem mem_declarations_iff : (a, m) ∈ c.declarations ↔ Inherits c a ∧ m ∈ a.methods := by
  induction c using inheritance with
  | extend c ih =>
    rw [declarations_eq, List.mem_append, inherits_iff, or_and_right]
    apply or_congr
    · constructor
      · intro h
        obtain ⟨_, hm, he⟩ := List.mem_map.1 h
        cases he
        exact ⟨rfl, hm⟩
      · rintro ⟨rfl, hm⟩
        exact List.mem_map_of_mem hm
    · rw [List.mem_flatMap]
      constructor
      · rintro ⟨e, he, h⟩
        obtain ⟨ha, hm⟩ := (ih e he).1 h
        exact ⟨⟨e, he, ha⟩, hm⟩
      · rintro ⟨⟨e, he, ha⟩, hm⟩
        exact ⟨e, he, (ih e he).2 ⟨ha, hm⟩⟩

theorem addMethods_eq_foldl (seen : List (Contract × Method)) :
    c.addMethods seen = (c.methods.map (c, ·)).foldl addDeclaration seen := by
  rw [List.foldl_map]
  rfl

theorem collectInherited_eq_foldl (parents : List Extension) (seen : List (Contract × Method)) :
    collectInherited seen parents = parents.foldl (fun seen e => e.1.collectMethods seen) seen := by
  induction parents generalizing seen with
  | nil => rfl
  | cons e parents ih => rw [collectInherited, ih, List.foldl_cons]

theorem collectMethods_eq_foldl (seen : List (Contract × Method)) :
    c.collectMethods seen = c.declarations.foldl addDeclaration seen := by
  induction c using inheritance generalizing seen with
  | extend c ih =>
    have hparents : c.collectMethods seen =
        c.parents.foldl (fun seen e => e.1.collectMethods seen) (c.addMethods seen) := by
      cases c
      rw [collectMethods, collectInherited_eq_foldl]
      rfl
    rw [hparents, declarations_eq, List.foldl_append, addMethods_eq_foldl, List.foldl_flatMap]
    exact List.foldl_ext _ _ _ fun seen e he => ih e he seen

theorem find?_addDeclaration (name : String) (seen l : List (Contract × Method))
    (e : Contract × Method) :
    (addDeclaration seen e ++ l).find? (·.2.name == name) =
      (seen ++ e :: l).find? (·.2.name == name) := by
  unfold addDeclaration
  split
  · next hany =>
    rw [List.find?_append, List.find?_append, List.find?_cons]
    split
    · next hname =>
      have hseen : (seen.find? (·.2.name == name)).isSome = true := by
        rw [List.find?_isSome]
        obtain ⟨d, hd, hde⟩ := List.any_eq_true.1 hany
        exact ⟨d, hd, beq_iff_eq.2 ((beq_iff_eq.1 hde).trans (beq_iff_eq.1 hname))⟩
      rw [Option.or_of_isSome hseen, Option.or_of_isSome hseen]
    · rfl
  · rw [List.append_assoc, List.singleton_append]

theorem find?_foldl_addDeclaration (name : String) (l seen : List (Contract × Method)) :
    (l.foldl addDeclaration seen).find? (·.2.name == name) =
      (seen ++ l).find? (·.2.name == name) := by
  induction l generalizing seen with
  | nil => rw [List.foldl_nil, List.append_nil]
  | cons e l ih => rw [List.foldl_cons, ih, find?_addDeclaration]

theorem nodup_foldl_addDeclaration (l : List (Contract × Method))
    {seen : List (Contract × Method)} (h : (seen.map (·.2.name)).Nodup) :
    ((l.foldl addDeclaration seen).map (·.2.name)).Nodup := by
  induction l generalizing seen with
  | nil => exact h
  | cons e l ih =>
    rw [List.foldl_cons]
    apply ih
    unfold addDeclaration
    split
    · exact h
    · next hnew =>
      have hname : e.2.name ∉ seen.map (·.2.name) := by simpa using hnew
      rw [List.map_append, List.map_singleton, ← List.concat_eq_append]
      exact h.concat hname

theorem nodup_visibleMethods (c : Contract) : (c.visibleMethods.map (·.2.name)).Nodup := by
  rw [visibleMethods, collectMethods_eq_foldl]
  exact nodup_foldl_addDeclaration _ .nil

theorem find?_visibleMethods (c : Contract) (name : String) :
    c.visibleMethods.find? (·.2.name == name) = c.declarations.find? (·.2.name == name) := by
  rw [visibleMethods, collectMethods_eq_foldl, find?_foldl_addDeclaration, List.nil_append]

theorem find?_eq_some_of_mem {l : List (Contract × Method)} {e : Contract × Method}
    (hl : (l.map (·.2.name)).Nodup) (he : e ∈ l) :
    l.find? (·.2.name == e.2.name) = some e := by
  cases hfind : l.find? (·.2.name == e.2.name) with
  | none => exact absurd (beq_self_eq_true e.2.name) (List.find?_eq_none.1 hfind e he)
  | some d =>
    have hname : d.2.name = e.2.name := by simpa using List.find?_some hfind
    rw [List.inj_on_of_nodup_map hl (List.mem_of_find?_eq_some hfind) he hname]

theorem declaresFirst_iff :
    DeclaresFirst c a m ↔ c.declarations.find? (·.2.name == m.name) = some (a, m) := by
  rw [List.find?_eq_some_iff_append]
  simp [DeclaresFirst]

theorem mem_foldl_addDeclaration_iff {l : List (Contract × Method)} {e : Contract × Method} :
    e ∈ l.foldl addDeclaration [] ↔ l.find? (·.2.name == e.2.name) = some e := by
  have hfind := find?_foldl_addDeclaration e.2.name l []
  rw [List.nil_append] at hfind
  rw [← hfind]
  exact ⟨find?_eq_some_of_mem (nodup_foldl_addDeclaration l .nil), List.mem_of_find?_eq_some⟩

theorem mem_visibleMethods_iff : (a, m) ∈ c.visibleMethods ↔ DeclaresFirst c a m := by
  rw [declaresFirst_iff, visibleMethods, collectMethods_eq_foldl, mem_foldl_addDeclaration_iff]

theorem mem_names_visibleMethods_iff {name : String} :
    name ∈ c.visibleMethods.map (·.2.name) ↔ ∃ a, Inherits c a ∧ ∃ m ∈ a.methods, m.name = name := by
  have hisSome : name ∈ c.visibleMethods.map (·.2.name) ↔
      (c.declarations.find? (·.2.name == name)).isSome = true := by
    rw [← find?_visibleMethods, List.find?_isSome]
    simp
  rw [hisSome, List.find?_isSome]
  constructor
  · rintro ⟨⟨a, m⟩, hmem, hname⟩
    obtain ⟨ha, hm⟩ := mem_declarations_iff.1 hmem
    exact ⟨a, ha, m, hm, beq_iff_eq.1 hname⟩
  · rintro ⟨a, ha, m, hm, hname⟩
    exact ⟨(a, m), mem_declarations_iff.2 ⟨ha, hm⟩, beq_iff_eq.2 hname⟩

end SqlMapper.Contract
