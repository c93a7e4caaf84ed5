import Mathlib.Data.List.Lex
import SqlMapper.Proofs.Contract.Hierarchy

namespace SqlMapper

namespace Contract

/-- From `c` the search for what `declaring` declares comes to `a`, taking the parents at these
positions, one after the other. It goes on from any contract but the declaring one, to those parents
that are the declaring contract or extend it. -/
inductive Meets (declaring : String) : Contract → List Nat → Contract → Prop where
  | here (c : Contract) : Meets declaring c [] c
  | parent {c a : Contract} {i : Nat} {e : Extension} {p : List Nat} (hc : c.name ≠ declaring)
      (he : c.parents[i]? = some e) (hx : Extends declaring e.1) (h : Meets declaring e.1 p a) :
      Meets declaring c (i :: p) a

def commandId (c : Contract) (method : String) : String := c.name ++ "." ++ method

/-- At `p` the search comes to a contract that has this command for the method. Positions in their
lexicographic order come depth first and in the order of declaration: there is no command at any
before `p`. -/
structure FirstAt (registry : Registry) (method declaring : String) (c : Contract) (p : List Nat)
    (command : Command) : Prop where
  here : ∃ a, Meets declaring c p a ∧ registry.find? (a.commandId method) = some command
  first : ∀ q b, Meets declaring c q b → q < p → registry.find? (b.commandId method) = none

/-- The search comes to no contract that has a command for the method. -/
def Lacks (registry : Registry) (method declaring : String) (c : Contract) : Prop :=
  ∀ p a, Meets declaring c p a → registry.find? (a.commandId method) = none

def foundThrough (registry : Registry) (method declaring : String) (e : Extension) :
    Option Command :=
  if e.1.isSubtypeOf declaring then e.1.findCommand registry method declaring else none

variable {registry : Registry} {method declaring : String} {c : Contract} {command : Command}

theorem findInherited_eq_findSome? (parents : List Extension) :
    findInherited registry method declaring parents =
      parents.findSome? (foundThrough registry method declaring) := by
  induction parents with
  | nil => rfl
  | cons e parents ih =>
    rw [findInherited, ih, List.findSome?_cons, ← foundThrough]
    cases foundThrough registry method declaring e <;> rfl

theorem findCommand_of_own (h : registry.find? (c.commandId method) = some command) :
    c.findCommand registry method declaring = some command := by
  cases c
  rw [commandId, name] at h
  rw [findCommand, h]

theorem findCommand_of_declaring (h : registry.find? (c.commandId method) = none)
    (hc : c.name = declaring) : c.findCommand registry method declaring = none := by
  cases c
  rw [commandId, name] at h
  rw [findCommand, h]
  exact if_pos hc

theorem findCommand_of_inherited (h : registry.find? (c.commandId method) = none)
    (hc : c.name ≠ declaring) :
    c.findCommand registry method declaring =
      c.parents.findSome? (foundThrough registry method declaring) := by
  cases c
  rw [commandId, name] at h
  rw [findCommand, h, ← findInherited_eq_findSome?]
  exact if_neg hc

theorem Meets.eq {p : List Nat} {a b : Contract} (h : Meets declaring c p a)
    (h' : Meets declaring c p b) : a = b := by
  induction h with
  | here c =>
    cases h'
    rfl
  | parent hc he hx h ih =>
    cases h' with
    | parent _ he' _ h' =>
      cases he.symm.trans he'
      exact ih h'

theorem FirstAt.eq {p q : List Nat} {other : Command}
    (h : FirstAt registry method declaring c p command)
    (h' : FirstAt registry method declaring c q other) : command = other := by
  obtain ⟨a, ha, hcommand⟩ := h.here
  obtain ⟨b, hb, hother⟩ := h'.here
  obtain hlt | rfl | hlt := lt_trichotomy p q
  · cases hcommand.symm.trans (h'.first p a ha hlt)
  · cases ha.eq hb
    exact Option.some.inj (hcommand.symm.trans hother)
  · cases hother.symm.trans (h.first q b hb hlt)

theorem FirstAt.own (h : registry.find? (c.commandId method) = some command) :
    FirstAt registry method declaring c [] command :=
  ⟨⟨c, .here c, h⟩, fun q _ _ hq => absurd hq (List.not_lt_nil q)⟩

/-- What is first through a parent is first, if there is nothing here and nothing through the
parents before. -/
theorem FirstAt.inherited {before after : List Extension} {e : Extension} {p : List Nat}
    (h : registry.find? (c.commandId method) = none) (hc : c.name ≠ declaring)
    (hparents : c.parents = before ++ e :: after) (hx : Extends declaring e.1)
    (hbefore : ∀ d ∈ before, Extends declaring d.1 → Lacks registry method declaring d.1)
    (hp : FirstAt registry method declaring e.1 p command) :
    FirstAt registry method declaring c (before.length :: p) command := by
  obtain ⟨⟨a, ha, hcommand⟩, hfirst⟩ := hp
  have he : c.parents[before.length]? = some e := by simp [hparents]
  refine ⟨⟨a, .parent hc he hx ha, hcommand⟩, fun q b hq hlt => ?_⟩
  cases hq with
  | here => exact h
  | @parent _ _ j d q _ hd hdx hb =>
    obtain hj | ⟨rfl, hqp⟩ := List.cons_lt_cons_iff.1 hlt
    · rw [hparents, List.getElem?_append_left hj] at hd
      exact hbefore d (List.mem_of_getElem? hd) hdx q b hb
    · cases he.symm.trans hd
      exact hfirst q b hb hqp

theorem Lacks.of_declaring (h : registry.find? (c.commandId method) = none)
    (hc : c.name = declaring) : Lacks registry method declaring c := by
  intro p a hp
  cases hp with
  | here => exact h
  | parent hne => exact absurd hc hne

theorem Lacks.of_parents (h : registry.find? (c.commandId method) = none)
    (hparents : ∀ e ∈ c.parents, Extends declaring e.1 → Lacks registry method declaring e.1) :
    Lacks registry method declaring c := by
  intro p a hp
  cases hp with
  | here => exact h
  | parent _ he hx hp => exact hparents _ (List.mem_of_getElem? he) hx _ _ hp

theorem findCommand_cases (registry : Registry) (method declaring : String) (c : Contract) :
    (∃ p command, FirstAt registry method declaring c p command ∧
      c.findCommand registry method declaring = some command) ∨
    Lacks registry method declaring c ∧ c.findCommand registry method declaring = none := by
  induction c using inheritance with
  | extend c ih =>
    cases hown : registry.find? (c.commandId method) with
    | some command => exact .inl ⟨[], command, .own hown, findCommand_of_own hown⟩
    | none =>
      by_cases hc : c.name = declaring
      · exact .inr ⟨.of_declaring hown hc, findCommand_of_declaring hown hc⟩
      · rw [findCommand_of_inherited hown hc]
        have hlacks : ∀ e ∈ c.parents, foundThrough registry method declaring e = none →
            Extends declaring e.1 → Lacks registry method declaring e.1 := by
          intro e he hnone hx
          rw [foundThrough, if_pos (isSubtypeOf_iff.2 hx)] at hnone
          obtain ⟨_, command, -, hsome⟩ | ⟨h, -⟩ := ih e he
          · cases hnone.symm.trans hsome
          · exact h
        cases hfound : c.parents.findSome? (foundThrough registry method declaring) with
        | none =>
          rw [List.findSome?_eq_none_iff] at hfound
          exact .inr ⟨.of_parents hown fun e he => hlacks e he (hfound e he), rfl⟩
        | some command =>
          obtain ⟨before, e, after, hparents, he, hbefore⟩ := List.findSome?_eq_some_iff.1 hfound
          have hmem : ∀ d ∈ before, d ∈ c.parents := fun d hd => by simp [hparents, hd]
          unfold foundThrough at he
          split at he
          · next hx =>
            obtain ⟨p, _, hp, hsome⟩ | ⟨-, hnone⟩ := ih e (by simp [hparents])
            · cases he.symm.trans hsome
              have hfirst := FirstAt.inherited hown hc hparents (isSubtypeOf_iff.1 hx)
                (fun d hd => hlacks d (hmem d hd) (hbefore d hd)) hp
              exact .inl ⟨_, command, hfirst, rfl⟩
            · cases he.symm.trans hnone
          · cases he

def twoWays : Contract :=
  let base := mk "Base" [] [] []
  mk "Both" [] [(mk "Left" [] [(base, [])] [], []), (mk "Right" [] [(base, [])] [], [])] []

def finder (id : String) : Command := .ofSource id .select (.template ⟨"SELECT 1", []⟩)

-- The base comes up through the left parent, before the right parent does.
example :
    twoWays.findCommand ((Registry.empty.insert (finder "Base.find")).insert (finder "Right.find"))
      "find" "Base" = some (finder "Base.find") := rfl

-- With nothing there, the search turns back to the right parent.
example : twoWays.findCommand (.insert .empty (finder "Right.find")) "find" "Base" =
    some (finder "Right.find") := rfl

end Contract

namespace CommandRef

open Contract

/-- A method called through `c` runs the first command on the way to the contract that declares it,
also if that one is of no kind that can be run. If there is none on the way, a method that only
flushes needs none. -/
theorem resolve_first (registry : Registry) (c declaring : Contract) (m : Method) :
    ((∃ p command, FirstAt registry m.name declaring.name c p command) ∨
      Lacks registry m.name declaring.name c) ∧
    (∀ p command, FirstAt registry m.name declaring.name c p command →
      resolve registry c declaring m =
        if command.kind = .unknown then .error (.unknownKind command.id)
        else .ok ⟨some command.id, command.kind⟩) ∧
    (Lacks registry m.name declaring.name c →
      resolve registry c declaring m =
        if m.flushes then .ok ⟨none, .flush⟩ else .error (.commandMissing c.name m.name)) := by
  unfold resolve
  obtain ⟨p, command, hp, hfound⟩ | ⟨hlacks, hfound⟩ :=
    findCommand_cases registry m.name declaring.name c
  · rw [hfound]
    refine ⟨.inl ⟨p, command, hp⟩, fun q other hq => ?_, fun hlacks => ?_⟩
    · rw [hp.eq hq]
    · obtain ⟨a, ha, hcommand⟩ := hp.here
      cases hcommand.symm.trans (hlacks p a ha)
  · rw [hfound]
    refine ⟨.inr hlacks, fun q other hq => ?_, fun _ => rfl⟩
    obtain ⟨a, ha, hcommand⟩ := hq.here
    cases hcommand.symm.trans (hlacks q a ha)

end CommandRef

end SqlMapper
