import SqlMapper.Contract.Basic
import SqlMapper.Proofs.Contract.Types

namespace SqlMapper.Contract

open DeclaredType

structure Step where
  child : Contract
  extension : Extension

/-- The steps of a path from `c`, the one from the declaring contract first. -/
def steps (c : Contract) (path : List Extension) : List Step :=
  (List.zipWith Step.mk (c :: path.map Prod.fst) path).reverse

namespace Step

/-- What a type of the child says to those outside: a name that the child does not declare says
nothing. -/
def closed (s : Step) (t : DeclaredType) : DeclaredType :=
  t.instantiate fun q => if q ∈ s.child.typeParams then param q else any

/-- What stands for a type parameter of the parent in the child. -/
def supplied (s : Step) (p : String) : DeclaredType :=
  ((argumentOf s.extension p).map s.closed).getD any

/-- The names that the step leaves open in `t`: parameters without an argument, and undeclared names
in arguments. -/
def leftOpen (s : Step) (t : DeclaredType) : List String :=
  t.params.flatMap fun p =>
    match argumentOf s.extension p with
    | some a => a.params.filter (· ∉ s.child.typeParams)
    | none => [p]

end Step

/-- A type of the declaring contract as steps hand it on, each with types for the parameters in it;
what is left at the end erases. -/
def handedOn (types : Step → String → Option DeclaredType) (steps : List Step)
    (t : DeclaredType) : DeclaredType :=
  (steps.foldl (fun t s => t.substitute (types s)) t).eraseParams

/-- Steps that close what they leave open. -/
def seen : List Step → DeclaredType → DeclaredType :=
  handedOn fun s p => some (s.supplied p)

/-- Steps that hand on open names as they are. -/
def carried : List Step → DeclaredType → DeclaredType :=
  handedOn fun s => argumentOf s.extension

/-- The names that steps leave open in what has come to them, each with the steps that follow. -/
def openings : List Step → DeclaredType → List (String × List Step)
  | [], _ => []
  | s :: rest, t =>
    (s.leftOpen t).map (·, rest) ++ openings rest (t.instantiate s.supplied)

@[simp] theorem carried_nil (t : DeclaredType) : carried [] t = t.eraseParams := rfl

@[simp] theorem seen_nil (t : DeclaredType) : seen [] t = t.eraseParams := rfl

theorem carried_cons (s : Step) (rest : List Step) (t : DeclaredType) :
    carried (s :: rest) t = carried rest (t.substitute (argumentOf s.extension)) := rfl

theorem seen_cons (s : Step) (rest : List Step) (t : DeclaredType) :
    seen (s :: rest) t = seen rest (t.instantiate s.supplied) := rfl

/-- However many the steps, together they replace each parameter once. -/
theorem handedOn_eq_instantiate (types : Step → String → Option DeclaredType) (steps : List Step)
    (t : DeclaredType) :
    handedOn types steps t = t.instantiate fun p => handedOn types steps (param p) := by
  induction steps generalizing t with
  | nil => rfl
  | cons s rest ih =>
    change handedOn types rest (t.substitute (types s)) = _
    rw [ih, substitute_eq_instantiate, instantiate_instantiate]
    congr 1
    funext p
    exact (ih _).symm

theorem carried_eq_instantiate (steps : List Step) (t : DeclaredType) :
    carried steps t = t.instantiate fun p => carried steps (param p) :=
  handedOn_eq_instantiate _ steps t

theorem seen_eq_instantiate (steps : List Step) (t : DeclaredType) :
    seen steps t = t.instantiate fun p => seen steps (param p) :=
  handedOn_eq_instantiate _ steps t

@[simp] theorem seen_any (steps : List Step) : seen steps any = any := by
  rw [seen_eq_instantiate, instantiate_any]

@[simp] theorem carried_any (steps : List Step) : carried steps any = any := by
  rw [carried_eq_instantiate, instantiate_any]

theorem mem_leftOpen {s : Step} {t : DeclaredType} {q : String} :
    q ∈ s.leftOpen t ↔ ∃ p ∈ t.params, q ∈ s.leftOpen (param p) := by
  simp [Step.leftOpen, params]

/-- An argument on its way: the rest of the steps agree on it just if its undeclared names come to
nothing and they agree on what it says closed. -/
theorem carried_argument_iff (s : Step) (rest : List Step) (a : DeclaredType) :
    carried rest a = seen rest (s.closed a) ↔
      (∀ q ∈ a.params.filter (· ∉ s.child.typeParams), carried rest (param q) = any) ∧
        carried rest (s.closed a) = seen rest (s.closed a) := by
  rw [carried_eq_instantiate rest a, seen_eq_instantiate rest (s.closed a),
    carried_eq_instantiate rest (s.closed a), Step.closed, instantiate_instantiate,
    instantiate_instantiate, instantiate_eq_iff, instantiate_eq_iff]
  simp only [List.mem_filter, decide_eq_true_eq, ← forall_and]
  refine forall_congr' fun q => ?_
  by_cases hq : q ∈ s.child.typeParams <;> simp [hq]

theorem carried_param_iff (s : Step) (rest : List Step) (p : String) :
    carried (s :: rest) (param p) = seen (s :: rest) (param p) ↔
      (∀ q ∈ s.leftOpen (param p), carried rest (param q) = any) ∧
        carried rest (s.supplied p) = seen rest (s.supplied p) := by
  rw [carried_cons, seen_cons, instantiate_param]
  cases ha : argumentOf s.extension p with
  | none => simp [substitute, Step.supplied, Step.leftOpen, params, ha]
  | some a =>
    simpa [substitute, Step.supplied, Step.leftOpen, params, ha] using
      carried_argument_iff s rest a

theorem carried_cons_iff (s : Step) (rest : List Step) (t : DeclaredType) :
    carried (s :: rest) t = seen (s :: rest) t ↔
      (∀ q ∈ s.leftOpen t, carried rest (param q) = any) ∧
        carried rest (t.instantiate s.supplied) = seen rest (t.instantiate s.supplied) := by
  rw [carried_eq_instantiate (s :: rest), seen_eq_instantiate (s :: rest),
    carried_eq_instantiate rest (t.instantiate _), seen_eq_instantiate rest (t.instantiate _),
    instantiate_instantiate, instantiate_instantiate, instantiate_eq_iff, instantiate_eq_iff]
  simp only [carried_param_iff, ← carried_eq_instantiate, ← seen_eq_instantiate]
  constructor
  · intro h
    refine ⟨fun q hq => ?_, fun p hp => (h p hp).2⟩
    obtain ⟨p, hp, hq⟩ := mem_leftOpen.1 hq
    exact (h p hp).1 q hq
  · rintro ⟨hopen, h⟩ p hp
    exact ⟨fun q hq => hopen q (mem_leftOpen.2 ⟨p, hp, hq⟩), h p hp⟩

theorem carried_eq_seen_iff (steps : List Step) (t : DeclaredType) :
    carried steps t = seen steps t ↔
      ∀ o ∈ openings steps t, carried o.2 (param o.1) = any := by
  induction steps generalizing t with
  | nil => simp [openings]
  | cons s rest ih => simp [carried_cons_iff, openings, ih, or_imp, forall_and]

theorem map_extension_steps (c : Contract) (path : List Extension) :
    (c.steps path).map Step.extension = path.reverse := by
  rw [steps, List.map_reverse]
  congr 1
  induction path generalizing c with
  | nil => rfl
  | cons e path ih => exact congrArg (e :: ·) (ih e.1)

theorem returnType_eq_carried (c declaring : Contract) (m : Method) :
    c.returnType declaring m =
      carried (c.steps ((c.pathTo declaring.name).getD [])) m.returns := by
  simp only [returnType, carried, handedOn, ← map_extension_steps c, List.foldl_map]

/-- Seen through any contract, a method of any ancestor returns what the hygienic reading of the
path says, if and only if each name that a step leaves open comes to nothing in the steps that
follow it. -/
theorem returnType_eq_seen_iff (c declaring : Contract) (m : Method) :
    let steps := c.steps ((c.pathTo declaring.name).getD [])
    c.returnType declaring m = seen steps m.returns ↔
      ∀ o ∈ openings steps m.returns, carried o.2 (param o.1) = any := by
  intro steps
  rw [returnType_eq_carried]
  exact carried_eq_seen_iff steps m.returns

theorem carried_param_of_apart {steps : List Step} {p : String}
    (h : ∀ s ∈ steps, argumentOf s.extension p = none) : carried steps (param p) = any := by
  induction steps with
  | nil => rfl
  | cons s rest ih =>
    obtain ⟨hs, hrest⟩ := List.forall_mem_cons.1 h
    rw [carried_cons, substitute, hs]
    exact ih hrest

/-- The return type is hygienic where no name left open is that of a type parameter supplied further
towards the called contract. -/
theorem returnType_eq_seen_of_apart {c declaring : Contract} {m : Method} {path : List Extension}
    (hpath : c.pathTo declaring.name = some path)
    (h : ∀ o ∈ openings (c.steps path) m.returns, ∀ s ∈ o.2, argumentOf s.extension o.1 = none) :
    c.returnType declaring m = seen (c.steps path) m.returns := by
  rw [returnType_eq_carried, hpath]
  exact (carried_eq_seen_iff _ _).2 fun o ho => carried_param_of_apart (h o ho)

def entityMethod : Method where
  name := "find"
  returns := param "E"
  parameters := []
  mapKey := none
  flushes := false

def entityRepository : Contract := mk "app.Base" ["E"] [] [entityMethod]

/-- Extends the repository without saying what for, and has a type parameter of the same name. -/
def rawRepository : Contract := mk "app.Middle" ["E"] [(entityRepository, [])] []

def userRepository : Contract := mk "app.M" [] [(rawRepository, [named "User"])] []

/-- The argument for the parameter of one contract is taken for that of another. -/
theorem open_name_captured :
    userRepository.returnType entityRepository entityMethod = named "User" ∧
      seen (userRepository.steps ((userRepository.pathTo entityRepository.name).getD []))
        entityMethod.returns = any := by
  decide

end SqlMapper.Contract
