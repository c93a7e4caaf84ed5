import SqlMapper.Proofs.Contract.Hygiene
import SqlMapper.Proofs.Contract.Visibility

namespace SqlMapper.Contract

/-- The path takes one extension after the other, each declared by the contract it has come to, from `c` to
`a`. -/
inductive Ascends : Contract → List Extension → Contract → Prop where
  | here (c : Contract) : Ascends c [] c
  | step {c a : Contract} {e : Extension} {path : List Extension} (he : e ∈ c.parents)
    (h : Ascends e.1 path a) : Ascends c (e :: path) a

/-- In what is extended from here, a name denotes one contract. -/
def Unambiguous (c : Contract) : Prop :=
  ∀ a b, Inherits c a → Inherits c b → a.name = b.name → a = b

structure Visit where
  path : List Extension
  contract : Contract

namespace Visit

def through (e : Extension) (v : Visit) : Visit := ⟨e :: v.path, v.contract⟩

def declarations (v : Visit) : List (Contract × Method) := v.contract.methods.map (v.contract, ·)

end Visit

mutual

/-- The contracts that collecting comes to, depth first and in order. What there are two ways to is come to
twice. -/
def visits : Contract → List Visit
  | mk name typeParams parents methods =>
    ⟨[], mk name typeParams parents methods⟩ :: inheritedVisits parents

def inheritedVisits : List (Contract × List DeclaredType) → List Visit
  | [] => []
  | (parent, arguments) :: rest =>
    parent.visits.map (Visit.through (parent, arguments)) ++ inheritedVisits rest

end

def collected (visits : List Visit) : List (Contract × Method) :=
  visits.foldl (fun seen v => v.contract.addMethods seen) []

/-- Collecting comes to `a` by this path for the first time, after the visits `before`. -/
structure FirstVisit (c a : Contract) (path : List Extension) (before : List Visit) : Prop where
  next : ∃ after, c.visits = before ++ ⟨path, a⟩ :: after
  first : ∀ v ∈ before, v.contract.name ≠ a.name

variable {ancestor : String} {c a : Contract} {m : Method} {path : List Extension} {v : Visit}

theorem inheritedVisits_eq_flatMap (parents : List Extension) :
    inheritedVisits parents = parents.flatMap fun e => e.1.visits.map (Visit.through e) := by
  induction parents with
  | nil => rfl
  | cons e parents ih => rw [inheritedVisits, ih, List.flatMap_cons]

theorem visits_eq (c : Contract) :
    c.visits = ⟨[], c⟩ :: c.parents.flatMap fun e => e.1.visits.map (Visit.through e) := by
  cases c
  rw [visits, inheritedVisits_eq_flatMap]
  rfl

theorem ascends_of_mem_visits (h : v ∈ c.visits) : Ascends c v.path v.contract := by
  induction c using inheritance generalizing v with
  | extend c ih =>
    rw [visits_eq] at h
    obtain rfl | h := List.mem_cons.mp h
    · exact .here c
    · obtain ⟨e, he, h⟩ := List.mem_flatMap.mp h
      obtain ⟨u, hu, rfl⟩ := List.mem_map.mp h
      exact .step he (ih e he hu)

theorem Ascends.inherits (h : Ascends c path a) : Inherits c a := by
  induction h with
  | here c => exact .self c
  | step he _ ih => exact .parent he ih

theorem exists_visit (h : Inherits c a) : ∃ v ∈ c.visits, v.contract = a := by
  induction h with
  | self c => exact ⟨⟨[], c⟩, by rw [visits_eq]; exact List.mem_cons_self, rfl⟩
  | @parent c a e he _ ih =>
    obtain ⟨v, hv, hcontract⟩ := ih
    refine ⟨v.through e, ?_, hcontract⟩
    rw [visits_eq]
    exact List.mem_cons_of_mem _ (List.mem_flatMap.mpr ⟨e, he, List.mem_map_of_mem hv⟩)

mutual

theorem isSome_pathTo : ∀ c : Contract, (c.pathTo ancestor).isSome = c.isSubtypeOf ancestor
  | mk name _ parents _ => by
    rw [pathTo, isSubtypeOf, ← isSome_pathThrough parents]
    by_cases h : name = ancestor <;> simp [h]

theorem isSome_pathThrough : ∀ parents : List (Contract × List DeclaredType),
    (pathThrough ancestor parents).isSome = anySubtypeOf ancestor parents
  | [] => rfl
  | (parent, _) :: rest => by
    rw [pathThrough, anySubtypeOf, ← isSome_pathTo parent, ← isSome_pathThrough rest]
    cases parent.pathTo ancestor <;> rfl

end

mutual

/-- The path is that of the first visit to a contract of the name. -/
theorem pathTo_eq_find? : ∀ c : Contract,
    c.pathTo ancestor = (c.visits.find? (·.contract.name == ancestor)).map Visit.path
  | mk n typeParams parents methods => by
    rw [pathTo, visits, List.find?_cons]
    by_cases h : n = ancestor
    · have hname : ((mk n typeParams parents methods).name == ancestor) = true := beq_iff_eq.mpr h
      rw [if_pos h]
      simp only [hname, Option.map_some]
    · have hname : ((mk n typeParams parents methods).name == ancestor) = false := beq_false_of_ne h
      rw [if_neg h, pathThrough_eq_find? parents]
      simp only [hname]

theorem pathThrough_eq_find? : ∀ parents : List (Contract × List DeclaredType),
    pathThrough ancestor parents =
      ((inheritedVisits parents).find? (·.contract.name == ancestor)).map Visit.path
  | [] => rfl
  | (parent, arguments) :: rest => by
    rw [pathThrough, inheritedVisits, List.find?_append, List.find?_map, pathTo_eq_find? parent,
      pathThrough_eq_find? rest]
    change _ = ((parent.visits.find? (·.contract.name == ancestor)).map _ |>.or _).map Visit.path
    cases parent.visits.find? (·.contract.name == ancestor) <;> rfl

end

theorem ascends_of_pathTo (h : c.pathTo ancestor = some path) :
    ∃ a, Ascends c path a ∧ a.name = ancestor := by
  rw [pathTo_eq_find?] at h
  obtain ⟨v, hv, rfl⟩ := Option.map_eq_some_iff.mp h
  have hname : v.contract.name = ancestor := by simpa using List.find?_some hv
  exact ⟨v.contract, ascends_of_mem_visits (List.mem_of_find?_eq_some hv), hname⟩

theorem declarations_eq_flatMap_visits (c : Contract) :
    c.declarations = c.visits.flatMap Visit.declarations := by
  induction c using inheritance with
  | extend c ih =>
    have hparents : c.parents.flatMap (·.1.declarations) =
        c.parents.flatMap fun e => (e.1.visits.map (Visit.through e)).flatMap Visit.declarations := by
      rw [List.flatMap_congr ih]
      simp only [List.flatMap_map]
      rfl
    rw [declarations_eq, hparents, visits_eq, List.flatMap_cons, List.flatMap_assoc]
    rfl

theorem collected_eq_foldl (visits : List Visit) :
    collected visits = (visits.flatMap Visit.declarations).foldl addDeclaration [] := by
  rw [collected, List.foldl_flatMap]
  exact List.foldl_ext _ _ _ fun seen v _ => addMethods_eq_foldl seen

theorem visibleMethods_eq_collected (c : Contract) : c.visibleMethods = collected c.visits := by
  rw [visibleMethods, collectMethods_eq_foldl, collected_eq_foldl, declarations_eq_flatMap_visits]

theorem mem_collected_iff {visits : List Visit} : (a, m) ∈ collected visits ↔
    (visits.flatMap Visit.declarations).find? (·.2.name == m.name) = some (a, m) := by
  rw [collected_eq_foldl, mem_foldl_addDeclaration_iff]

theorem exists_visit_of_mem_collected {visits : List Visit} (h : (a, m) ∈ collected visits) :
    ∃ v ∈ visits, v.contract = a ∧ m ∈ a.methods := by
  have hmem := List.mem_of_find?_eq_some (mem_collected_iff.mp h)
  obtain ⟨v, hv, hdeclared⟩ := List.mem_flatMap.mp hmem
  obtain ⟨_, hm, heq⟩ := List.mem_map.mp hdeclared
  cases heq
  exact ⟨v, hv, rfl, hm⟩

theorem collected_at_visit {before after : List Visit} {v : Visit} (hm : m ∈ v.contract.methods)
    (h : (v.contract, m) ∈ collected (before ++ v :: after)) :
    (v.contract, m) ∈ collected (before ++ [v]) := by
  rw [mem_collected_iff] at h ⊢
  have hmem : (v.contract, m) ∈ (before ++ [v]).flatMap Visit.declarations :=
    List.mem_flatMap.mpr ⟨v, by simp, List.mem_map_of_mem hm⟩
  have hsome : (((before ++ [v]).flatMap Visit.declarations).find? (·.2.name == m.name)).isSome = true :=
    List.find?_isSome.mpr ⟨_, hmem, beq_self_eq_true m.name⟩
  rwa [List.append_cons, List.flatMap_append, List.find?_append, Option.or_of_isSome hsome] at h

theorem exists_firstVisit (hc : c.Unambiguous) (ha : Inherits c a) :
    ∃ path before, c.pathTo a.name = some path ∧ FirstVisit c a path before := by
  obtain ⟨u, hu, hcontract⟩ := exists_visit ha
  have hsome : (c.visits.find? (·.contract.name == a.name)).isSome = true :=
    List.find?_isSome.mpr ⟨u, hu, by rw [hcontract, beq_self_eq_true]⟩
  obtain ⟨v, hv⟩ := Option.isSome_iff_exists.mp hsome
  obtain ⟨hname, before, after, hvisits, hbefore⟩ := List.find?_eq_some_iff_append.mp hv
  have hmem : v ∈ c.visits := List.mem_of_find?_eq_some hv
  have hva : v.contract = a := hc _ _ (ascends_of_mem_visits hmem).inherits ha (beq_iff_eq.mp hname)
  subst hva
  refine ⟨v.path, before, ?_, ⟨after, hvisits⟩, fun d hd => ?_⟩
  · rw [pathTo_eq_find?, hv, Option.map_some]
  · simpa using hbefore d hd

/-- The walks along a hierarchy in which a name denotes one contract agree. There is a path exactly to what
the contract is a subtype of, and it goes from the contract to its parents and theirs up to one of the name.
Every visible method has been collected on the first visit to the contract that declares it; the path to that
contract is the one of this visit, and so the type arguments that go into the type of the method are those
supplied along it. -/
theorem walks_agree {c : Contract} (hc : c.Unambiguous) :
    (∀ ancestor, (c.pathTo ancestor).isSome = true ↔ c.isSubtypeOf ancestor = true) ∧
    (∀ ancestor path, c.pathTo ancestor = some path → ∃ a, Ascends c path a ∧ a.name = ancestor) ∧
    c.visibleMethods = collected c.visits ∧
    ∀ a m, (a, m) ∈ c.visibleMethods → ∃ path before, FirstVisit c a path before ∧
      (a, m) ∉ collected before ∧ (a, m) ∈ collected (before ++ [⟨path, a⟩]) ∧
      c.pathTo a.name = some path ∧
      c.returnType a m =
        (path.reverse.foldl (fun type e => type.substitute (argumentOf e)) m.returns).eraseParams := by
  refine ⟨fun ancestor => by rw [isSome_pathTo], fun _ _ => ascends_of_pathTo,
    visibleMethods_eq_collected c, fun a m h => ?_⟩
  rw [visibleMethods_eq_collected] at h
  obtain ⟨u, hu, rfl, hm⟩ := exists_visit_of_mem_collected h
  have hinherits : Inherits c u.contract := (ascends_of_mem_visits hu).inherits
  obtain ⟨path, before, hpath, hfirst⟩ := exists_firstVisit hc hinherits
  obtain ⟨after, hvisits⟩ := hfirst.next
  refine ⟨path, before, hfirst, fun hbefore => ?_, ?_, hpath, ?_⟩
  · obtain ⟨d, hd, hcontract, -⟩ := exists_visit_of_mem_collected hbefore
    exact hfirst.first d hd (congrArg name hcontract)
  · rw [hvisits] at h
    exact collected_at_visit hm h
  · rw [returnType, hpath]
    rfl

def userView : Contract := mk "app.Users" [] [(entityRepository, [.named "User"])] []

def orderView : Contract := mk "app.Orders" [] [(entityRepository, [.named "Order"])] []

/-- Extends one generic contract in two ways, with different type arguments. -/
def bothViews : Contract := mk "app.Both" [] [(userView, []), (orderView, [])] []

theorem bothViews_unambiguous : bothViews.Unambiguous := by
  have hmem (a : Contract) (ha : Inherits bothViews a) :
      a ∈ [bothViews, userView, entityRepository, orderView] := by
    obtain ⟨v, hv, rfl⟩ := exists_visit ha
    have hvisits : bothViews.visits.map Visit.contract =
      [bothViews, userView, entityRepository, orderView, entityRepository] := rfl
    have hcontract := List.mem_map_of_mem (f := Visit.contract) hv
    rw [hvisits] at hcontract
    simp only [List.mem_cons, List.not_mem_nil, or_false] at hcontract ⊢
    tauto
  have hnames : ([bothViews, userView, entityRepository, orderView].map name).Nodup := by decide
  exact fun a b ha hb => List.inj_on_of_nodup_map hnames (hmem a ha) (hmem b hb)

/-- The method is collected on the first of the two ways, and has the type argument supplied there. -/
theorem first_view_collected :
    bothViews.Unambiguous ∧ (entityRepository, entityMethod) ∈ bothViews.visibleMethods ∧
    (∃ before, FirstVisit bothViews entityRepository
      [(userView, []), (entityRepository, [.named "User"])] before) ∧
    bothViews.returnType entityRepository entityMethod = .named "User" := by
  have hvisible : (entityRepository, entityMethod) ∈ bothViews.visibleMethods := List.mem_singleton_self _
  obtain ⟨path, before, hfirst, -, -, hpath, htype⟩ :=
    (walks_agree bothViews_unambiguous).2.2.2 _ _ hvisible
  cases hpath
  exact ⟨bothViews_unambiguous, hvisible, ⟨before, hfirst⟩, htype⟩

end SqlMapper.Contract
