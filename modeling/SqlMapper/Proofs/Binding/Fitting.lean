import Mathlib.Data.List.Forall2
import SqlMapper.Binding.Binder
import SqlMapper.Proofs.Binding.Packing

namespace SqlMapper

def Argument.value? : Argument → Option Value
  | value v => some v
  | _ => none

def Argument.hasForm : ParameterForm → Argument → Bool
  | .value _, value _ | .bounds, bounds _ | .handler, handler _ => true
  | _, _ => false

/-- As many arguments as parameters, each of the form that its parameter declares. -/
structure Method.Accepts (m : Method) (arguments : List Argument) : Prop where
  length : arguments.length = m.parameters.length
  forms : ∀ (i : Nat) p a, m.parameters[i]? = some p → arguments[i]? = some a →
    a.hasForm p.form = true

theorem Method.accepts_iff_forall₂ {m : Method} {arguments : List Argument} :
    m.Accepts arguments ↔
      List.Forall₂ (fun p a => a.hasForm p.form = true) m.parameters arguments := by
  rw [List.forall₂_iff_get]
  constructor
  · intro h
    refine ⟨h.length.symm, fun i hp ha => ?_⟩
    exact h.forms i _ _ (List.getElem?_eq_getElem hp) (List.getElem?_eq_getElem ha)
  · rintro ⟨hlength, h⟩
    refine ⟨hlength.symm, fun i p a hp ha => ?_⟩
    obtain ⟨hp, rfl⟩ := List.getElem?_eq_some_iff.1 hp
    obtain ⟨ha, rfl⟩ := List.getElem?_eq_some_iff.1 ha
    exact h i _ _

namespace ParameterNames

variable {m : Method} {usesDeclaredNames : Bool} {p : ParameterNames} {arguments : List Argument}

theorem mem_valueParameters_iff {i : Nat} {q : ParameterDecl} :
    (i, q) ∈ valueParameters m ↔ m.parameters[i]? = some q ∧ ∃ type, q.form = .value type := by
  have hform : (q.form != .bounds && q.form != .handler) = true ↔ ∃ type, q.form = .value type := by
    cases q.form <;> simp
  rw [← hform]
  simp [valueParameters, List.mem_zipIdx_iff_getElem?]

theorem mem_positions_iff {i : Nat} :
    i ∈ (ofMethod m usesDeclaredNames).names.map Prod.fst ↔
      ∃ q type, m.parameters[i]? = some q ∧ q.form = .value type := by
  rw [map_fst_names]
  simp [mem_valueParameters_iff]

theorem map_valueAt_zipIdx {parameters : List ParameterDecl} (before : List Argument)
    (h : List.Forall₂ (fun p a => Argument.hasForm p.form a = true) parameters arguments) :
    ((parameters.zipIdx before.length).filter fun (p, _) =>
        p.form != .bounds && p.form != .handler).map (fun s => valueAt (before ++ arguments) s.2) =
      (arguments.filterMap Argument.value?).map .ok := by
  induction h generalizing before with
  | nil => rfl
  | @cons p a parameters arguments hpa _ ih =>
    have hrest := ih (before ++ [a])
    rw [List.length_append, List.length_singleton, List.append_assoc,
      List.singleton_append] at hrest
    cases a with
    | value v =>
      have hat : valueAt (before ++ .value v :: arguments) before.length = .ok v := by
        simp [valueAt]
      cases hp : p.form <;> rw [hp] at hpa <;> cases hpa
      rw [List.zipIdx_cons, List.filter_cons_of_pos (by simp [hp]), List.map_cons, hat, hrest]
      rfl
    | bounds w =>
      cases hp : p.form <;> rw [hp] at hpa <;> cases hpa
      rw [List.zipIdx_cons, List.filter_cons_of_neg (by simp [hp]), hrest,
        List.filterMap_cons_none rfl]
    | handler f =>
      cases hp : p.form <;> rw [hp] at hpa <;> cases hpa
      rw [List.zipIdx_cons, List.filter_cons_of_neg (by simp [hp]), hrest,
        List.filterMap_cons_none rfl]

theorem map_valueAt_names (usesDeclaredNames : Bool) (h : m.Accepts arguments) :
    (ofMethod m usesDeclaredNames).names.map (fun s => valueAt arguments s.1) =
      (arguments.filterMap Argument.value?).map .ok := by
  have hzip := map_valueAt_zipIdx [] (Method.accepts_iff_forall₂.1 h)
  rw [List.length_nil, List.nil_append] at hzip
  rw [← hzip]
  calc (ofMethod m usesDeclaredNames).names.map (fun s => valueAt arguments s.1)
      = ((ofMethod m usesDeclaredNames).names.map Prod.fst).map (valueAt arguments) := by
        rw [List.map_map]
        rfl
    _ = ((valueParameters m).map Prod.fst).map (valueAt arguments) := by rw [map_fst_names]
    _ = _ := by
      rw [valueParameters, List.map_map, List.map_map]
      rfl

theorem exists_valueAt (hp : ofMethod m usesDeclaredNames = p) (h : m.Accepts arguments) {k : Nat}
    {s : Nat × String} (hs : p.names[k]? = some s) :
    ∃ v, (arguments.filterMap Argument.value?)[k]? = some v ∧ valueAt arguments s.1 = .ok v := by
  have hat := congrArg (·[k]?) (map_valueAt_names usesDeclaredNames h)
  simp only [hp, List.getElem?_map, hs, Option.map_some] at hat
  obtain ⟨v, hv, hok⟩ := Option.map_eq_some_iff.1 hat.symm
  exact ⟨v, hv, hok.symm⟩

theorem exists_pack_iff :
    (∃ packed, p.pack arguments = .ok packed) ↔
      ∀ s ∈ p.names, ∃ v, valueAt arguments s.1 = .ok v := by
  constructor
  · rintro ⟨packed, h⟩
    exact valueAt_of_pack h
  · intro h
    unfold pack
    split
    · exact ⟨_, rfl⟩
    · next i name hnames _ =>
      obtain ⟨v, hv⟩ := h (i, name) (by simp [hnames])
      exact ⟨.single v, by rw [hv]; rfl⟩
    · obtain ⟨m, hm⟩ := exists_bindFrom (p := p) h 0 []
      exact ⟨.named m, by rw [hm]; rfl⟩

end ParameterNames

theorem Argument.hasForm_value_iff {a : Argument} {type : DeclaredType} :
    a.hasForm (.value type) = true ↔ ∃ v, a = .value v := by
  cases a <;> simp [hasForm]

theorem Argument.hasForm_bounds_iff {a : Argument} :
    a.hasForm .bounds = true ↔ ∃ w, a = .bounds w := by
  cases a <;> simp [hasForm]

theorem Argument.hasForm_handler_iff {a : Argument} :
    a.hasForm .handler = true ↔ ∃ f, a = .handler f := by
  cases a <;> simp [hasForm]

namespace Signature

variable {config : Configuration} {c declaring : Contract} {m : Method} {s : Signature}

theorem uniqueIndex_ok {form : ParameterForm} {found : Option Nat}
    (h : uniqueIndex m form = .ok found) (i : Nat) :
    found = some i ↔ ∃ p, m.parameters[i]? = some p ∧ p.form = form := by
  have hmem : (∃ p, m.parameters[i]? = some p ∧ p.form = form) ↔
      ∃ p, (p, i) ∈ m.parameters.zipIdx.filter (·.1.form = form) := by
    simp [List.mem_zipIdx_iff_getElem?]
  rw [hmem]
  unfold uniqueIndex at h
  split at h
  · next hnone =>
    cases h
    rw [hnone]
    simp
  · next p j hone =>
    cases h
    rw [hone]
    simp [eq_comm]
  · cases h

theorem of_ok (h : Signature.of config c declaring m = .ok s) :
    s.returnType = c.returnType declaring m ∧
      s.shape = .of config.collections m.mapKey s.returnType ∧
      uniqueIndex m .bounds = .ok s.boundsIndex ∧ uniqueIndex m .handler = .ok s.handlerIndex ∧
      s.arity = m.parameters.length ∧
      s.names = .ofMethod m config.settings.usesDeclaredNames := by
  obtain ⟨boundsIndex, hbounds, h⟩ := ok_of_except_bind_ok h
  obtain ⟨handlerIndex, hhandler, h⟩ := ok_of_except_bind_ok h
  cases h
  exact ⟨rfl, rfl, hbounds, hhandler, rfl, rfl⟩

end Signature

namespace Binder

variable {config : Configuration} {c declaring : Contract} {m : Method} {b : Binder}
  {arguments : List Argument}

theorem of_ok (h : Binder.of config c declaring m = .ok b) :
    CommandRef.resolve config.registry c declaring m = .ok b.command ∧
      Signature.of config c declaring m = .ok b.signature ∧
      (b.command.kind.isMutation = true → b.signature.returnType.holdsRowCount = true) ∧
      checkResultType config.registry b = .ok () ∧ b.name = c.name ++ "." ++ m.name := by
  obtain ⟨command, hcommand, h⟩ := ok_of_except_bind_ok h
  obtain ⟨signature, hsignature, h⟩ := ok_of_except_bind_ok h
  dsimp only at h
  split at h
  · cases h
  · next hcount =>
    obtain ⟨_, hresult, h⟩ := ok_of_except_bind_ok h
    cases h
    exact ⟨ok_of_mapError_ok hcommand, ok_of_mapError_ok hsignature, by simpa using hcount, hresult,
      rfl⟩

theorem checkArguments_ok_iff :
    b.checkArguments arguments = .ok () ↔
      arguments.length = b.signature.arity ∧
      (∀ i, b.signature.boundsIndex = some i → ∃ w, arguments[i]? = some (.bounds w)) ∧
      ∀ i, b.signature.handlerIndex = some i → ∃ f, arguments[i]? = some (.handler f) := by
  unfold checkArguments
  dsimp only
  by_cases hlength : arguments.length = b.signature.arity
  · rw [if_neg (not_not.2 hlength), and_iff_right hlength]
    -- with both places known, each check is decided by the argument that is there
    cases hbounds : b.signature.boundsIndex <;> cases hhandler : b.signature.handlerIndex <;>
      dsimp only <;> (repeat' split) <;>
      simp_all [pure, Except.pure, throw, throwThe, MonadExceptOf.throw, bind, Except.bind]
  · rw [if_pos hlength]
    exact ⟨nofun, fun h => absurd h.1 hlength⟩

/-- The arguments fit the parameters just if they pass the check and the values can be packed. -/
theorem accepts_iff (hb : Binder.of config c declaring m = .ok b) :
    m.Accepts arguments ↔
      b.checkArguments arguments = .ok () ∧
        ∃ packed, b.signature.names.pack arguments = .ok packed := by
  obtain ⟨-, hs, -⟩ := of_ok hb
  obtain ⟨-, -, hbounds, hhandler, harity, hnames⟩ := Signature.of_ok hs
  rw [checkArguments_ok_iff, ParameterNames.exists_pack_iff, harity, hnames]
  constructor
  · intro h
    have hgiven : ∀ (i : Nat) p, m.parameters[i]? = some p →
        ∃ a, arguments[i]? = some a ∧ a.hasForm p.form = true := by
      intro i p hp
      have hi : i < arguments.length := by
        rw [h.length]
        exact (List.getElem?_eq_some_iff.1 hp).1
      exact ⟨_, List.getElem?_eq_getElem hi, h.forms i p _ hp (List.getElem?_eq_getElem hi)⟩
    refine ⟨⟨h.length, fun i hi => ?_, fun i hi => ?_⟩, fun s hs => ?_⟩
    · obtain ⟨p, hp, hform⟩ := (Signature.uniqueIndex_ok hbounds i).1 hi
      obtain ⟨a, ha, hfits⟩ := hgiven i p hp
      rw [hform, Argument.hasForm_bounds_iff] at hfits
      obtain ⟨w, rfl⟩ := hfits
      exact ⟨w, ha⟩
    · obtain ⟨p, hp, hform⟩ := (Signature.uniqueIndex_ok hhandler i).1 hi
      obtain ⟨a, ha, hfits⟩ := hgiven i p hp
      rw [hform, Argument.hasForm_handler_iff] at hfits
      obtain ⟨f, rfl⟩ := hfits
      exact ⟨f, ha⟩
    · obtain ⟨p, type, hp, hform⟩ := ParameterNames.mem_positions_iff.1 (List.mem_map_of_mem hs)
      obtain ⟨a, ha, hfits⟩ := hgiven s.1 p hp
      rw [hform, Argument.hasForm_value_iff] at hfits
      obtain ⟨v, rfl⟩ := hfits
      exact ⟨v, by rw [ParameterNames.valueAt, ha]⟩
  · rintro ⟨⟨hlength, hatBounds, hatHandler⟩, hvalues⟩
    refine ⟨hlength, fun i p a hp ha => ?_⟩
    cases hform : p.form with
    | value type =>
      obtain ⟨s, hs, rfl⟩ :=
        List.mem_map.1 (ParameterNames.mem_positions_iff.2 ⟨p, type, hp, hform⟩)
      obtain ⟨v, hv⟩ := hvalues s hs
      cases ha.symm.trans (ParameterNames.getElem?_of_valueAt hv)
      rfl
    | bounds =>
      obtain ⟨w, hw⟩ := hatBounds i ((Signature.uniqueIndex_ok hbounds i).2 ⟨p, hp, hform⟩)
      cases ha.symm.trans hw
      rfl
    | handler =>
      obtain ⟨f, hf⟩ := hatHandler i ((Signature.uniqueIndex_ok hhandler i).2 ⟨p, hp, hform⟩)
      cases ha.symm.trans hf
      rfl

end Binder

end SqlMapper
