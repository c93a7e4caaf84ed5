import SqlMapper.Binding.MapperRegistry
import SqlMapper.Proofs.Contract.Resolution
import SqlMapper.Proofs.Contract.Visibility
import SqlMapper.Proofs.Maintains

namespace SqlMapper

theorem CommandRef.find?_of_resolve {registry : Registry} {c declaring : Contract} {m : Method}
    {command : CommandRef} (h : resolve registry c declaring m = .ok command)
    (hkind : command.kind = .select) : ∃ found, registry.find? command.display = some found := by
  unfold resolve at h
  split at h
  · next found hfound =>
    obtain ⟨p, _, hp, hsome⟩ | ⟨-, hnone⟩ :=
      Contract.findCommand_cases registry m.name declaring.name c
    · cases hfound.symm.trans hsome
      obtain ⟨a, -, hfind⟩ := hp.here
      split at h <;> cases h
      exact ⟨found, by rwa [display, Option.getD_some, Registry.id_of_find? hfind]⟩
    · cases hfound.symm.trans hnone
  · split at h <;> cases h
    cases hkind

namespace Binder

variable {config : Configuration} {c declaring : Contract} {m : Method} {b : Binder} {e : Error}

theorem binding_of_checkResultType_error {registry : Registry}
    (hfind : b.command.kind = .select → ∃ found, registry.find? b.command.display = some found)
    (h : checkResultType registry b = .error e) : ∃ fault, e = .binding fault := by
  unfold checkResultType at h
  split at h
  · next hvoid =>
    obtain ⟨found, hfound⟩ := hfind hvoid.1
    rw [Registry.get_of_find? hfound] at h
    obtain h | ⟨_, h, he⟩ := error_of_except_bind_error h
    · cases h
    · split at he <;> cases he
      exact ⟨_, rfl⟩
  · cases h

theorem binding_of_error (h : Binder.of config c declaring m = .error e) :
    ∃ fault, e = .binding fault := by
  obtain h | ⟨command, hcommand, h⟩ := error_of_except_bind_error h
  · obtain ⟨fault, -, rfl⟩ := error_of_mapError_error h
    exact ⟨fault, rfl⟩
  obtain h | ⟨signature, -, h⟩ := error_of_except_bind_error h
  · obtain ⟨fault, -, rfl⟩ := error_of_mapError_error h
    exact ⟨fault, rfl⟩
  dsimp only at h
  split at h
  · cases h
    exact ⟨_, rfl⟩
  · obtain h | ⟨_, -, h⟩ := error_of_except_bind_error h
    · exact binding_of_checkResultType_error
        (CommandRef.find?_of_resolve (ok_of_mapError_ok hcommand)) h
    · cases h

end Binder

namespace MapperRegistry

open Contract

/-- Registers the contract in place, step by step: the name is checked, the visible methods are bound,
and then the contract is entered. -/
def register (config : Configuration) (c : Contract) : Fallible MapperRegistry Unit := do
  let r ← Fallible.state
  if r.hasContract c.name then throw (.binding (.contractKnown c.name))
  let methods ← Fallible.ending (bindMethods config c c.visibleMethods)
  Fallible.change fun r => ⟨r.contracts.insert c.name ⟨c, methods⟩⟩

structure AgreeOn (r r' : MapperRegistry) (name : String) : Prop where
  hasContract : r'.hasContract name = r.hasContract name
  binder : ∀ method, r'.binder? name method = r.binder? name method
  mapper : r'.mapper name = r.mapper name

def Bindable (config : Configuration) (c : Contract) (methods : List (Contract × Method)) : Prop :=
  ∀ e ∈ methods, ∃ b, Binder.of config c e.1 e.2 = .ok b

variable {config : Configuration} {c : Contract} {r : MapperRegistry}

theorem AgreeOn.refl (r : MapperRegistry) (name : String) : AgreeOn r r name := ⟨rfl, fun _ => rfl, rfl⟩

theorem agreeOn_of_get? {r r' : MapperRegistry} {name : String}
    (h : r'.contracts.get? name = r.contracts.get? name) : AgreeOn r r' name where
  hasContract := by rw [hasContract, NameMap.contains, h]; rfl
  binder method := by rw [binder?, h]; rfl
  mapper := by rw [mapper, h]; rfl

theorem bindMethods_ok_iff {methods : List (Contract × Method)} :
    (∃ binders, bindMethods config c methods = .ok binders) ↔ Bindable config c methods := by
  induction methods with
  | nil => exact ⟨fun _ e he => absurd he List.not_mem_nil, fun _ => ⟨[], rfl⟩⟩
  | cons e methods ih =>
    constructor
    · rintro ⟨binders, h⟩
      obtain ⟨b, hb, h⟩ := ok_of_except_bind_ok h
      obtain ⟨others, hothers, -⟩ := ok_of_except_bind_ok h
      exact List.forall_mem_cons.2 ⟨⟨b, hb⟩, ih.1 ⟨others, hothers⟩⟩
    · intro h
      obtain ⟨⟨b, hb⟩, hmethods⟩ := List.forall_mem_cons.1 h
      obtain ⟨others, hothers⟩ := ih.2 hmethods
      refine ⟨NameMap.insert e.2.name b others, ?_⟩
      rw [bindMethods, hb, hothers]
      rfl

/-- Of methods with different names each has its own binder, and there are no others. -/
theorem get?_of_bindMethods {methods : List (Contract × Method)} {binders : NameMap Binder}
    (hnames : (methods.map (·.2.name)).Nodup) (h : bindMethods config c methods = .ok binders)
    (name : String) (b : Binder) :
    binders.get? name = some b ↔
      ∃ a m, (a, m) ∈ methods ∧ m.name = name ∧ Binder.of config c a m = .ok b := by
  induction methods generalizing binders with
  | nil =>
    cases h
    simp
  | cons e methods ih =>
    obtain ⟨b', hb', h⟩ := ok_of_except_bind_ok h
    obtain ⟨others, hothers, h⟩ := ok_of_except_bind_ok h
    cases h
    obtain ⟨hnew, hrest⟩ := List.nodup_cons.1 hnames
    by_cases hname : name = e.2.name
    · subst hname
      rw [NameMap.get?_insert_self]
      constructor
      · rintro ⟨⟩
        exact ⟨e.1, e.2, List.mem_cons_self, rfl, hb'⟩
      · rintro ⟨a, m, hm, hname, hb⟩
        obtain rfl | hm := List.mem_cons.1 hm
        · cases hb'.symm.trans hb
          rfl
        · exact absurd (List.mem_map.2 ⟨(a, m), hm, hname⟩) hnew
    · rw [NameMap.get?_insert_of_ne hname, ih hrest hothers]
      constructor
      · rintro ⟨a, m, hm, h⟩
        exact ⟨a, m, List.mem_cons_of_mem e hm, h⟩
      · rintro ⟨a, m, hm, hother, hb⟩
        obtain rfl | hm := List.mem_cons.1 hm
        · exact absurd hother.symm hname
        · exact ⟨a, m, hm, hother, hb⟩

theorem addContract_ok {r' : MapperRegistry} (h : r.addContract config c = .ok r') :
    r.hasContract c.name = false ∧ ∃ methods, bindMethods config c c.visibleMethods = .ok methods ∧
      r' = ⟨r.contracts.insert c.name ⟨c, methods⟩⟩ := by
  unfold addContract at h
  split at h
  · cases h
  · next hnew =>
    obtain ⟨methods, hmethods, h⟩ := ok_of_except_bind_ok h
    cases h
    exact ⟨Bool.eq_false_iff.2 hnew, methods, hmethods, rfl⟩

theorem addContract_of_bindMethods {methods : NameMap Binder} (hnew : r.hasContract c.name = false)
    (h : bindMethods config c c.visibleMethods = .ok methods) :
    r.addContract config c = .ok ⟨r.contracts.insert c.name ⟨c, methods⟩⟩ := by
  rw [addContract, hnew, h]
  rfl

theorem register_outcome (config : Configuration) (c : Contract) (r : MapperRegistry) :
    (register config c).outcome r =
      match r.addContract config c with
      | .ok r' => (.ok (), r')
      | .error e => (.error e, r) := by
  unfold register addContract
  rw [Fallible.outcome_bind_of_ok (Fallible.outcome_state r)]
  cases r.hasContract c.name with
  | true => rfl
  | false => cases bindMethods config c c.visibleMethods <;> rfl

theorem addContract_ok_iff : (∃ r', r.addContract config c = .ok r') ↔
    r.hasContract c.name = false ∧ Bindable config c c.visibleMethods := by
  rw [← bindMethods_ok_iff]
  constructor
  · rintro ⟨r', h⟩
    obtain ⟨hnew, methods, hmethods, -⟩ := addContract_ok h
    exact ⟨hnew, methods, hmethods⟩
  · rintro ⟨hnew, methods, hmethods⟩
    exact ⟨_, addContract_of_bindMethods hnew hmethods⟩

theorem binding_of_bindMethods {methods : List (Contract × Method)} {e : Error}
    (h : bindMethods config c methods = .error e) : ∃ fault, e = .binding fault := by
  induction methods with
  | nil => cases h
  | cons m methods ih =>
    obtain h | ⟨b, -, h⟩ := error_of_except_bind_error h
    · exact Binder.binding_of_error h
    · obtain h | ⟨others, -, h⟩ := error_of_except_bind_error h
      · exact ih h
      · cases h

theorem binding_of_addContract {e : Error} (h : r.addContract config c = .error e) :
    ∃ fault, e = .binding fault := by
  unfold addContract at h
  split at h
  · cases h
    exact ⟨_, rfl⟩
  · obtain h | ⟨methods, -, h⟩ := error_of_except_bind_error h
    · exact binding_of_bindMethods h
    · cases h

theorem agreeOn_of_addContract {r' : MapperRegistry} {name : String}
    (h : r.addContract config c = .ok r') (hname : name ≠ c.name) : AgreeOn r r' name := by
  obtain ⟨-, methods, -, rfl⟩ := addContract_ok h
  exact agreeOn_of_get? (NameMap.get?_insert_of_ne hname _ _)

theorem binder?_insert (r : MapperRegistry) (name method : String) (bound : BoundContract) :
    binder? ⟨r.contracts.insert name bound⟩ name method = bound.methods.get? method := by
  rw [binder?, NameMap.get?_insert_self]
  rfl

structure Registered (config : Configuration) (c : Contract) (r : MapperRegistry) : Prop where
  hasContract : r.hasContract c.name = true
  visible : ∀ name, (r.binder? c.name name).isSome = true ↔ name ∈ c.visibleMethods.map (·.2.name)
  binder : ∀ a m, DeclaresFirst c a m →
    ∃ b, Binder.of config c a m = .ok b ∧ r.binder? c.name m.name = some b
  mapper : ∃ bound, r.mapper c.name = .ok bound ∧ bound.contract = c ∧
    ∀ name, bound.methods.get? name = r.binder? c.name name

theorem registered_of_addContract {r' : MapperRegistry} (h : r.addContract config c = .ok r') :
    Registered config c r' := by
  obtain ⟨-, methods, hmethods, rfl⟩ := addContract_ok h
  have hof := get?_of_bindMethods (nodup_visibleMethods c) hmethods
  have hall : Bindable config c c.visibleMethods := bindMethods_ok_iff.1 ⟨methods, hmethods⟩
  constructor
  · rw [hasContract, NameMap.contains, NameMap.get?_insert_self]
    rfl
  · intro name
    rw [binder?_insert, Option.isSome_iff_exists, List.mem_map]
    constructor
    · rintro ⟨b, hb⟩
      obtain ⟨a, m, hm, hname, -⟩ := (hof name b).1 hb
      exact ⟨(a, m), hm, hname⟩
    · rintro ⟨⟨a, m⟩, hm, hname⟩
      obtain ⟨b, hb⟩ := hall _ hm
      exact ⟨b, (hof name b).2 ⟨a, m, hm, hname, hb⟩⟩
  · intro a m hfirst
    have hm := mem_visibleMethods_iff.2 hfirst
    obtain ⟨b, hb⟩ := hall _ hm
    refine ⟨b, hb, ?_⟩
    rw [binder?_insert]
    exact (hof m.name b).2 ⟨a, m, hm, rfl, hb⟩
  · refine ⟨⟨c, methods⟩, ?_, rfl, fun name => (binder?_insert r c.name name _).symm⟩
    rw [mapper, NameMap.get?_insert_self]

theorem contractNames_of_addContract {r' : MapperRegistry} (h : r.addContract config c = .ok r') :
    r'.contractNames.Perm (c.name :: r.contractNames) := by
  obtain ⟨hnew, methods, -, rfl⟩ := addContract_ok h
  have hget : r.contracts.get? c.name = none := by
    rw [hasContract, NameMap.contains] at hnew
    exact Option.isNone_iff_eq_none.1 (Option.isSome_eq_false_iff.1 hnew)
  exact (NameMap.insert_perm hget _).map Prod.fst

/-- Registering a contract is complete, or it changes nothing. Visible on the contract is each name
that is declared on it or above it, once, with the declaration that comes first. The contract is
registered exactly if its name is free and every visible method can be bound. Then there is a binder
for each visible name and for no other, which is that of the first declaration, and every other
contract answers as before. Otherwise every contract does. -/
theorem register_complete (config : Configuration) (r : MapperRegistry) (c : Contract) :
    (c.visibleMethods.map (·.2.name)).Nodup ∧
    (∀ name, name ∈ c.visibleMethods.map (·.2.name) ↔
      ∃ a, Inherits c a ∧ ∃ m ∈ a.methods, m.name = name) ∧
    (∀ a m, (a, m) ∈ c.visibleMethods ↔ DeclaresFirst c a m) ∧
    ((∃ r', r.addContract config c = .ok r') ↔
      r.hasContract c.name = false ∧ Bindable config c c.visibleMethods) ∧
    (∀ r', r.addContract config c = .ok r' →
      (register config c).outcome r = (.ok (), r') ∧ Registered config c r' ∧
      r'.contractNames.Perm (c.name :: r.contractNames) ∧
      ∀ name, name ≠ c.name → AgreeOn r r' name) ∧
    (∀ e, r.addContract config c = .error e → (∃ fault, e = .binding fault) ∧
      ∃ r', (register config c).outcome r = (.error e, r') ∧
        r'.contractNames = r.contractNames ∧ ∀ name, AgreeOn r r' name) := by
  refine ⟨nodup_visibleMethods c, fun _ => mem_names_visibleMethods_iff,
    fun _ _ => mem_visibleMethods_iff, addContract_ok_iff, ?_, ?_⟩
  · intro r' h
    have houtcome : (register config c).outcome r = (.ok (), r') := by rw [register_outcome, h]
    exact ⟨houtcome, registered_of_addContract h, contractNames_of_addContract h,
      fun _ => agreeOn_of_addContract h⟩
  · intro e h
    have houtcome : (register config c).outcome r = (.error e, r) := by rw [register_outcome, h]
    exact ⟨binding_of_addContract h, r, houtcome, rfl, AgreeOn.refl r⟩

end MapperRegistry

end SqlMapper
