import SqlMapper.Proofs.Binding.Returning
import SqlMapper.Proofs.Session.Raising

namespace SqlMapper

open Fallible

variable {config : Configuration} {c declaring : Contract} {m : Method} {b : Binder}
  {arguments : List Argument}

theorem CommandRef.kind_of_resolve {registry : Registry} {command : CommandRef}
    (h : resolve registry c declaring m = .ok command) : command.kind ≠ .unknown := by
  unfold resolve at h
  split at h
  · split at h
    · cases h
    · next hkind =>
      cases h
      exact hkind
  · split at h <;> cases h
    exact nofun

namespace ParameterNames

variable {p : ParameterNames} {e : Error}

theorem binding_of_valueAt {i : Nat} (h : valueAt arguments i = .error e) :
    e = .binding (.valueExpected i) := by
  unfold valueAt at h
  split at h <;> cases h
  rfl

theorem binding_of_bindFrom {n : Nat} {rest : List (Nat × String)} {named : NameMap Value}
    (h : bindFrom p arguments n rest named = .error e) : ∃ fault, e = .binding fault := by
  induction rest generalizing n named with
  | nil => cases h
  | cons s rest ih =>
    obtain hv | ⟨v, -, h⟩ := error_of_except_bind_error h
    · exact ⟨_, binding_of_valueAt hv⟩
    · exact ih h

theorem binding_of_pack (h : p.pack arguments = .error e) : ∃ fault, e = .binding fault := by
  unfold pack at h
  split at h
  · cases h
  · obtain hv | ⟨v, -, h⟩ := error_of_except_bind_error h
    · exact ⟨_, binding_of_valueAt hv⟩
    · cases h
  · obtain hm | ⟨named, -, h⟩ := error_of_except_bind_error h
    · exact binding_of_bindFrom hm
    · cases h

end ParameterNames

namespace DeclaredType

variable {type : DeclaredType} {e : Error}

theorem ofRowCount_ok (h : type.holdsRowCount = true) (count : Int) :
    ∃ output, type.ofRowCount count = .ok output := by
  unfold ofRowCount
  split
  · exact ⟨.unit, rfl⟩
  · exact ⟨.bool (0 < count), rfl⟩
  · exact ⟨.int count, rfl⟩
  · exact ⟨.int count, rfl⟩
  · next hvoid hboolean hint hlong =>
    simp only [holdsRowCount, Bool.or_eq_true, beq_iff_eq, Option.any_eq_true] at h
    obtain rfl | ⟨kind, hkind, (rfl | rfl) | rfl⟩ := h
    · exact (hvoid rfl).elim
    · exact absurd hkind hboolean
    · exact absurd hkind hint
    · exact absurd hkind hlong

theorem plain_of_toPrimitive {kind : PrimitiveKind} {v : Value}
    (h : toPrimitive kind v = .error e) : e.Plain := by
  unfold toPrimitive at h
  repeat' split at h
  all_goals cases h
  all_goals trivial

theorem error_of_ofCollected {E : Error → Prop} (h : config.Raises E) {rows : List Value}
    (he : type.ofCollected config.collections rows = .error e) : E e := by
  unfold ofCollected at he
  split at he
  · obtain hmade | ⟨made, -, he⟩ := error_of_except_bind_error he
    · exact h.collections type e hmade
    · cases he
  · cases he

theorem error_of_ofRows {E : Error → Prop} (h : config.Raises E) {rows : List Value}
    (he : type.ofRows config.collections rows = .error e) : E e := by
  unfold ofRows at he
  split at he
  · obtain hitems | ⟨items, -, he⟩ := error_of_except_bind_error he
    · obtain ⟨v, -, hv⟩ := error_of_except_mapM_error hitems
      exact h.plain e (plain_of_toPrimitive hv)
    · cases he
  · cases he
  · split at he
    · cases he
    · exact error_of_ofCollected h he
  · exact error_of_ofCollected h he

theorem plain_of_checkNull {command : String} {output : Output}
    (h : type.checkNull command output = .error e) : e.Plain := by
  unfold checkNull at h
  split at h
  · split at h <;> cases h
    trivial
  · cases h

end DeclaredType

theorem RowMapper.plain_of_byLabel {toCamelCase : Bool} {row : Row} {type : Option String}
    {e : Error} (h : RowMapper.byLabel toCamelCase row type = .error e) : e.Plain := by
  unfold byLabel at h
  split at h
  · next scalar _ =>
    unfold ScalarType.coerce at h
    split at h <;> cases h
    trivial
  · cases h

/-- What makes rows into values, or collections of a type, answers with this fault. -/
def Configuration.Brings (config : Configuration) (fault : BindingFault) : Prop :=
  (∃ row type, config.mapper row type = .error (.binding fault)) ∨
    ∃ type, config.collections.create type = .error (.binding fault)

theorem CollectionFactory.plain_of_naming {named : String → Option CollectionKind}
    {type : DeclaredType} {e : Error} (h : (naming named).create type = .error e) : e.Plain := by
  unfold naming at h
  dsimp only at h
  split at h <;> cases h
  trivial

namespace Binder

variable {E : Error → Prop}

theorem runMutation_fails (h : config.Raises E)
    (hcount : b.signature.returnType.holdsRowCount = true) : Fails E (runMutation config b) := by
  refine (Session.mutate_fails h _).bind fun n => .ending fun e he => ?_
  obtain ⟨output, hok⟩ := DeclaredType.ofRowCount_ok hcount n
  cases hok.symm.trans he

theorem runSelect_fails (h : config.Raises E) (arguments : List Argument) :
    Fails E (runSelect config b arguments) := by
  unfold runSelect
  dsimp only
  split
  · split
    · exact (Session.query_fails h _ _ _).discard.bind fun _ => .pure _
    · exact (Session.selectOne_fails h _).discard.bind fun _ => .pure _
  · exact (Session.query_fails h _ _ _).bind fun rows => .ending fun _ he =>
      DeclaredType.error_of_ofRows h he
  · exact (Session.selectMap_fails h _ _ _).bind fun _ => .pure _
  · exact (Session.selectCursor_fails h _ _).bind fun _ => .pure _
  · exact (Session.selectOne_fails h _).bind fun _ => .pure _
  · exact (Session.selectOne_fails h _).bind fun _ => .pure _

/-- A bound method runs without a binding error of its own: its command is of a kind that can be
run, and a mutation returns a type that holds a row count. -/
theorem run_fails (hb : Binder.of config c declaring m = .ok b) (h : config.Raises E)
    (arguments : List Argument) : Fails E (run config b arguments) := by
  obtain ⟨hcommand, -, hcount, -⟩ := of_ok hb
  have hkind := CommandRef.kind_of_resolve hcommand
  unfold run
  cases hk : b.command.kind with
  | insert | update | delete => exact runMutation_fails h (hcount (by rw [hk]; rfl))
  | select => exact runSelect_fails h arguments
  | flush => exact (Session.flushStatements_fails.mono h.plain).bind fun _ => .pure _
  | unknown => exact absurd hk hkind

theorem call_of_not_accepts (hb : Binder.of config c declaring m = .ok b)
    (h : ¬ m.Accepts arguments) :
    ∃ fault, b.call config arguments = pure (.error (.binding fault), arguments) := by
  unfold call
  rw [accepts_iff hb, not_and_or] at h
  split
  · next fault _ => exact ⟨fault, rfl⟩
  · next hcheck =>
    split
    · next e he =>
      obtain ⟨fault, rfl⟩ := ParameterNames.binding_of_pack he
      exact ⟨fault, rfl⟩
    · next packed hpacked =>
      obtain h | h := h
      · exact absurd hcheck h
      · exact absurd ⟨packed, hpacked⟩ h

theorem error_of_call (hb : Binder.of config c declaring m = .ok b) (h : config.Raises E)
    (hfits : m.Accepts arguments) (u : Scope) :
    ∃ r written v, (b.call config arguments).outcome u = (.ok (r, written), v) ∧
      ∀ e, r = .error e → E e := by
  obtain ⟨hcheck, p, hpack⟩ := (accepts_iff hb).1 hfits
  unfold call
  rw [hcheck]
  dsimp only
  rw [hpack]
  dsimp only
  rw [SessionM.outcome_setParameter_bind, SessionM.outcome_attempt_bind]
  rcases hrun : (run config b arguments).outcome { u with parameter := p } with ⟨e | output, v⟩
  · refine ⟨.error e, arguments, v, rfl, fun e' he => ?_⟩
    cases he
    exact run_fails hb h arguments _ e v hrun
  · dsimp only
    rw [SessionM.outcome_parameter_bind]
    split
    · next e' hnull =>
      refine ⟨.error e', _, v, rfl, fun e he => ?_⟩
      cases he
      exact h.plain _ (DeclaredType.plain_of_checkNull hnull)
    · exact ⟨.ok output, _, v, rfl, nofun⟩

/-- A call whose arguments do not fit the parameters of the method is a binding error, and leaves the
session, the database and the arguments as they were. With fitting arguments such an error has been
brought by the row mapper or the collections. Where these bring none, it tells misfits. -/
theorem call_binding_error_iff (hb : Binder.of config c declaring m = .ok b)
    (hsources : ∀ id command p fault, config.registry.find? id = some command →
      command.source.bind p ≠ .error (.binding fault))
    (arguments : List Argument) (u : Scope) :
    ∃ r written v, (b.call config arguments).outcome u = (.ok (r, written), v) ∧
      (¬ m.Accepts arguments →
        (∃ fault, r = .error (.binding fault)) ∧ written = arguments ∧ v = u) ∧
      (m.Accepts arguments → ∀ fault, r = .error (.binding fault) → config.Brings fault) ∧
      ((∀ fault, ¬ config.Brings fault) →
        ((∃ fault, r = .error (.binding fault)) ↔ ¬ m.Accepts arguments)) := by
  by_cases hfits : m.Accepts arguments
  · have hraises : config.Raises fun e => ∀ fault, e = .binding fault →
        config.Brings fault := by
      refine ⟨?_, fun row type e he fault hfault => .inl ⟨row, type, hfault ▸ he⟩,
        fun type e he fault hfault => .inr ⟨type, hfault ▸ he⟩, ?_⟩
      · rintro e he fault rfl
        exact absurd he id
      · rintro id command p e hc he fault rfl
        exact absurd he (hsources id command p fault hc)
    obtain ⟨r, written, v, hcall, he⟩ := error_of_call hb hraises hfits u
    refine ⟨r, written, v, hcall, absurd hfits, fun _ fault hr => he _ hr fault rfl,
      fun hbrings => ⟨?_, absurd hfits⟩⟩
    rintro ⟨fault, hr⟩
    exact absurd (he _ hr fault rfl) (hbrings fault)
  · obtain ⟨fault, hcall⟩ := call_of_not_accepts hb hfits
    rw [hcall]
    exact ⟨_, arguments, u, rfl, fun _ => ⟨⟨fault, rfl⟩, rfl, rfl⟩, fun h => absurd h hfits,
      fun _ => ⟨fun _ => hfits, fun _ => ⟨fault, rfl⟩⟩⟩

theorem keyedConfig_sources (id : String) (command : Command) (p : Parameter) (fault : BindingFault)
    (hc : (keyedConfig "id").registry.find? id = some command) :
    command.source.bind p ≠ .error (.binding fault) := by
  obtain rfl | hc := Registry.found_of_insert hc
  · exact nofun
  obtain rfl | hc := Registry.found_of_insert hc
  · exact nofun
  cases hc

theorem add_call_fits :
    addMethod.Accepts unkeyed ∧ ¬ addMethod.Accepts [] ∧
      (∃ r written v,
        (addBinder.call (keyedConfig "id") unkeyed).outcome keyedScope = (.ok (r, written), v) ∧
          ∀ fault, r ≠ .error (.binding fault)) ∧
      ∃ fault, (addBinder.call (keyedConfig "id") []).outcome keyedScope =
        (.ok (.error (.binding fault), []), keyedScope) := by
  have hfits : addMethod.Accepts unkeyed :=
    Method.accepts_iff_forall₂.2 (.cons rfl (.cons rfl .nil))
  have hmisfit : ¬ addMethod.Accepts [] := fun h => by cases h.length
  have hb : Binder.of (keyedConfig "id") keyedContract keyedContract addMethod = .ok addBinder :=
    rfl
  have hbrings : ∀ fault, ¬ (keyedConfig "id").Brings fault := by
    rintro fault (⟨row, type, h⟩ | ⟨type, h⟩)
    · exact RowMapper.plain_of_byLabel h
    · exact CollectionFactory.plain_of_naming h
  obtain ⟨r, written, v, hcall, -, -, hiff⟩ :=
    call_binding_error_iff hb keyedConfig_sources unkeyed keyedScope
  obtain ⟨r', written', v', hcall', hrefused, -⟩ :=
    call_binding_error_iff hb keyedConfig_sources [] keyedScope
  obtain ⟨⟨fault, rfl⟩, rfl, rfl⟩ := hrefused hmisfit
  exact ⟨hfits, hmisfit, ⟨r, written, v, hcall, fun fault hr => (hiff hbrings).1 ⟨fault, hr⟩ hfits⟩,
    fault, hcall'⟩

/-- Where a plan builds and the method is bound, a call with fitting arguments is refused for a fault
of the binding, and by then the database has been called. -/
structure RefusesFitting (plan : ConfigurationPlan) (config : Configuration) (c : Contract)
    (m : Method) (b : Binder) (arguments : List Argument) (u : Scope) : Prop where
  built : plan.build = .ok config
  bound : Binder.of config c c m = .ok b
  sources : ∀ id command p fault, config.registry.find? id = some command →
    command.source.bind p ≠ .error (.binding fault)
  fits : m.Accepts arguments
  refused : ∃ fault written v,
    (b.call config arguments).outcome u = (.ok (.error (.binding fault), written), v) ∧
      u.database.log.length < v.database.log.length

def strictPlan : ConfigurationPlan :=
  { ConfigurationPlan.standard with
    commands := [addCommand "id",
      { smallCommand "M.key" .select "SELECT 7" with resultType := some "int" }]
    mapper := some fun _ _ => .error (.binding (.unknownKind "M.key")) }

def strictConfig : Configuration :=
  { keyedConfig "id" with mapper := fun _ _ => .error (.binding (.unknownKind "M.key")) }

def keysMethod : Method where
  name := "keys"
  returns := .collection .set .any
  parameters := []
  mapKey := none
  flushes := false

def keysContract : Contract := .mk "M" [] [] [keysMethod]

def keysBinder : Binder where
  name := "M.keys"
  command := ⟨some "M.keys", .select⟩
  signature :=
    { shape := .many
      returnType := .collection .set .any
      boundsIndex := none
      handlerIndex := none
      arity := 0
      names := ⟨[], false⟩ }

/-- Takes collections for what they are, but makes none. -/
def strictFactory : CollectionFactory :=
  { CollectionFactory.standard with
    create := fun _ => .error (.binding (.unknownKind "M.keys")) }

def bareConfig : Configuration :=
  { smallConfig with
    registry := .insert .empty (smallCommand "M.keys" .select "SELECT 7")
    collections := strictFactory }

def barePlan : ConfigurationPlan :=
  { ConfigurationPlan.standard with
    commands := [smallCommand "M.keys" .select "SELECT 7"]
    collections := some strictFactory }

theorem bareConfig_sources (id : String) (command : Command) (p : Parameter) (fault : BindingFault)
    (hc : bareConfig.registry.find? id = some command) :
    command.source.bind p ≠ .error (.binding fault) := by
  obtain rfl | hc := Registry.found_of_insert hc
  · exact nofun
  cases hc

/-- The fault that a call answers with, and the number of events by then. -/
def refusal :
    Except Error (Except Error Output × List Argument) × Scope → Option (BindingFault × Nat)
  | (.ok (.error (.binding fault), _), v) => some (fault, v.database.log.length)
  | _ => none

theorem exists_of_refusal {r : Except Error (Except Error Output × List Argument) × Scope}
    {fault : BindingFault} {n : Nat} (h : refusal r = some (fault, n)) :
    ∃ written v, r = (.ok (.error (.binding fault), written), v) ∧ v.database.log.length = n := by
  unfold refusal at h
  split at h
  · cases h
    exact ⟨_, _, rfl, rfl⟩
  · cases h

theorem RefusesFitting.of_refusal {plan : ConfigurationPlan} {u : Scope} {fault : BindingFault}
    {n : Nat} (built : plan.build = .ok config) (bound : Binder.of config c c m = .ok b)
    (sources : ∀ id command p fault, config.registry.find? id = some command →
      command.source.bind p ≠ .error (.binding fault))
    (fits : m.Accepts arguments)
    (h : refusal ((b.call config arguments).outcome u) = some (fault, n))
    (hlog : u.database.log.length < n) : RefusesFitting plan config c m b arguments u := by
  obtain ⟨written, v, hcall, rfl⟩ := exists_of_refusal h
  exact ⟨built, bound, sources, fits, fault, written, v, hcall, hlog⟩

/-- Though the arguments fit, a call ends in the fault that the row mapper has with the selected key,
after the insert, or in the fault that the factory has with the set, after the query. -/
theorem fitting_call_refused :
    RefusesFitting strictPlan strictConfig keyedContract addMethod addBinder unkeyed keyedScope ∧
      RefusesFitting barePlan bareConfig keysContract keysMethod keysBinder [] keyedScope := by
  have hmapper : refusal ((addBinder.call strictConfig unkeyed).outcome keyedScope) =
      some (.unknownKind "M.key", 11) := by decide +kernel
  have hfactory : refusal ((keysBinder.call bareConfig []).outcome keyedScope) =
      some (.unknownKind "M.keys", 8) := by decide +kernel
  have hlog : keyedScope.database.log.length = 0 := rfl
  constructor
  · exact .of_refusal rfl rfl keyedConfig_sources
      (Method.accepts_iff_forall₂.2 (.cons rfl (.cons rfl .nil))) hmapper (by omega)
  · exact .of_refusal rfl rfl bareConfig_sources (Method.accepts_iff_forall₂.2 .nil) hfactory
      (by omega)

end Binder

end SqlMapper
