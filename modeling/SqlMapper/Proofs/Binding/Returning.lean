import SqlMapper.Proofs.Binding.Fitting
import SqlMapper.Proofs.Binding.WriteBack
import SqlMapper.Proofs.Session.Assigning
import SqlMapper.Proofs.Session.Operation

namespace SqlMapper

open Fallible

variable {config : Configuration} {arguments written : List Argument} {u v : Scope}
  {output : Output} {b : Binder}

namespace Binder

theorem names_of_of {c declaring : Contract} {m : Method}
    (h : Binder.of config c declaring m = .ok b) :
    b.signature.names = .ofMethod m config.settings.usesDeclaredNames := by
  obtain ⟨-, hs, -⟩ := of_ok h
  obtain ⟨-, -, -, -, -, hnames⟩ := Signature.of_ok hs
  exact hnames

theorem call_ok (h : (b.call config arguments).outcome u = (.ok (.ok output, written), v)) :
    ∃ p, b.signature.names.pack arguments = .ok p ∧
      (run config b arguments).outcome { u with parameter := p } = (.ok output, v) ∧
      b.signature.returnType.checkNull b.command.display output = .ok () ∧
      written = b.signature.names.writeBack v.parameter arguments := by
  unfold call at h
  split at h
  · cases h
  · split at h
    · cases h
    · next p hp =>
      refine ⟨p, hp, ?_⟩
      rw [SessionM.outcome_setParameter_bind, SessionM.outcome_attempt_bind] at h
      rcases hr : (run config b arguments).outcome { u with parameter := p } with ⟨e | a, t⟩ <;>
        rw [hr] at h
      · cases h
      · rw [SessionM.outcome_parameter_bind] at h
        split at h
        · cases h
        · next hnull =>
          cases h
          exact ⟨rfl, hnull, rfl⟩

theorem mutate_of_run (hkind : b.command.kind.isMutation = true)
    (h : (run config b arguments).outcome u = (.ok output, v)) :
    ∃ n, (Session.mutate config b.command.display).outcome u = (.ok n, v) ∧
      b.signature.returnType.ofRowCount n = .ok output := by
  have hrun : (runMutation config b).outcome u = (.ok output, v) := by
    unfold run at h
    cases hk : b.command.kind <;> rw [hk] at h hkind <;> first | exact h | cases hkind
  obtain ⟨n, t, hn, h⟩ := ok_of_bind_ok hrun
  rw [outcome_ending] at h
  obtain ⟨hcount, rfl⟩ := Prod.mk.inj h
  exact ⟨n, hn, hcount⟩

end Binder

theorem Session.mutate_ok_of_named {id : String} {packed : NameMap Value} {n : Int}
    (hu : u.parameter = .named packed) (h : (Session.mutate config id).outcome u = (.ok n, v)) :
    ∃ command, config.registry.find? id = some command ∧
      (SessionM.mutate config command).outcome (u.withDirty true) = (.ok n, v) := by
  cases hc : config.registry.find? id with
  | none =>
    rw [mutate_of_missing hc] at h
    cases h
  | some command =>
    refine ⟨command, rfl, ?_⟩
    rw [mutate, command_bind_of_found hc, SessionM.outcome_changeSession_bind, wrapped,
      SessionM.outcome_parameter_bind] at h
    split at h
    · next items hp => cases hu.symm.trans hp
    · exact h

namespace ParameterNames

variable {p : ParameterNames} {packed updated : NameMap Value} {assigned : List (String × Value)}

theorem update_value (v w : Value) : ∃ r, update w (.value v) = .value r ∧ r.Same w := by
  rw [update]
  split
  · next h => exact ⟨v, rfl, .inr h⟩
  · exact ⟨w, rfl, .refl w⟩

/-- What is held at a path from the name of an argument is returned to the argument. -/
theorem reaches_writeBack (hp : (p.names.map Prod.fst).Nodup) {s : Nat × String} {v x : Value}
    {rest : List String} (hs : s ∈ p.names) (hv : valueAt arguments s.1 = .ok v)
    (hx : (Value.object updated).get? (s.2 :: rest) = some x) :
    ∃ r y, (p.writeBack (.named updated) arguments)[s.1]? = some (.value r) ∧
      r.get? rest = some y ∧ y.Same x := by
  rw [Value.get?_object_cons] at hx
  obtain ⟨w, hw, hx⟩ := Option.bind_eq_some_iff.1 hx
  obtain ⟨r, hr, hsame⟩ := update_value v w
  obtain ⟨y, hy, hyx⟩ := Value.get?_of_same hsame hx
  refine ⟨r, y, ?_, hy, hyx⟩
  have hpacked : packedValue (.named updated) s.2 = some w := hw
  rw [getElem?_writeBack_of_mem hp hs, getElem?_of_valueAt hv, Option.map_some, returned, hpacked,
    Option.elim_some, hr]

theorem writeBack_of_assignAll_of_apart (hp : (p.names.map Prod.fst).Nodup)
    (hnames : (p.names.map Prod.snd).Nodup) (hpack : p.pack arguments = .ok (.named packed))
    (hassigned : (Parameter.named packed).assignAll assigned = .ok (.named updated))
    {s : Nat × String} (hs : s ∈ p.names)
    (hapart : ∀ w ∈ assigned, (segments w.1).head? ≠ some s.2) :
    (p.writeBack (.named updated) arguments)[s.1]? = arguments[s.1]? := by
  obtain ⟨v, hv⟩ := valueAt_of_pack hpack s hs
  have hget : (Value.object updated).get? [s.2] = (Value.object packed).get? [s.2] := by
    refine Parameter.get?_of_assignAll_of_apart hassigned fun w hw => ?_
    have hne := hapart w hw
    rw [segments_eq_splitHead] at hne ⊢
    exact pathsApart_of_head_ne (fun h => hne (congrArg some h)) _ _
  have hget' : NameMap.get? s.2 updated = NameMap.get? s.2 packed := by simpa using hget
  rw [getElem?_writeBack_eq_iff hp hs hv]
  intro w hw
  exact (heard_iff hpack hs hv).1 (heard_of_nodup hnames hs) w (hget'.symm.trans hw)

end ParameterNames

/-- What a mutation assigns at a property that starts with the name of an argument is in the argument
afterwards, unless a later assignment came near: as the argument itself or as its property at the
rest of the path. An argument whose own name starts none of the properties keeps its value, also if
some start with its generic name. -/
theorem Binder.call_returns {c declaring : Contract} {m : Method} {packed : NameMap Value}
    (hb : Binder.of config c declaring m = .ok b) (hkind : b.command.kind.isMutation = true)
    (hpack : b.signature.names.pack arguments = .ok (.named packed))
    (hnames : (b.signature.names.names.map Prod.snd).Nodup)
    (hcall : (b.call config arguments).outcome u = (.ok (.ok output, written), v)) :
    ∃ command n assigned, config.registry.find? b.command.display = some command ∧
      (SessionM.mutateAssigning config command).outcome
          (({ u with parameter := .named packed } : Scope).withDirty true) =
        (.ok (n, assigned), v) ∧
      (∀ earlier property x later, assigned = earlier ++ (property, x) :: later →
        (∀ w ∈ later, PathsApart (segments w.1) (segments property)) →
        ∀ s ∈ b.signature.names.names, ∀ rest, segments property = s.2 :: rest →
          ∃ r y, written[s.1]? = some (.value r) ∧ r.get? rest = some y ∧ y.Same x) ∧
      ∀ s ∈ b.signature.names.names, (∀ w ∈ assigned, (segments w.1).head? ≠ some s.2) →
        written[s.1]? = arguments[s.1]? := by
  obtain ⟨p, hp, hrun, -, rfl⟩ := call_ok hcall
  cases hpack.symm.trans hp
  obtain ⟨n, hmutate, -⟩ := mutate_of_run hkind hrun
  obtain ⟨command, hcommand, hmutate⟩ := Session.mutate_ok_of_named rfl hmutate
  obtain ⟨assigned, hassigning, hassigned⟩ := SessionM.exists_assigned_of_mutate hmutate
  obtain ⟨updated, hupdated⟩ := Parameter.assignAll_named hassigned
  rw [hupdated] at hassigned ⊢
  have hpositions : (b.signature.names.names.map Prod.fst).Nodup := by
    rw [names_of_of hb]
    exact ParameterNames.nodup_positions m _
  refine ⟨command, n, assigned, hcommand, hassigning, ?_, fun s hs hapart =>
    ParameterNames.writeBack_of_assignAll_of_apart hpositions hnames hpack hassigned hs hapart⟩
  rintro earlier property x later rfl hlater s hs rest hproperty
  obtain ⟨w, hw⟩ := ParameterNames.valueAt_of_pack hpack s hs
  refine ParameterNames.reaches_writeBack hpositions hs hw ?_
  rw [← hproperty]
  exact Parameter.get?_of_assignAll hassigned hlater

def addMethod : Method where
  name := "add"
  returns := .primitive .int
  parameters := [⟨"id", none, .value .any⟩, ⟨"name", none, .value .any⟩]
  mapKey := none
  flushes := false

def keyedContract : Contract := .mk "M" [] [] [addMethod]

/-- Adds a name, with a key that is selected afterwards. -/
def addCommand (property : String) : Command :=
  { smallCommand "M.add" .insert "INSERT INTO t VALUES (?)" with
    source := .template ⟨"INSERT INTO t VALUES (?)", [⟨"name", .input⟩]⟩
    keys := .selectKey "M.key" property false }

def keyedConfig (property : String) : Configuration :=
  { smallConfig with
    registry := (Registry.empty.insert (addCommand property)).insert
      { smallCommand "M.key" .select "SELECT 7" with resultType := some "int" } }

def addBinder : Binder where
  name := "M.add"
  command := ⟨some "M.add", .insert⟩
  signature :=
    { shape := .scalar
      returnType := .primitive .int
      boundsIndex := none
      handlerIndex := none
      arity := 2
      names := ⟨[(0, "id"), (1, "name")], false⟩ }

def keyedScope : Scope where
  database := .ofScript (((Script.empty.respond "SELECT 7" (.ofRows ["n"] [[.int 7]]))).respond
    "INSERT INTO t VALUES (?)" (.ofCount 1))
  session := .new .simple (.overSource false none) false
  parameter := .absent
  handled := []

def unkeyed : List Argument := [.value .null, .value (.string "ann")]

def unkeyedNamed : NameMap Value :=
  [("id", .null), ("name", .string "ann"), ("param1", .null), ("param2", .string "ann")]

def addAssigned (property : String) : Option (Int × List (String × Value)) :=
  ((SessionM.mutateAssigning (keyedConfig property) (addCommand property)).outcome
    (({ keyedScope with parameter := .named unkeyedNamed } : Scope).withDirty true)).1.toOption

def addCall (property : String) : Except Error (Except Error Output × List Argument) × Scope :=
  (addBinder.call (keyedConfig property) unkeyed).outcome keyedScope

def writtenValues :
    Except Error (Except Error Output × List Argument) × Scope → Option (List (Option Value))
  | (.ok (.ok _, written), _) => some (written.map Argument.value?)
  | _ => none

theorem exists_of_writtenValues {r : Except Error (Except Error Output × List Argument) × Scope}
    {values : List (Option Value)} (h : writtenValues r = some values) :
    ∃ output written v, r = (.ok (.ok output, written), v) := by
  unfold writtenValues at h
  split at h
  · exact ⟨_, _, _, rfl⟩
  · cases h

theorem key_returned :
    addAssigned "id" = some (1, [("id", .int 7)]) ∧ ∃ output written v,
      addCall "id" = (.ok (.ok output, written), v) ∧
        ∃ r y, written[0]? = some (.value r) ∧ r.get? [] = some y ∧ y.Same (.int 7) := by
  have hassigned : addAssigned "id" = some (1, [("id", .int 7)]) := by decide +kernel
  have hwritten : writtenValues (addCall "id") = some [some (.int 7), some (.string "ann")] := by
    decide +kernel
  have hb : Binder.of (keyedConfig "id") keyedContract keyedContract addMethod = .ok addBinder :=
    rfl
  have hpack : addBinder.signature.names.pack unkeyed = .ok (.named unkeyedNamed) := rfl
  have hfound : (keyedConfig "id").registry.find? addBinder.command.display =
      some (addCommand "id") := rfl
  obtain ⟨output, written, v, hcall⟩ := exists_of_writtenValues hwritten
  obtain ⟨command, n, assigned, hcommand, hassigning, hreturns, -⟩ :=
    Binder.call_returns hb rfl hpack (by decide) hcall
  cases hfound.symm.trans hcommand
  have hkey : some (n, assigned) = some (1, [("id", .int 7)]) := by
    rw [← hassigned, addAssigned, hassigning]
    rfl
  cases hkey
  exact ⟨hassigned, output, written, v, hcall,
    hreturns [] "id" (.int 7) [] rfl nofun (0, "id") (by decide) [] (by decide)⟩

/-- Assigned under the generic name of the argument, the key does not reach it. -/
theorem key_kept_under_generic_name :
    addAssigned "param1" = some (1, [("param1", .int 7)]) ∧
      writtenValues (addCall "param1") = some [some .null, some (.string "ann")] := by
  decide +kernel

end SqlMapper
