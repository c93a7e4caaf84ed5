import SqlMapper.Proofs.Batch.Results
import SqlMapper.Proofs.Parameter.Property
import SqlMapper.Proofs.Session.Invoking

namespace SqlMapper

open Fallible

variable (config : Configuration)

def Invocation.assignOutputs (i : Invocation) (s : Statement) :
    SessionM (List (String × Value)) :=
  i.outputs.mapM fun (index, property) => do
    let value ← s.outParameter index
    SessionM.onParameter (Parameter.write property value)
    return (property, value)

namespace Keys

def assignSelected (id property : String) : SessionM (List (String × Value)) := do
  match ← run config id with
  | [] => throw (.executor (.noKey id))
  | [key] =>
    SessionM.onParameter (Parameter.write property key)
    return [(property, key)]
  | _ => throw (.executor (.severalKeys id))

def assignBefore (command : Command) : SessionM (List (String × Value)) := do
  match command.keys with
  | .selectKey id property true => assignSelected config id property
  | _ => return []

def assignAfter (command : Command) (s : Statement) : SessionM (List (String × Value)) := do
  match command.keys with
  | .generated properties =>
    match ← s.generatedKeys with
    | [] => return []
    | row :: _ =>
      SessionM.onParameter (assignRow command.id properties row)
      return properties.zip row.values
  | .selectKey id property false => assignSelected config id property
  | _ => return []

end Keys

namespace SessionM

def executeAssigning (i : Invocation) (s : Statement) :
    SessionM (Int × List (String × Value)) := do
  i.execute s
  let count := (← s.updateCount).getD 0
  let outputs ← i.assignOutputs s
  let keys ← Keys.assignAfter config i.command s
  return (count, outputs ++ keys)

/-- Runs a mutation as `mutate` does, and answers also what it assigns to the parameter object: a key
selected beforehand, then the outputs of the statement, then the keys of the execution. -/
def mutateAssigning (command : Command) : SessionM (Int × List (String × Value)) := do
  ensureOpen
  clearCache
  let before ← Keys.assignBefore config command
  let i ← invocation command .all
  match (← session).strategy with
  | .simple =>
    let s ← i.freshStatement config.settings
    let (count, assigned) ← (executeAssigning config i s).thenAlways s.closeQuietly
    return (count, before ++ assigned)
  | .reuse statements =>
    let s ← Reuse.statement config.settings statements i
    let (count, assigned) ← executeAssigning config i s
    return (count, before ++ assigned)
  | .batch queue =>
    Batch.enqueue config.settings queue i
    return (Batch.queuedCount, before)

end SessionM

variable {config}

theorem Invocation.takeOutputs_eq (i : Invocation) (s : Statement) :
    i.takeOutputs s = (fun _ => ()) <$> i.assignOutputs s := by
  refine forM_eq_mapM (fun c => ?_) i.outputs
  simp

namespace Keys

theorem select_eq (id property : String) :
    select config id property = (fun _ => ()) <$> assignSelected config id property := by
  rw [select, assignSelected, map_bind]
  refine bind_congr fun keys => ?_
  split <;> simp [map_throw]

theorem before_eq (command : Command) :
    before config command = (fun _ => ()) <$> assignBefore config command := by
  unfold before assignBefore
  rcases command.keys with _ | properties | ⟨id, property, _ | _⟩ <;> simp [select_eq]

theorem after_eq (command : Command) (s : Statement) :
    after config command s = (fun _ => ()) <$> assignAfter config command s := by
  unfold after assignAfter
  rcases command.keys with _ | properties | ⟨id, property, _ | _⟩
  · simp
  · simp only [map_bind]
    refine bind_congr fun rows => ?_
    cases rows <;> simp
  · exact select_eq id property
  · simp

end Keys

namespace SessionM

theorem execute_eq (i : Invocation) (s : Statement) :
    execute config i s = Prod.fst <$> executeAssigning config i s := by
  simp [execute, executeAssigning, Invocation.takeOutputs_eq, Keys.after_eq]

theorem mutate_eq (command : Command) :
    mutate config command = Prod.fst <$> mutateAssigning config command := by
  simp only [mutate, mutateAssigning, Keys.before_eq, map_bind, bind_map_left]
  refine bind_congr fun _ => bind_congr fun _ => bind_congr fun before => bind_congr fun i =>
    bind_congr fun ses => ?_
  cases ses.strategy with
  | simple => simp [execute_eq, ← map_thenAlways]
  | reuse statements => simp [execute_eq]
  | batch queue => simp

end SessionM

section Assigned

variable {i : Invocation} {s : Statement} {command : Command} {u v : Scope}
  {assigned : List (String × Value)} {n : Int}

theorem Parameter.assignAll_cons {property : String} {x : Value} {p q r : Parameter}
    (hq : p.assign property x = .ok q) (hr : q.assignAll assigned = .ok r) :
    p.assignAll ((property, x) :: assigned) = .ok r := by
  rw [assignAll, List.foldlM_cons, hq]
  exact hr

theorem Parameter.assignAll_of_forM_write {p q : Parameter}
    (h : (assigned.forM fun w => write w.1 w.2).outcome p = (.ok (), q)) :
    p.assignAll assigned = .ok q := by
  induction assigned generalizing p with
  | nil =>
    cases h
    rfl
  | cons w assigned ih =>
    obtain ⟨_, r, hw, h⟩ := ok_of_bind_ok h
    exact assignAll_cons (assign_of_write hw) (ih h)

theorem Invocation.assigned_of_assignOutputs
    (h : (i.assignOutputs s).outcome u = (.ok assigned, v)) :
    u.parameter.assignAll assigned = .ok v.parameter := by
  unfold assignOutputs at h
  generalize i.outputs = outputs at h
  induction outputs generalizing u assigned with
  | nil =>
    cases h
    rfl
  | cons c outputs ih =>
    rw [List.mapM_cons] at h
    obtain ⟨w, u₁, hw, h⟩ := ok_of_bind_ok h
    obtain ⟨rest, u₂, hrest, h⟩ := ok_of_bind_ok h
    cases h
    obtain ⟨x, u₃, hx, hw⟩ := ok_of_bind_ok hw
    obtain ⟨_, u₄, hwrite, hw⟩ := ok_of_bind_ok hw
    cases hw
    have hassign := Parameter.assign_of_write (SessionM.ok_of_onParameter_ok hwrite)
    rw [SessionM.parameter_kept hx (SessionM.lift_parameter _ _)] at hassign
    exact Parameter.assignAll_cons hassign (ih hrest)

namespace Keys

theorem assigned_of_assignSelected {id property : String}
    (h : (assignSelected config id property).outcome u = (.ok assigned, v)) :
    u.parameter.assignAll assigned = .ok v.parameter := by
  obtain ⟨keys, u₁, hrun, h⟩ := ok_of_bind_ok h
  split at h
  · cases h
  · next key =>
    obtain ⟨_, u₂, hwrite, h⟩ := ok_of_bind_ok h
    cases h
    have hassign := Parameter.assign_of_write (SessionM.ok_of_onParameter_ok hwrite)
    rw [SessionM.parameter_kept hrun (run_parameter config id _)] at hassign
    exact Parameter.assignAll_cons hassign rfl
  · cases h

theorem assigned_of_assignBefore
    (h : (assignBefore config command).outcome u = (.ok assigned, v)) :
    u.parameter.assignAll assigned = .ok v.parameter := by
  unfold assignBefore at h
  split at h
  · exact assigned_of_assignSelected h
  · cases h
    rfl

theorem assigned_of_assignRow {properties : List String} {row : Row} {p q : Parameter}
    (h : (assignRow command.id properties row).outcome p = (.ok (), q)) :
    p.assignAll (properties.zip row.values) = .ok q := by
  unfold assignRow at h
  split at h
  · cases h
  · exact Parameter.assignAll_of_forM_write h

theorem assigned_of_assignAfter
    (h : (assignAfter config command s).outcome u = (.ok assigned, v)) :
    u.parameter.assignAll assigned = .ok v.parameter := by
  unfold assignAfter at h
  split at h
  · obtain ⟨rows, u₁, hrows, h⟩ := ok_of_bind_ok h
    have hp := SessionM.parameter_kept hrows (SessionM.lift_parameter _ _)
    split at h
    · cases h
      rw [hp]
      rfl
    · next row _ =>
      obtain ⟨_, u₂, hrow, h⟩ := ok_of_bind_ok h
      cases h
      rw [← hp]
      exact assigned_of_assignRow (SessionM.ok_of_onParameter_ok hrow)
  · exact assigned_of_assignSelected h
  · cases h
    rfl

end Keys

namespace SessionM

theorem assigned_of_executeAssigning
    (h : (executeAssigning config i s).outcome u = (.ok (n, assigned), v)) :
    u.parameter.assignAll assigned = .ok v.parameter := by
  obtain ⟨_, u₁, hexecute, h⟩ := ok_of_bind_ok h
  obtain ⟨count, u₂, hcount, h⟩ := ok_of_bind_ok h
  obtain ⟨outputs, u₃, houtputs, h⟩ := ok_of_bind_ok h
  obtain ⟨keys, u₄, hkeys, h⟩ := ok_of_bind_ok h
  cases h
  have hp : u₂.parameter = u.parameter :=
    (parameter_kept hcount (lift_parameter _ _)).trans (parameter_kept hexecute (lift_parameter _ _))
  rw [Parameter.assignAll_append, ← hp, Invocation.assigned_of_assignOutputs houtputs]
  exact Keys.assigned_of_assignAfter hkeys

theorem assigned_of_mutateAssigning
    (h : (mutateAssigning config command).outcome u = (.ok (n, assigned), v)) :
    u.parameter.assignAll assigned = .ok v.parameter := by
  obtain ⟨_, u₁, hopen, h⟩ := ok_of_bind_ok h
  obtain ⟨_, u₂, hclear, h⟩ := ok_of_bind_ok h
  obtain ⟨before, u₃, hbefore, h⟩ := ok_of_bind_ok h
  obtain ⟨i, u₄, hi, h⟩ := ok_of_bind_ok h
  obtain ⟨ses, u₅, hses, h⟩ := ok_of_bind_ok h
  cases hclear
  rw [invocation_outcome] at hi
  obtain ⟨-, rfl⟩ := Prod.mk.inj hi
  cases hses
  have hbefore' : u.parameter.assignAll before = .ok u₃.parameter := by
    have hassigned := Keys.assigned_of_assignBefore hbefore
    rw [← parameter_kept hopen (ensureOpen_parameter _)]
    exact hassigned
  split at h
  · obtain ⟨s, u₄, hs, h⟩ := ok_of_bind_ok h
    obtain ⟨⟨count, rest⟩, u₅, hx, h⟩ := ok_of_bind_ok h
    cases h
    obtain ⟨u₆, hx, hclose⟩ := ok_of_thenAlways_ok hx
    rw [Parameter.assignAll_append, hbefore', parameter_kept hclose (lift_parameter _ _),
      ← parameter_kept hs (i.freshStatement_parameter _ _)]
    exact assigned_of_executeAssigning hx
  · obtain ⟨s, u₄, hs, h⟩ := ok_of_bind_ok h
    obtain ⟨⟨count, rest⟩, u₅, hx, h⟩ := ok_of_bind_ok h
    cases h
    rw [Parameter.assignAll_append, hbefore',
      ← parameter_kept hs (Reuse.statement_parameter _ _ i _)]
    exact assigned_of_executeAssigning hx
  · obtain ⟨_, u₄, hqueue, h⟩ := ok_of_bind_ok h
    cases h
    rw [hbefore', parameter_kept hqueue (Batch.enqueue_parameter _ _ _ i)]

/-- A mutation answers what it assigns, and this is all that it does to the parameter object. -/
theorem exists_assigned_of_mutate {command : Command}
    (h : (mutate config command).outcome u = (.ok n, v)) :
    ∃ assigned, (mutateAssigning config command).outcome u = (.ok (n, assigned), v) ∧
      u.parameter.assignAll assigned = .ok v.parameter := by
  rw [mutate_eq, map_eq_pure_bind, outcome_bind_pure] at h
  rcases hx : (mutateAssigning config command).outcome u with ⟨e | ⟨count, assigned⟩, t⟩ <;>
    rw [hx] at h <;> cases h
  exact ⟨assigned, rfl, assigned_of_mutateAssigning hx⟩

end SessionM

end Assigned

end SqlMapper
