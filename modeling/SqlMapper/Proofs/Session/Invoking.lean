import SqlMapper.Proofs.Batch.Shift
import SqlMapper.Proofs.Parameter.Property

namespace SqlMapper

open Fallible

variable {config : Configuration}

def Keys.Selects (config : Configuration) (id : String) (p : Parameter) (i : Invocation) : Prop :=
  ∃ command, config.registry.find? id = some command ∧ Invocation.of command p .all = .ok i

inductive Parameter.Written : List String → Parameter → Parameter → Prop where
  | nil (p : Parameter) : Written [] p p
  | cons {property : String} {properties : List String} {value : Value} {p q r : Parameter}
    (head : p.assign property value = .ok q) (tail : Written properties q r) :
    Written (property :: properties) p r

/-- The runs of a mutation that starts from `u`: the key query before it, its own, and the key query
after it, which sees the outputs. -/
inductive SessionM.Mutates (config : Configuration) (command : Command) (u : Scope) :
    Invocation → Parameter → Prop where
  | before {id property : String} {i : Invocation}
    (keys : command.keys = .selectKey id property true)
    (selects : Keys.Selects config id u.parameter i) : Mutates config command u i u.parameter
  | itself {x : Batch.Submission} (submits : submission config command u = .ok x) :
    Mutates config command u x.invocation x.parameter
  | after {x : Batch.Submission} {id property : String} {q : Parameter} {i : Invocation}
    (submits : submission config command u = .ok x)
    (keys : command.keys = .selectKey id property false)
    (outputs : Parameter.Written (x.invocation.outputs.map Prod.snd) x.parameter q)
    (selects : Keys.Selects config id q i) : Mutates config command u i q

inductive QueuedStatement.Selects (config : Configuration) (x : QueuedStatement) :
    Invocation → Parameter → Prop where
  | entry {id property : String} {p : Parameter} {i : Invocation}
    (keys : x.command.keys = .selectKey id property false) (mem : p ∈ x.parameters)
    (selects : Keys.Selects config id p i) : Selects config x i p

inductive Session.Invokes (config : Configuration) (u : Scope) :
    Operation → Invocation → Parameter → Prop where
  | query {op : Operation} {id : String} {bounds : RowBounds} {handler : Option RowHandler}
    {c : Command} {i : Invocation} (asks : op.query? = some (id, bounds, handler))
    (found : config.registry.find? id = some c)
    (invokes : Invocation.of c u.wrapped.parameter bounds = .ok i) :
    Invokes config u op i u.wrapped.parameter
  | cursor {id : String} {bounds : RowBounds} {c : Command} {i : Invocation}
    (found : config.registry.find? id = some c)
    (invokes : Invocation.of c u.wrapped.parameter bounds = .ok i) :
    Invokes config u (.selectCursor id bounds) i u.wrapped.parameter
  | mutation {op : Operation} {id : String} {c : Command} {i : Invocation} {p : Parameter}
    (asks : op.mutation? = some id) (found : config.registry.find? id = some c)
    (mutates : SessionM.Mutates config c (u.withDirty true).wrapped i p) : Invokes config u op i p
  | queued {op : Operation} {queue : List QueuedStatement} {x : QueuedStatement} {i : Invocation}
    {p : Parameter} (sends : op.Sends) (strategy : u.session.strategy = .batch queue)
    (mem : x ∈ queue) (selects : x.Selects config i p) : Invokes config u op i p

theorem Invocation.command_of {command : Command} {p : Parameter} {bounds : RowBounds}
    {i : Invocation} (h : Invocation.of command p bounds = .ok i) : i.command = command := by
  obtain ⟨bound, -, hi⟩ := ok_of_except_bind_ok h
  cases hi
  rfl

def Configuration.Invokes (config : Configuration) (i : Invocation) : Prop :=
  ∃ id command p bounds, config.registry.find? id = some command ∧
    Invocation.of command p bounds = .ok i

theorem Keys.Selects.invokes {id : String} {p : Parameter} {i : Invocation}
    (h : Selects config id p i) : config.Invokes i := by
  obtain ⟨command, hc, hi⟩ := h
  exact ⟨id, command, p, .all, hc, hi⟩

theorem SessionM.of_submission {command : Command} {u : Scope} {x : Batch.Submission}
    (h : submission config command u = .ok x) :
    Invocation.of command x.parameter .all = .ok x.invocation := by
  unfold submission at h
  split at h
  · cases h
  · next t _ =>
    cases hi : Invocation.of command t.parameter .all with
    | error e =>
      rw [hi] at h
      cases h
    | ok i =>
      rw [hi] at h
      cases h
      exact hi

theorem Session.Invokes.invokes {u : Scope} {op : Operation} {i : Invocation} {p : Parameter}
    (h : Session.Invokes config u op i p) : config.Invokes i := by
  cases h with
  | query _ hc hi | cursor hc hi => exact ⟨_, _, _, _, hc, hi⟩
  | queued _ _ _ hx =>
    cases hx with
    | entry _ _ hs => exact hs.invokes
  | mutation _ hc hm =>
    cases hm with
    | before _ hs | after _ _ _ hs => exact hs.invokes
    | itself hx => exact ⟨_, _, _, _, hc, SessionM.of_submission hx⟩

namespace Invocation

theorem takeOutputs_written {i : Invocation} {s : Statement} {u v : Scope}
    (h : (i.takeOutputs s).outcome u = (.ok (), v)) :
    Parameter.Written (i.outputs.map Prod.snd) u.parameter v.parameter := by
  unfold takeOutputs at h
  generalize i.outputs = outputs at h ⊢
  induction outputs generalizing u with
  | nil =>
    cases h
    exact .nil _
  | cons c outputs ih =>
    obtain ⟨_, u₁, hc, hrest⟩ := ok_of_bind_ok h
    obtain ⟨value, u₂, ho, hw⟩ := ok_of_bind_ok hc
    have hassign := Parameter.assign_of_write (SessionM.ok_of_onParameter_ok hw)
    rw [SessionM.parameter_kept ho (SessionM.lift_parameter _ _)] at hassign
    exact .cons hassign (ih hrest)

end Invocation

end SqlMapper
