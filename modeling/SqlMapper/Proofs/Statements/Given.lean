import Mathlib.Logic.Function.Basic
import SqlMapper.Proofs.Session.Binding

namespace SqlMapper

open Fallible

structure Given where
  form : Option StatementForm
  timeout : Option Nat
  fetchSize : Option Nat
  values : Nat → Option Value
  outputs : Nat → Bool

namespace Given

def nothing : Given := ⟨none, none, none, fun _ => none, fun _ => false⟩

/-- What a call leaves in force on the statement that it is made on. A new statement starts with
nothing, and a value stays until it is replaced or cleared. -/
def after (g : Given) : Call → Given
  | .prepare _ _ form => { nothing with form := some form }
  | .setTimeout _ seconds => { g with timeout := some seconds }
  | .setFetchSize _ rows => { g with fetchSize := some rows }
  | .bind _ index value => { g with values := Function.update g.values index (some value) }
  | .registerOut _ index => { g with outputs := Function.update g.outputs index true }
  | .clearParameters _ => { g with values := fun _ => none }
  | _ => g

end Given

/-- The statement that a call gives something to or takes something from. -/
def Call.receiver? : Call → Option Statement
  | .prepare _ s _ | .setTimeout s _ | .setFetchSize s _ | .bind s _ _ | .registerOut s _
  | .clearParameters s => some s
  | _ => none

/-- What is in force on the statement after the calls, oldest first. Only calls that went well
count. -/
def Statement.given (s : Statement) (calls : List LogEntry) : Given :=
  (calls.filter fun e => e.outcome = .succeeded ∧ e.call.receiver? = some s).foldl
    (fun g e => g.after e.call) .nothing

section Given

variable {s : Statement} {calls later : List LogEntry} {e : LogEntry}

theorem Statement.given_append (s : Statement) (calls later : List LogEntry) :
    s.given (calls ++ later) =
      (later.filter fun e => e.outcome = .succeeded ∧ e.call.receiver? = some s).foldl
        (fun g e => g.after e.call) (s.given calls) := by
  rw [given, List.filter_append, List.foldl_append]
  rfl

theorem Statement.given_snoc_of_own (ho : e.outcome = .succeeded)
    (hs : e.call.receiver? = some s) : s.given (calls ++ [e]) = (s.given calls).after e.call := by
  simp [given_append, ho, hs]

theorem Statement.given_append_of_other
    (h : ∀ e ∈ later, e.outcome = .succeeded → e.call.receiver? ≠ some s) :
    s.given (calls ++ later) = s.given calls := by
  have hlater : later.filter (fun e => e.outcome = .succeeded ∧ e.call.receiver? = some s) = [] := by
    rw [List.filter_eq_nil_iff]
    intro e he hown
    obtain ⟨ho, hs⟩ := of_decide_eq_true hown
    exact h e he ho hs
  rw [given_append, hlater]
  rfl

theorem LogEntry.receiver?_of_idle (h : e.idle = true) : e.call.receiver? = none := by
  obtain ⟨call, o⟩ := e
  cases call <;> first | rfl | cases h

end Given

/-- The invocations that may run on a statement that one of them has run on. -/
def ExecutorType.Shares : ExecutorType → Invocation → Invocation → Prop
  | .simple, i, j => j = i
  | .reuse, i, j => j.bound.sql = i.bound.sql
  | .batch, i, j => j.command.id = i.command.id ∧ j.bound.sql = i.bound.sql

theorem ExecutorType.Shares.refl (type : ExecutorType) (i : Invocation) : type.Shares i i := by
  cases type
  · rfl
  · rfl
  · exact ⟨rfl, rfl⟩

variable {settings : Settings} {timeout : Option Nat} {S S' : Invocation → Prop} {i : Invocation}
  {p : Parameter} {s : Statement} {g : Given}

structure Given.Stems (settings : Settings) (timeout : Option Nat) (S : Invocation → Prop)
    (g : Given) : Prop where
  form : ∀ form, g.form = some form → ∃ j, S j ∧ j.form = form
  timeout : ∀ seconds, g.timeout = some seconds →
    ∃ j, S j ∧ j.timeout settings timeout = some seconds
  fetchSize : ∀ rows, g.fetchSize = some rows → ∃ j, S j ∧ j.fetchSize settings = some rows
  values : ∀ index value, g.values index = some value →
    ∃ j, S j ∧ index ∈ j.inputs.map Prod.fst
  outputs : ∀ index, g.outputs index = true → ∃ j, S j ∧ index ∈ j.outputs.map Prod.fst

/-- The settings of the invocation are in force. Where it has none, there may be that of another
invocation in `S`. -/
structure Given.Tuned (settings : Settings) (timeout : Option Nat) (S : Invocation → Prop)
    (i : Invocation) (g : Given) : Prop where
  timeout : g.timeout = i.timeout settings timeout ∨ i.timeout settings timeout = none ∧
    ∃ j, S j ∧ g.timeout = j.timeout settings timeout
  fetchSize : g.fetchSize = i.fetchSize settings ∨ i.fetchSize settings = none ∧
    ∃ j, S j ∧ g.fetchSize = j.fetchSize settings

/-- Each input has the value of its property and each output is registered. Other positions have
values or are registered only for invocations in `S`. -/
structure Given.Filled (S : Invocation → Prop) (i : Invocation) (p : Parameter) (g : Given) :
    Prop where
  inputs : ∀ c ∈ i.inputs, ∃ value, p.lookup c.2 = .ok value ∧ g.values c.1 = some value
  values : ∀ index value, g.values index = some value →
    ∃ j, S j ∧ index ∈ j.inputs.map Prod.fst
  registered : ∀ c ∈ i.outputs, g.outputs c.1 = true
  outputs : ∀ index, g.outputs index = true → ∃ j, S j ∧ index ∈ j.outputs.map Prod.fst

namespace Given.Stems

theorem nothing (settings : Settings) (timeout : Option Nat) (S : Invocation → Prop) :
    Given.nothing.Stems settings timeout S :=
  ⟨nofun, nofun, nofun, nofun, nofun⟩

theorem mono (h : g.Stems settings timeout S) (hS : ∀ j, S j → S' j) :
    g.Stems settings timeout S' where
  form form hf := (h.form form hf).imp fun j hj => ⟨hS j hj.1, hj.2⟩
  timeout seconds hs := (h.timeout seconds hs).imp fun j hj => ⟨hS j hj.1, hj.2⟩
  fetchSize rows hr := (h.fetchSize rows hr).imp fun j hj => ⟨hS j hj.1, hj.2⟩
  values index value hv := (h.values index value hv).imp fun j hj => ⟨hS j hj.1, hj.2⟩
  outputs index ho := (h.outputs index ho).imp fun j hj => ⟨hS j hj.1, hj.2⟩

theorem created (hi : S i) :
    Given.Stems settings timeout S { Given.nothing with form := some i.form } := by
  refine ⟨fun form hf => ⟨i, hi, Option.some.inj hf⟩, nofun, nofun, nofun, nofun⟩

theorem gives {call : Call} (h : g.Stems settings timeout S) (hi : S i)
    (hcall : i.Gives settings timeout s call) : (g.after call).Stems settings timeout S := by
  cases hcall with
  | timeout ht =>
    exact ⟨h.form, fun _ hs => ⟨i, hi, by rw [ht, ← hs]; rfl⟩, h.fetchSize, h.values, h.outputs⟩
  | fetchSize hf =>
    exact ⟨h.form, h.timeout, fun _ hr => ⟨i, hi, by rw [hf, ← hr]; rfl⟩, h.values, h.outputs⟩
  | @output c hc =>
    refine ⟨h.form, h.timeout, h.fetchSize, h.values, fun index ho => ?_⟩
    by_cases hindex : index = c.1
    · exact ⟨i, hi, hindex ▸ List.mem_map_of_mem hc⟩
    · refine h.outputs index ?_
      simpa [after, hindex] using ho
  | @input c hc value =>
    refine ⟨h.form, h.timeout, h.fetchSize, fun index v hv => ?_, h.outputs⟩
    by_cases hindex : index = c.1
    · exact ⟨i, hi, hindex ▸ List.mem_map_of_mem hc⟩
    · refine h.values index v ?_
      simpa [after, hindex] using hv

end Given.Stems

theorem Given.Tuned.gives {call : Call} (h : g.Tuned settings timeout S i)
    (hcall : i.Gives settings timeout s call) : (g.after call).Tuned settings timeout S i := by
  cases hcall with
  | timeout ht => exact ⟨.inl ht.symm, h.fetchSize⟩
  | fetchSize hf => exact ⟨h.timeout, .inl hf.symm⟩
  | output | input => exact ⟨h.timeout, h.fetchSize⟩

namespace Invocation

def settingCalls (settings : Settings) (timeout : Option Nat) (i : Invocation) (s : Statement) :
    List LogEntry :=
  (i.timeout settings timeout).toList.map (fun seconds => ⟨.setTimeout s seconds, .succeeded⟩) ++
    (i.fetchSize settings).toList.map fun rows => ⟨.setFetchSize s rows, .succeeded⟩

theorem applySettings_log {db db' : Database}
    (h : (i.applySettings settings timeout s).outcome db = (.ok (), db')) :
    db'.log = db.log ++ i.settingCalls settings timeout s := by
  unfold applySettings at h
  unfold settingCalls
  cases ht : i.timeout settings timeout with
  | none =>
    rw [ht] at h
    cases hf : i.fetchSize settings with
    | none =>
      rw [hf] at h
      cases h
      simp
    | some rows =>
      rw [hf] at h
      rw [Statement.quiet_eq_ok h]
      rfl
  | some seconds =>
    rw [ht] at h
    obtain ⟨_, db₁, hset, h⟩ := ok_of_bind_ok h
    cases hf : i.fetchSize settings with
    | none =>
      rw [hf] at h
      cases h
      rw [Statement.quiet_eq_ok hset]
      rfl
    | some rows =>
      rw [hf] at h
      rw [Statement.quiet_eq_ok h, Statement.quiet_eq_ok hset]
      simp [Database.record]

theorem given_settingCalls (settings : Settings) (timeout : Option Nat) (i : Invocation)
    (s : Statement) (calls : List LogEntry) :
    s.given (calls ++ i.settingCalls settings timeout s) =
      { s.given calls with
        timeout := i.timeout settings timeout <|> (s.given calls).timeout
        fetchSize := i.fetchSize settings <|> (s.given calls).fetchSize } := by
  unfold settingCalls
  cases i.timeout settings timeout <;> cases i.fetchSize settings <;>
    simp [Statement.given_append, Call.receiver?, Given.after]

theorem tuned_of_settings {calls : List LogEntry}
    (h : (s.given calls).Stems settings timeout S) :
    (s.given (calls ++ i.settingCalls settings timeout s)).Tuned settings timeout S i := by
  rw [given_settingCalls]
  constructor
  · cases ht : i.timeout settings timeout with
    | some seconds => exact .inl rfl
    | none =>
      cases hg : (s.given calls).timeout with
      | none => exact .inl rfl
      | some seconds =>
        obtain ⟨j, hj, hjt⟩ := h.timeout seconds hg
        exact .inr ⟨rfl, j, hj, hjt.symm⟩
  · cases hf : i.fetchSize settings with
    | some rows => exact .inl rfl
    | none =>
      cases hg : (s.given calls).fetchSize with
      | none => exact .inl rfl
      | some rows =>
        obtain ⟨j, hj, hjf⟩ := h.fetchSize rows hg
        exact .inr ⟨rfl, j, hj, hjf.symm⟩

end Invocation

section Filling

variable {calls : List LogEntry} {c : Nat × String} {values : List Value}

theorem Statement.registered_append {later : List LogEntry}
    (hlater : ∀ e ∈ later, (∃ index, e.call = .registerOut s index) ∨
      ∃ index value, e.call = .bind s index value)
    {index : Nat} (h : (s.given calls).outputs index = true) :
    (s.given (calls ++ later)).outputs index = true := by
  induction later generalizing calls with
  | nil => rwa [List.append_nil]
  | cons e later ih =>
    rw [List.append_cons]
    apply ih fun e' he' => hlater e' (List.mem_cons_of_mem e he')
    rw [given_append]
    obtain ⟨k, hk⟩ | ⟨k, value, hk⟩ := hlater e List.mem_cons_self <;>
      by_cases ho : e.outcome = .succeeded <;>
      simp [ho, hk, Call.receiver?, Given.after, Function.update_apply, h]

theorem Statement.registered_of_registers (outputs : List (Nat × String)) (hc : c ∈ outputs) :
    (s.given (calls ++ outputs.map fun c => ⟨.registerOut s c.1, .succeeded⟩)).outputs c.1 =
      true := by
  obtain ⟨before, after, rfl⟩ := List.append_of_mem hc
  rw [List.map_append, List.map_cons, ← List.append_assoc, List.append_cons]
  apply registered_append
  · intro e he
    obtain ⟨d, -, rfl⟩ := List.mem_map.mp he
    exact .inl ⟨d.1, rfl⟩
  · rw [given_snoc_of_own rfl rfl]
    simp [Given.after]

theorem Statement.values_append_of_not_mem {inputs : List (Nat × String)} {index : Nat}
    (h : index ∉ inputs.map Prod.fst) :
    (s.given (calls ++ List.zipWith (fun c v => ⟨.bind s c.1 v, .succeeded⟩) inputs values)).values
      index = (s.given calls).values index := by
  induction inputs generalizing calls values with
  | nil => simp
  | cons c inputs ih =>
    cases values with
    | nil => simp
    | cons v values =>
      rw [List.map_cons, List.mem_cons, not_or] at h
      rw [List.zipWith_cons_cons, List.append_cons, ih h.2, given_snoc_of_own rfl rfl]
      simp [Given.after, h.1]

/-- Each position has its value once all are bound, as no position comes twice. -/
theorem Statement.values_of_binds {p : Parameter} {inputs : List (Nat × String)}
    (hvalues : List.Forall₂ (fun c v => p.lookup c.2 = .ok v) inputs values)
    (hnodup : (inputs.map Prod.fst).Nodup) (hc : c ∈ inputs) :
    ∃ value, p.lookup c.2 = .ok value ∧
      (s.given (calls ++
        List.zipWith (fun c v => ⟨.bind s c.1 v, .succeeded⟩) inputs values)).values c.1 =
          some value := by
  induction hvalues generalizing calls with
  | nil => cases hc
  | @cons d v inputs values hd hrest ih =>
    rw [List.map_cons, List.nodup_cons] at hnodup
    rw [List.zipWith_cons_cons, List.append_cons]
    obtain rfl | hc := List.mem_cons.mp hc
    · refine ⟨v, hd, ?_⟩
      rw [values_append_of_not_mem hnodup.1, given_snoc_of_own rfl rfl]
      simp [Given.after]
    · exact ih hnodup.2 hc

theorem BoundSql.nodup_inputs (b : BoundSql) : (b.inputs.map Prod.fst).Nodup :=
  (b.positions_of_mode ParameterMode.isInput).increasing.imp Nat.ne_of_lt

theorem Invocation.nodup_inputs (i : Invocation) : (i.inputs.map Prod.fst).Nodup := by
  unfold inputs
  split
  · exact List.nodup_nil
  · exact i.bound.nodup_inputs

/-- Once its bindings have been made, the statement has the values and outputs of the invocation. -/
theorem Invocation.Bindings.filled {earlier : List LogEntry} (h : i.Bindings p s calls)
    (hstems : (s.given (earlier ++ calls)).Stems settings timeout S) :
    (s.given (earlier ++ calls)).Filled S i p := by
  obtain ⟨values, hvalues, rfl⟩ := h
  refine ⟨fun c hc => ?_, hstems.values, fun c hc => ?_, hstems.outputs⟩
  · rw [← List.append_assoc]
    exact Statement.values_of_binds hvalues i.nodup_inputs hc
  · rw [← List.append_assoc]
    apply Statement.registered_append
    · intro e he
      obtain ⟨n, hn, rfl⟩ := List.mem_iff_getElem.mp he
      rw [List.getElem_zipWith]
      exact .inr ⟨_, _, rfl⟩
    · exact Statement.registered_of_registers i.outputs hc

end Filling

end SqlMapper
