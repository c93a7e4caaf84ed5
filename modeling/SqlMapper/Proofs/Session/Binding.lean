import Mathlib.Data.List.Forall2
import SqlMapper.Proofs.Session.Execution

namespace SqlMapper

open Fallible

/-- The positions of the placeholders with such a mode, in increasing order, and their properties. -/
structure BoundSql.Positions (b : BoundSql) (mode : ParameterMode → Bool)
    (l : List (Nat × String)) : Prop where
  increasing : (l.map Prod.fst).Pairwise (· < ·)
  mem : ∀ n property, (n, property) ∈ l ↔
    ∃ p, 0 < n ∧ b.placeholders[n - 1]? = some p ∧ mode p.mode = true ∧ p.property = property

/-- The calls that register the outputs of an invocation and bind the values that its inputs have in
the parameter object. -/
def Invocation.Bindings (i : Invocation) (p : Parameter) (s : Statement) (calls : List LogEntry) :
    Prop :=
  ∃ values, List.Forall₂ (fun c v => p.lookup c.2 = .ok v) i.inputs values ∧
    calls = i.outputs.map (fun c => ⟨.registerOut s c.1, .succeeded⟩) ++
      List.zipWith (fun c v => ⟨.bind s c.1 v, .succeeded⟩) i.inputs values

namespace BoundSql

theorem positions_of_mode (b : BoundSql) (mode : ParameterMode → Bool) :
    b.Positions mode ((b.numbered.filter (mode ·.2.mode)).map fun e => (e.1, e.2.property)) := by
  constructor
  · have hpositions : b.numbered.map Prod.fst = List.range' 1 b.placeholders.length := by
      rw [numbered, List.map_map]
      exact List.zipIdx_map_snd 1 b.placeholders
    have hsub : List.Sublist (((b.numbered.filter (mode ·.2.mode)).map
        fun e => (e.1, e.2.property)).map Prod.fst) (b.numbered.map Prod.fst) := by
      rw [List.map_map]
      exact List.filter_sublist.map _
    rw [hpositions] at hsub
    exact (List.pairwise_lt_range' (s := 1) (n := b.placeholders.length)).sublist hsub
  · intro n property
    simp only [numbered, List.mem_map, List.mem_filter, Prod.exists, Prod.mk.injEq,
      List.mk_mem_zipIdx_iff_le_and_getElem?_sub]
    constructor
    · rintro ⟨k, p, ⟨⟨p', k', ⟨hk, hp⟩, rfl, rfl⟩, hmode⟩, rfl, rfl⟩
      exact ⟨p', hk, hp, hmode, rfl⟩
    · rintro ⟨p, hn, hp, hmode, rfl⟩
      exact ⟨n, p, ⟨⟨p, n, ⟨hn, hp⟩, rfl, rfl⟩, hmode⟩, rfl, rfl⟩

end BoundSql

theorem Invocation.positions {i : Invocation} (h : i.command.statementKind = .callable) :
    i.bound.Positions ParameterMode.isInput i.inputs ∧
      i.bound.Positions ParameterMode.isOutput i.outputs := by
  have hinputs : i.inputs = i.bound.inputs := by rw [inputs, h]
  have houtputs : i.outputs = i.bound.outputs := by rw [outputs, h]
  rw [hinputs, houtputs]
  exact ⟨i.bound.positions_of_mode _, i.bound.positions_of_mode _⟩

theorem Invocation.Bindings.marks {i : Invocation} {p : Parameter} {s : Statement}
    {calls : List LogEntry} (h : i.Bindings p s calls) : calls.filterMap LogEntry.mark? = [] := by
  obtain ⟨values, -, rfl⟩ := h
  rw [List.filterMap_append, List.append_eq_nil_iff, List.filterMap_map, List.filterMap_eq_nil_iff,
    List.filterMap_eq_nil_iff]
  refine ⟨fun _ _ => rfl, fun e he => ?_⟩
  obtain ⟨n, hn, rfl⟩ := List.mem_iff_getElem.mp he
  rw [List.getElem_zipWith]
  rfl

namespace Statement

variable {s : Statement} {db db' : Database}

theorem quiet_eq_ok {call : Call} {refusal : Option Error}
    (h : quiet call refusal db = (.ok (), db')) : db' = db.record call .succeeded := by
  obtain ⟨-, db₁, hact, rfl⟩ := Database.perform_eq_ok h
  cases hact
  rfl

theorem registerOut_all {outputs : List (Nat × String)}
    (h : (outputs.forM fun c => s.registerOut c.1).outcome db = (.ok (), db')) :
    db'.log = db.log ++ outputs.map fun c => ⟨.registerOut s c.1, .succeeded⟩ := by
  induction outputs generalizing db with
  | nil =>
    cases h
    simp
  | cons c outputs ih =>
    obtain ⟨_, db₁, hc, hrest⟩ := ok_of_bind_ok h
    rw [ih hrest, quiet_eq_ok hc]
    simp [Database.record]

theorem bind_all {inputs : List (Nat × String)} {p : Parameter}
    (h : (inputs.forM fun c => do s.bind c.1 (← ending (p.lookup c.2))).outcome db =
      (.ok (), db')) :
    ∃ values, List.Forall₂ (fun c v => p.lookup c.2 = .ok v) inputs values ∧
      db'.log = db.log ++
        List.zipWith (fun c v => ⟨.bind s c.1 v, .succeeded⟩) inputs values := by
  induction inputs generalizing db with
  | nil =>
    cases h
    exact ⟨[], .nil, by simp⟩
  | cons c inputs ih =>
    obtain ⟨_, db₁, hc, hrest⟩ := ok_of_bind_ok h
    obtain ⟨v, db₂, hv, hb⟩ := ok_of_bind_ok hc
    obtain ⟨hlookup, rfl⟩ := Prod.mk.inj hv
    obtain ⟨values, hvalues, hlog⟩ := ih hrest
    refine ⟨v :: values, .cons hlookup hvalues, ?_⟩
    rw [hlog, quiet_eq_ok hb]
    simp [Database.record]

end Statement

namespace Invocation

variable {i : Invocation} {s : Statement} {p : Parameter} {db db' : Database}

theorem parameterize_log (h : (i.parameterize p s).outcome db = (.ok (), db')) :
    ∃ calls, i.Bindings p s calls ∧ db'.log = db.log ++ calls := by
  obtain ⟨_, db₁, ho, hi⟩ := ok_of_bind_ok h
  obtain ⟨values, hvalues, hlog⟩ := Statement.bind_all hi
  exact ⟨_, ⟨values, hvalues, rfl⟩, by rw [hlog, Statement.registerOut_all ho, List.append_assoc]⟩

theorem freshStatement_log {settings : Settings} {u v : Scope}
    (h : (i.freshStatement settings).outcome u = (.ok s, v)) :
    ∃ earlier calls, v.database.log = u.database.log ++ earlier ++ calls ∧
      earlier.filterMap LogEntry.mark? = [] ∧ i.Bindings u.parameter s calls := by
  obtain ⟨ses, u₁, hses, h⟩ := ok_of_bind_ok h
  cases hses
  obtain ⟨c, u₂, hc, h⟩ := ok_of_bind_ok h
  obtain ⟨s', u₃, hprepare, h⟩ := ok_of_bind_ok h
  obtain ⟨p, u₄, h₄, h⟩ := ok_of_bind_ok h
  cases h₄
  obtain ⟨_, u₅, hbind, h⟩ := ok_of_bind_ok h
  cases h
  obtain ⟨earlier, hearlier, hmarks⟩ :=
    (kept hc SessionM.connection_apart (.self _)).database.log
  obtain ⟨later, hlater, hmarks'⟩ := (kept (SessionM.ok_of_lift_ok hprepare).1
    (i.prepare_apart settings _ c) (.self _)).log
  obtain ⟨calls, hcalls, hlog⟩ :=
    parameterize_log (ok_of_orUndo_ok (SessionM.ok_of_lift_ok hbind).1)
  have hp : u₃.parameter = u.parameter := by
    rw [(SessionM.ok_of_lift_ok hprepare).2]
    exact kept (I := fun u₂ => u₂.parameter = u.parameter) hc (SessionM.connection_parameter _) rfl
  rw [hp] at hcalls
  refine ⟨earlier ++ later, calls, ?_, ?_, hcalls⟩
  · rw [hlog, hlater, hearlier]
    simp
  · simp [hmarks, hmarks']

end Invocation

end SqlMapper
