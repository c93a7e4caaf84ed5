import Mathlib.Data.List.Nodup
import SqlMapper.Configuration.Basic
import SqlMapper.Proofs.Maintains

namespace SqlMapper

/-- What the registry makes of a command: it has a statement kind, and is otherwise as it was. -/
structure Command.Completed (kind : StatementKind) (c d : Command) : Prop where
  statementKind : d.statementKind? = some (c.statementKind?.getD kind)
  unchanged : { d with statementKind? := c.statementKind? } = c

theorem Command.completed_iff {kind : StatementKind} {c d : Command} :
    c.Completed kind d ↔ d = c.withDefaultKind kind := by
  constructor
  · rintro ⟨hkind, hrest⟩
    rw [withDefaultKind, ← hkind, ← hrest]
  · rintro rfl
    exact ⟨rfl, rfl⟩

/-- A command as others see it: by which name they can ask for it, whether it is a select, and which of
them it asks for. -/
structure Declaration where
  id : String
  kind : CommandKind
  keys : KeyGenerator

def Command.declaration (c : Command) : Declaration := ⟨c.id, c.kind, c.keys⟩

namespace CommandEntry

def declaration (e : CommandEntry) : Declaration := ⟨e.id, e.kind, e.keys⟩

/-- The entry has a template, and `c` is the command it describes over that. -/
def Describes (e : CommandEntry) (c : Command) : Prop :=
  ∃ bound, Template.compile e.sql = .ok bound ∧ c = e.withSource (.template bound)

theorem compile_ok_iff {e : CommandEntry} {c : Command} : e.compile = .ok c ↔ e.Describes c := by
  unfold compile Describes
  cases Template.compile e.sql with
  | error fault => simp [bind, Except.bind]
  | ok bound => simp [bind, Except.bind, pure, Except.pure, eq_comm]

theorem compile_error_iff {e : CommandEntry} {fault : ConfigFault} :
    e.compile = .error fault ↔ Template.compile e.sql = .error fault := by
  unfold compile
  cases Template.compile e.sql with
  | error _ => simp [bind, Except.bind]
  | ok _ => simp [bind, Except.bind, pure, Except.pure]

end CommandEntry

inductive Declaration.KeyFault (declared : List Declaration) (owner : Declaration) :
    ConfigFault → Prop where
  | missing {query property : String} {before : Bool}
    (keys : owner.keys = .selectKey query property before) (absent : ∀ d ∈ declared, d.id ≠ query) :
    KeyFault declared owner (.keyCommandMissing query owner.id)
  | notSelect {query property : String} {before : Bool}
    (keys : owner.keys = .selectKey query property before) {d : Declaration} (mem : d ∈ declared)
    (id : d.id = query) (kind : d.kind ≠ .select) :
    KeyFault declared owner (.keyCommandNotSelect query owner.id)

namespace ConfigurationPlan

/-- What the plan declares: first the entries, then the commands made in code. -/
def declarations (p : ConfigurationPlan) : List Declaration :=
  p.entries.map CommandEntry.declaration ++ p.commands.map Command.declaration

/-- What the plan makes of a registry, with the standard collaborators where it has none of its own. -/
def configured (p : ConfigurationPlan) (registry : Registry) : Configuration where
  settings := p.settings
  registry := registry
  collections := p.collections.getD .standard
  mapper := p.mapper.getD (.byLabel p.settings.camelCaseFields)

def Compiles (p : ConfigurationPlan) : Prop :=
  ∀ e ∈ p.entries, ∃ bound, Template.compile e.sql = .ok bound

structure Sound (p : ConfigurationPlan) : Prop where
  compiles : p.Compiles
  distinct : (p.declarations.map (·.id)).Nodup
  keyed : ∀ owner ∈ p.declarations, ∀ query property before,
    owner.keys = .selectKey query property before →
      ∃ d ∈ p.declarations, d.id = query ∧ d.kind = .select

end ConfigurationPlan

/-- The registry holds these commands, completed, and no others. -/
structure Registry.Holds (kind : StatementKind) (commands : List Command) (r : Registry) : Prop where
  sorted : r.ids.Pairwise (· < ·)
  ids : r.ids.Perm (commands.map (·.id))
  found : ∀ id d, r.find? id = some d ↔ ∃ c ∈ commands, c.id = id ∧ c.Completed kind d

/-- How the assembly of a plan ends. A fault is reported if none comes before it. -/
inductive ConfigurationPlan.Assembled (p : ConfigurationPlan) : Except ConfigFault Configuration → Prop
  where
  | malformed {before : List CommandEntry} {e : CommandEntry} {after : List CommandEntry}
    {fault : ConfigFault} (split : p.entries = before ++ e :: after)
    (earlier : ∀ b ∈ before, ∃ bound, Template.compile b.sql = .ok bound)
    (refused : Template.compile e.sql = .error fault) : Assembled p (.error fault)
  | repeated {before : List Declaration} {d : Declaration} {after : List Declaration}
    (compiles : p.Compiles) (split : p.declarations = before ++ d :: after)
    (earlier : (before.map (·.id)).Nodup) (again : d.id ∈ before.map (·.id)) :
    Assembled p (.error (.duplicateCommand d.id))
  | unkeyed {owner : Declaration} {fault : ConfigFault} (compiles : p.Compiles)
    (distinct : (p.declarations.map (·.id)).Nodup) (mem : owner ∈ p.declarations)
    (offends : owner.KeyFault p.declarations fault)
    (first : ∀ other ∈ p.declarations, ∀ fault', other.KeyFault p.declarations fault' →
      owner.id ≤ other.id) : Assembled p (.error fault)
  | built {described : List Command} {registry : Registry} (sound : p.Sound)
    (describes : List.Forall₂ CommandEntry.Describes p.entries described)
    (holds : registry.Holds p.settings.statementKind (described ++ p.commands)) :
    Assembled p (.ok (p.configured registry))

namespace Registry

variable {kind : StatementKind} {commands : List Command} {c : Command} {r : Registry}

theorem holds_empty (kind : StatementKind) : empty.Holds kind [] :=
  ⟨.nil, .refl _, by simp [find?, empty]⟩

namespace Holds

theorem find?_eq_none_iff (h : r.Holds kind commands) {id : String} :
    r.find? id = none ↔ id ∉ commands.map (·.id) := by
  rw [← h.ids.mem_iff, Registry.ids, NameMap.mem_names_iff, not_exists, Option.eq_none_iff_forall_ne_some]
  rfl

theorem add (h : r.Holds kind commands) (hnew : c.id ∉ commands.map (·.id)) :
    ∃ r', r.add (c.withDefaultKind kind) = .ok r' ∧ r'.Holds kind (commands ++ [c]) := by
  have hnone := h.find?_eq_none_iff.2 hnew
  refine ⟨r.insert (c.withDefaultKind kind), ?_, ?_, ?_, fun id d => ?_⟩
  · unfold Registry.add
    rw [Command.id_withDefaultKind, hnone]
  · exact (NameMap.sorted_insert (List.pairwise_map.1 h.sorted) _ _).names
  · rw [List.map_append]
    have hinsert := (NameMap.insert_perm hnone (c.withDefaultKind kind)).map Prod.fst
    exact hinsert.trans ((h.ids.cons c.id).trans (List.perm_append_singleton _ _).symm)
  · by_cases hid : id = c.id
    · subst hid
      have hself : (r.insert (c.withDefaultKind kind)).find? c.id = _ := find?_insert_self ..
      rw [hself]
      constructor
      · rintro ⟨⟩
        exact ⟨c, by simp, rfl, Command.completed_iff.2 rfl⟩
      · rintro ⟨b, hb, hid, hd⟩
        obtain hb | hb := List.mem_append.1 hb
        · exact absurd (List.mem_map.2 ⟨b, hb, hid⟩) hnew
        · obtain rfl := List.mem_singleton.1 hb
          rw [Command.completed_iff.1 hd]
    · rw [find?_insert_of_ne (by rwa [Command.id_withDefaultKind]), h.found]
      constructor
      · rintro ⟨b, hb, h⟩
        exact ⟨b, List.mem_append_left _ hb, h⟩
      · rintro ⟨b, hb, hother, hd⟩
        obtain hb | hb := List.mem_append.1 hb
        · exact ⟨b, hb, hother, hd⟩
        · obtain rfl := List.mem_singleton.1 hb
          exact absurd hother.symm hid

theorem add_known (h : r.Holds kind commands) (hknown : c.id ∈ commands.map (·.id)) :
    r.add (c.withDefaultKind kind) = .error (.duplicateCommand c.id) := by
  have hsome : r.find? c.id ≠ none := fun hnone => h.find?_eq_none_iff.1 hnone hknown
  obtain ⟨d, hd⟩ := Option.ne_none_iff_exists'.1 hsome
  unfold Registry.add
  rw [Command.id_withDefaultKind, hd]

theorem find?_id (h : r.Holds kind commands) (hc : c ∈ commands) :
    r.find? c.id = some (c.withDefaultKind kind) :=
  (h.found c.id _).2 ⟨c, hc, rfl, Command.completed_iff.2 rfl⟩

theorem register_cases (h : r.Holds kind commands) (hids : (commands.map (·.id)).Nodup)
    (later : List Command) :
    (∃ r', later.foldlM (fun r c => r.add (c.withDefaultKind kind)) r = .ok r' ∧
      r'.Holds kind (commands ++ later) ∧ ((commands ++ later).map (·.id)).Nodup) ∨
    ∃ before c after, commands ++ later = before ++ c :: after ∧ (before.map (·.id)).Nodup ∧
      c.id ∈ before.map (·.id) ∧
      later.foldlM (fun r c => r.add (c.withDefaultKind kind)) r = .error (.duplicateCommand c.id) := by
  induction later generalizing commands r with
  | nil =>
    rw [List.append_nil]
    exact .inl ⟨r, rfl, h, hids⟩
  | cons c later ih =>
    rw [List.foldlM_cons]
    by_cases hc : c.id ∈ commands.map (·.id)
    · refine .inr ⟨commands, c, later, rfl, hids, hc, ?_⟩
      rw [h.add_known hc]
      rfl
    · obtain ⟨r₁, hadd, h₁⟩ := h.add hc
      have hids₁ : ((commands ++ [c]).map (·.id)).Nodup := by
        rw [List.map_append]
        exact (List.nodup_cons.2 ⟨hc, hids⟩).perm (List.perm_append_singleton _ _).symm
      have hcases := ih h₁ hids₁
      rw [List.append_assoc] at hcases
      rw [hadd]
      exact hcases

end Holds

end Registry

namespace ConfigurationPlan

open Declaration

variable {p : ConfigurationPlan} {kind : StatementKind} {commands : List Command} {c : Command}
  {r : Registry}

theorem checkKeyCommand_error_iff (h : r.Holds kind commands) {fault : ConfigFault} :
    checkKeyCommand r (c.withDefaultKind kind) = .error fault ↔
      c.declaration.KeyFault (commands.map Command.declaration) fault := by
  unfold checkKeyCommand
  rw [Command.keys_withDefaultKind, Command.id_withDefaultKind]
  constructor
  · intro hfault
    split at hfault
    · next query property before hkeys =>
      split at hfault
      · next hfind =>
        cases hfault
        refine .missing hkeys fun d hd hid => ?_
        obtain ⟨b, hb, rfl⟩ := List.mem_map.1 hd
        exact h.find?_eq_none_iff.1 hfind (List.mem_map.2 ⟨b, hb, hid⟩)
      · next found hfind =>
        obtain ⟨b, hb, hid, hcompleted⟩ := (h.found query found).1 hfind
        obtain rfl := Command.completed_iff.1 hcompleted
        split at hfault
        · cases hfault
        · next hkind =>
          cases hfault
          exact .notSelect hkeys (List.mem_map_of_mem hb) hid hkind
    · cases hfault
  · rintro (⟨hkeys, habsent⟩ | ⟨hkeys, hmem, hid, hkind⟩)
    · next query property before =>
      have hnone : r.find? query = none := by
        rw [h.find?_eq_none_iff, List.mem_map]
        rintro ⟨b, hb, hid⟩
        exact habsent _ (List.mem_map_of_mem hb) hid
      rw [show c.keys = _ from hkeys]
      simp only [hnone]
      rfl
    · next query property before d =>
      obtain ⟨b, hb, rfl⟩ := List.mem_map.1 hmem
      rw [show c.keys = _ from hkeys, ← hid]
      simp only [show r.find? b.declaration.id = _ from h.find?_id hb]
      exact if_neg hkind

end ConfigurationPlan

theorem Declaration.keyed_iff {declared : List Declaration} (h : (declared.map (·.id)).Nodup)
    (owner : Declaration) :
    (∀ query property before, owner.keys = .selectKey query property before →
      ∃ d ∈ declared, d.id = query ∧ d.kind = .select) ↔
    ∀ fault, ¬ owner.KeyFault declared fault := by
  constructor
  · rintro hkeyed fault (⟨hkeys, habsent⟩ | ⟨hkeys, hmem, hid, hkind⟩)
    · obtain ⟨d, hd, hid, -⟩ := hkeyed _ _ _ hkeys
      exact habsent d hd hid
    · obtain ⟨d, hd, hid', hselect⟩ := hkeyed _ _ _ hkeys
      obtain rfl := List.inj_on_of_nodup_map h hmem hd (hid.trans hid'.symm)
      exact hkind hselect
  · intro hnone query property before hkeys
    by_contra hd
    push Not at hd
    by_cases habsent : ∀ d ∈ declared, d.id ≠ query
    · exact hnone _ (.missing hkeys habsent)
    · push Not at habsent
      obtain ⟨d, hmem, hid⟩ := habsent
      exact hnone _ (.notSelect hkeys hmem hid (hd d hmem hid))

namespace ConfigurationPlan

variable {p : ConfigurationPlan} {kind : StatementKind} {commands : List Command} {r : Registry}

theorem declarations_of_describes {entries : List CommandEntry} {described : List Command}
    (h : List.Forall₂ CommandEntry.Describes entries described) :
    entries.map CommandEntry.declaration = described.map Command.declaration := by
  induction h with
  | nil => rfl
  | cons hdescribes _ ih =>
    obtain ⟨bound, -, rfl⟩ := hdescribes
    rw [List.map_cons, List.map_cons, ih]
    rfl

/-- The checks of all key queries stop at the first of their commands, by identifier, that has a fault. -/
theorem checks_cases (h : r.Holds kind commands) :
    (r.commands.forM (fun e => checkKeyCommand r e.2) = .ok () ∧ ∀ c ∈ commands, ∀ fault,
      ¬ c.declaration.KeyFault (commands.map Command.declaration) fault) ∨
    ∃ c ∈ commands, ∃ fault, r.commands.forM (fun e => checkKeyCommand r e.2) = .error fault ∧
      c.declaration.KeyFault (commands.map Command.declaration) fault ∧
      ∀ d ∈ commands, ∀ fault', d.declaration.KeyFault (commands.map Command.declaration) fault' →
        c.id ≤ d.id := by
  have hmem : ∀ c ∈ commands, (c.id, c.withDefaultKind kind) ∈ r.commands := fun c hc =>
    NameMap.mem_of_get? (h.find?_id hc)
  rw [except_forM_eq_map]
  obtain ⟨_, hmapM, hall⟩ | ⟨before, e, after, fault, hsplit, hbefore, hfault, hmapM⟩ :=
    except_mapM_cases (fun e => checkKeyCommand r e.2) r.commands
  · rw [hmapM]
    have hok : ∀ e ∈ r.commands, ∃ b, checkKeyCommand r e.2 = .ok b :=
      ((List.forall₂_and_left _ _).1 (hall.imp fun _ b hb => ⟨⟨b, hb⟩, hb⟩)).1
    refine .inl ⟨rfl, fun c hc fault hfault => ?_⟩
    obtain ⟨_, hc⟩ := hok _ (hmem c hc)
    cases hc.symm.trans ((checkKeyCommand_error_iff h).2 hfault)
  · rw [hmapM]
    have hsorted : NameMap.Sorted r.commands := List.pairwise_map.1 h.sorted
    obtain ⟨id, d⟩ := e
    have hfound : r.find? id = some d := (NameMap.mem_iff_get? hsorted).1 (by simp [hsplit])
    obtain ⟨c, hc, rfl, hcompleted⟩ := (h.found id d).1 hfound
    obtain rfl := Command.completed_iff.1 hcompleted
    refine .inr ⟨c, hc, fault, rfl, (checkKeyCommand_error_iff h).1 hfault, fun d hd fault' hd' => ?_⟩
    -- the check of `d` fails as well, so it is not one of those that were made before that of `c`
    have hlater : (d.id, d.withDefaultKind kind) ∉ before := by
      intro hearlier
      obtain ⟨_, hok⟩ := hbefore _ hearlier
      cases hok.symm.trans ((checkKeyCommand_error_iff h).2 hd')
    have hentry := hmem d hd
    rw [hsplit] at hsorted hentry
    exact hsorted.le_of_notMem hentry hlater

theorem map_id_declaration (commands : List Command) :
    (commands.map Command.declaration).map (·.id) = commands.map (·.id) := by
  rw [List.map_map]
  rfl

section Phases

variable {described : List Command} (hdescribes : List.Forall₂ CommandEntry.Describes p.entries described)

include hdescribes

theorem compiles_of_describes : p.Compiles :=
  ((List.forall₂_and_left _ _).1 (hdescribes.imp fun _ _ hc => ⟨⟨_, hc.choose_spec.1⟩, hc⟩)).1

theorem declarations_eq :
    p.declarations = (described ++ p.commands).map Command.declaration := by
  rw [declarations, declarations_of_describes hdescribes, List.map_append]

theorem assembled_of_holds (hholds : r.Holds p.settings.statementKind (described ++ p.commands))
    (hnodup : ((described ++ p.commands).map (·.id)).Nodup) :
    p.Assembled (r.commands.forM (fun e => checkKeyCommand r e.2) >>= fun _ => .ok (p.configured r)) := by
  have hcompiles := compiles_of_describes hdescribes
  have hdeclared := declarations_eq hdescribes
  have hdistinct : (p.declarations.map (·.id)).Nodup := by
    rwa [hdeclared, map_id_declaration]
  obtain ⟨hchecks, hfine⟩ | ⟨c, hc, fault, hchecks, hfault, hfirst⟩ := checks_cases hholds
  · rw [hchecks]
    refine .built ⟨hcompiles, hdistinct, fun owner howner => ?_⟩ hdescribes hholds
    apply (Declaration.keyed_iff hdistinct owner).2
    rw [hdeclared] at howner ⊢
    obtain ⟨c, hc, rfl⟩ := List.mem_map.1 howner
    exact hfine c hc
  · rw [hchecks]
    have hmem := List.mem_map_of_mem (f := Command.declaration) hc
    rw [← hdeclared] at hmem hfault hfirst
    refine .unkeyed hcompiles hdistinct hmem hfault fun other hother fault' hother' => ?_
    rw [hdeclared] at hother
    obtain ⟨d, hd, rfl⟩ := List.mem_map.1 hother
    exact hfirst d hd fault' hother'

theorem assembled_of_describes :
    p.Assembled (register p.settings.statementKind (described ++ p.commands) >>= fun r =>
      r.commands.forM (fun e => checkKeyCommand r e.2) >>= fun _ => .ok (p.configured r)) := by
  have hcases := (Registry.holds_empty p.settings.statementKind).register_cases List.nodup_nil
    (described ++ p.commands)
  rw [List.nil_append] at hcases
  obtain ⟨r, hregister, hholds, hnodup⟩ | ⟨before, c, after, hsplit, hbefore, hagain, hregister⟩ := hcases
  · rw [register, hregister]
    exact assembled_of_holds hdescribes hholds hnodup
  · rw [register, hregister]
    rw [← map_id_declaration] at hbefore hagain
    have hdeclared : p.declarations =
        before.map Command.declaration ++ c.declaration :: after.map Command.declaration := by
      rw [declarations_eq hdescribes, hsplit, List.map_append, List.map_cons]
    exact .repeated (compiles_of_describes hdescribes) hdeclared hbefore hagain

end Phases

theorem assembled_build (p : ConfigurationPlan) : p.Assembled p.build := by
  unfold build
  obtain ⟨described, hcompiled, hall⟩ | ⟨before, e, after, fault, hsplit, hearlier, hfault, hmapM⟩ :=
    except_mapM_cases CommandEntry.compile p.entries
  · rw [hcompiled]
    exact assembled_of_describes (hall.imp fun _ _ => CommandEntry.compile_ok_iff.1)
  · rw [hmapM]
    refine .malformed hsplit (fun b hb => ?_) (CommandEntry.compile_error_iff.1 hfault)
    obtain ⟨c, hc⟩ := hearlier b hb
    obtain ⟨bound, hbound, -⟩ := CommandEntry.compile_ok_iff.1 hc
    exact ⟨bound, hbound⟩

theorem Assembled.ok_iff {result : Except ConfigFault Configuration} (h : p.Assembled result) :
    (∃ config, result = .ok config) ↔ p.Sound := by
  cases h with
  | built sound describes holds => exact ⟨fun _ => sound, fun _ => ⟨_, rfl⟩⟩
  | @malformed before e after fault split earlier refused =>
    simp only [reduceCtorEq, exists_false, false_iff]
    intro hsound
    obtain ⟨bound, hbound⟩ := hsound.compiles e (by simp [split])
    cases refused.symm.trans hbound
  | @repeated before d after compiles split earlier again =>
    simp only [reduceCtorEq, exists_false, false_iff]
    intro hsound
    have hdistinct := hsound.distinct
    rw [split, List.map_append, List.map_cons, List.nodup_middle] at hdistinct
    exact (List.nodup_cons.1 hdistinct).1 (List.mem_append_left _ again)
  | @unkeyed owner fault compiles distinct mem offends first =>
    simp only [reduceCtorEq, exists_false, false_iff]
    intro hsound
    exact (Declaration.keyed_iff distinct owner).1 (hsound.keyed owner mem) fault offends

/-- A configuration is built exactly of a plan without a fault: every template compiles, no identifier is
declared twice, and every key query is declared as a select. Its registry holds the commands of the plan,
each with a statement kind, and no others. Otherwise the fault is that of the first malformed template, or
else the first identifier that is repeated, or else the key query of the least of the commands whose key
query is at fault. -/
theorem build_assembles (p : ConfigurationPlan) :
    ((∃ config, p.build = .ok config) ↔ p.Sound) ∧ p.Assembled p.build :=
  ⟨(assembled_build p).ok_iff, assembled_build p⟩

end ConfigurationPlan

end SqlMapper
