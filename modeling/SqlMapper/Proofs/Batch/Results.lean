import Mathlib.Data.List.SplitBy
import SqlMapper.Proofs.Batch.State

namespace SqlMapper

open Fallible

/-- `p'` is `p` with the keys of one entry, if there are keys for it. -/
def Command.Keyed (c : Command) (p p' : Parameter) : Prop :=
  match c.keys with
  | .generated properties =>
    p' = p ∨ ∃ row, (Keys.assignRow c.id properties row).outcome p = (.ok (), p')
  | .selectKey _ property false => ∃ key, (Parameter.write property key).outcome p = (.ok (), p')
  | _ => p' = p

namespace Keys

variable {config : Configuration}

theorem forall₂_of_assignRows_ok {c : Command} {properties : List String}
    (hc : c.keys = .generated properties) {rows : List Row} {counts : List Int}
    {ps : List Parameter} (h : (assignRows c.id properties rows counts ps).1 = .ok ()) :
    List.Forall₂ c.Keyed ps (assignRows c.id properties rows counts ps).2 := by
  have hsame : ∀ p, c.Keyed p p := fun p => by
    rw [Command.Keyed, hc]
    exact .inl rfl
  induction ps generalizing rows counts with
  | nil => cases rows <;> exact .nil
  | cons p ps ih =>
    cases rows with
    | nil => exact List.forall₂_same.mpr fun p _ => hsame p
    | cons row rows =>
      rw [assignRows] at h ⊢
      split at h
      · next hzero =>
        rw [if_pos hzero]
        exact .cons (hsame p) (ih h)
      · next hzero =>
        rw [if_neg hzero]
        split at h
        · cases h
        · next p' hx =>
          refine .cons ?_ (ih h)
          rw [Command.Keyed, hc]
          exact .inr ⟨row, hx⟩

theorem run_parameter (config : Configuration) (id : String) (p : Parameter) :
    Maintains (fun u => u.parameter = p) (run config id) fun _ => True := by
  refine (Maintains.ending (V := fun _ => True) fun _ _ => trivial).bind fun command _ =>
    (SessionM.parameter_parameter p).bind fun p' _ =>
      (Maintains.ending (V := fun _ => True) fun _ _ => trivial).bind fun i _ =>
        (i.freshStatement_parameter config.settings p).bind fun s _ => ?_
  exact ((SessionM.withParameter_parameter p p' _).thenAlways
    (SessionM.lift_parameter s.closeQuietly p)).bind fun _ _ => .pure trivial

theorem select_ok {id property : String} {u v : Scope}
    (h : (select config id property).outcome u = (.ok (), v)) :
    ∃ key, (Parameter.write property key).outcome u.parameter = (.ok (), v.parameter) := by
  obtain ⟨keys, u₁, hrun, hrest⟩ := ok_of_bind_ok h
  split at hrest
  · cases hrest
  · next key =>
    refine ⟨key, ?_⟩
    rw [← SessionM.parameter_kept hrun (run_parameter config id _)]
    exact SessionM.ok_of_onParameter_ok hrest
  · cases hrest

end Keys

theorem Fallible.forall₂_of_mapM_ok {σ α β : Type} {f : α → Fallible σ β} {l : List α} {r : List β}
    {s t : σ} (h : (l.mapM f).outcome s = (.ok r, t)) :
    List.Forall₂ (fun a b => ∃ s t, (f a).outcome s = (.ok b, t)) l r := by
  induction l generalizing r s with
  | nil =>
    cases h
    exact .nil
  | cons a l ih =>
    rw [List.mapM_cons] at h
    obtain ⟨b, s₁, hb, h⟩ := ok_of_bind_ok h
    obtain ⟨bs, s₂, hbs, h⟩ := ok_of_bind_ok h
    cases h
    exact .cons ⟨s, s₁, hb⟩ (ih hbs)

namespace Batch

variable {config : Configuration} {q : QueuedStatement} {queue : List QueuedStatement}
  {results : List BatchResult} {s t : Scope}

/-- What the keys of a batch leave of the parameter objects. -/
theorem keyed_of_afterBatch_ok {c : Command} {st : Statement} {ps ps' : List Parameter}
    {counts : List Int}
    (h : (Keys.afterBatch config c st ps counts).outcome s = (.ok ps', t)) :
    List.Forall₂ c.Keyed ps ps' := by
  unfold Keys.afterBatch at h
  split at h
  · next properties hc =>
    obtain ⟨rows, s₁, hrows, h⟩ := ok_of_bind_ok h
    obtain ⟨_, s₂, hr, h⟩ := ok_of_bind_ok h
    cases h
    exact Keys.forall₂_of_assignRows_ok hc (congrArg Prod.fst hr)
  · next id property hc =>
    refine (forall₂_of_mapM_ok h).imp ?_
    rintro p p' ⟨u, v, hx⟩
    obtain ⟨⟨_, p''⟩, u₁, hselect, hx⟩ := ok_of_bind_ok hx
    cases hx
    rw [SessionM.withParameter_outcome] at hselect
    rcases hs : (Keys.select config id property).outcome { u with parameter := p } with
      ⟨e | _, u₂⟩ <;> rw [hs] at hselect <;> cases hselect
    rw [Command.Keyed, hc]
    exact Keys.select_ok hs
  · next hgenerated hselect =>
    cases h
    refine List.forall₂_same.mpr fun p _ => ?_
    unfold Command.Keyed
    split
    · next properties hc => exact absurd hc (hgenerated properties)
    · next id property hc => exact absurd hc (hselect id property)
    · rfl

structure Gives (q : QueuedStatement) (r : BatchResult) : Prop where
  command : r.command = q.command.id
  sql : r.sql = q.sql
  counts : r.counts.length = q.parameters.length
  parameters : List.Forall₂ q.command.Keyed q.parameters r.parameters

theorem gives_of_sends (hready : Ready queue s.database) (h : Sends config s queue results t) :
    List.Forall₂ Gives queue results := by
  induction h with
  | nil => exact .nil
  | @cons s t u q rest r results hq hrest ih =>
    have hmem : q ∈ q :: rest := List.mem_cons_self
    obtain ⟨_, -, -, ha⟩ := sending_advance hready.tail.made_statements hready.head_not_mem
      (hready.made q hmem) (hready.isOpen q hmem) hq
    refine .cons ?_ (ih (hready.tail.beside ha.beside))
    cases hq with
    | done hx hk => exact ⟨rfl, rfl, hready.counts_length hx, keyed_of_afterBatch_ok hk⟩

/-- Mutations with one command and one text. -/
def Submission.alike (x y : Submission) : Bool :=
  decide (x.invocation.command.id = y.invocation.command.id ∧
    x.invocation.bound.sql = y.invocation.bound.sql)

/-- The entries of the statement are those of the mutations, and the first of them has its
command. -/
structure Entered (q : QueuedStatement) (g : List Submission) : Prop where
  command : g.head?.map (·.invocation.command) = some q.command
  joins : ∀ x ∈ g, x.Joins q
  parameters : q.parameters = g.map (·.parameter)

/-- The queue has the mutations in order, and a statement of its own wherever command or text
change. -/
structure Holds (queue : List QueuedStatement) (pending : List Submission) : Prop where
  entered : ∃ groups, List.Forall₂ Entered queue groups ∧ groups.flatten = pending
  differ : queue.IsChain fun q q' => ¬ (q.command.id = q'.command.id ∧ q.sql = q'.sql)

variable {groups : List (List Submission)} {x : Submission} {pending : List Submission}
  {queue' : List QueuedStatement} {st : Statement}

theorem Entered.ne_nil {g : List Submission} (h : Entered q g) : g ≠ [] := by
  rintro rfl
  cases h.command

theorem Submission.alike_of_joins {y : Submission} (hx : x.Joins q) (hy : y.Joins q) :
    x.alike y = true :=
  decide_eq_true ⟨hx.1.symm.trans hy.1, hx.2.symm.trans hy.2⟩

theorem Submission.not_alike {y : Submission} {q' : QueuedStatement} (hx : x.Joins q)
    (hy : y.Joins q') (h : ¬ (q.command.id = q'.command.id ∧ q.sql = q'.sql)) :
    x.alike y = false :=
  decide_eq_false fun he => h ⟨hx.1.trans (he.1.trans hy.1.symm), hx.2.trans (he.2.trans hy.2.symm)⟩

theorem nil_not_mem_of_entered (h : List.Forall₂ Entered queue groups) : [] ∉ groups := by
  induction h with
  | nil => exact List.not_mem_nil
  | cons hq _ ih => simp [ih, hq.ne_nil.symm]

theorem isChain_alike_of_entered (h : List.Forall₂ Entered queue groups) :
    ∀ g ∈ groups, g.IsChain fun x y => x.alike y = true := by
  induction h with
  | nil => exact nofun
  | cons hq _ ih =>
    intro g hg
    obtain rfl | hg := List.mem_cons.mp hg
    · have hall : g.Pairwise fun x y => x.alike y = true := List.pairwise_of_forall_mem_list
        fun x hx y hy => Submission.alike_of_joins (hq.joins x hx) (hq.joins y hy)
      exact hall.isChain
    · exact ih g hg

theorem isChain_not_alike_of_entered (h : List.Forall₂ Entered queue groups)
    (hd : queue.IsChain fun q q' => ¬ (q.command.id = q'.command.id ∧ q.sql = q'.sql)) :
    groups.IsChain fun g g' => ∃ hg hg', (g.getLast hg).alike (g'.head hg') = false := by
  induction h with
  | nil => exact .nil
  | cons hq hrest ih =>
    cases hrest with
    | nil => exact .singleton _
    | cons hq' hrest =>
      obtain ⟨hne, hd⟩ := List.isChain_cons_cons.mp hd
      have hunlike := Submission.not_alike (hq.joins _ (List.getLast_mem hq.ne_nil))
        (hq'.joins _ (List.head_mem hq'.ne_nil)) hne
      exact .cons_cons ⟨hq.ne_nil, hq'.ne_nil, hunlike⟩ (ih hd)

/-- A statement for each longest run of mutations with one command and one text. -/
theorem Holds.splitBy (h : Holds queue pending) :
    List.Forall₂ Entered queue (pending.splitBy Submission.alike) := by
  obtain ⟨groups, hgroups, rfl⟩ := h.entered
  rw [List.splitBy_flatten (nil_not_mem_of_entered hgroups) (isChain_alike_of_entered hgroups)
    (isChain_not_alike_of_entered hgroups h.differ)]
  exact hgroups

theorem forall₂_concat {α β : Type} {R : α → β → Prop} {l : List α} {a : α} {m : List β}
    (h : List.Forall₂ R (l ++ [a]) m) : ∃ m' b, m = m' ++ [b] ∧ List.Forall₂ R l m' ∧ R a b := by
  rw [← List.forall₂_reverse_iff, List.reverse_append] at h
  cases h' : m.reverse with
  | nil =>
    rw [h'] at h
    cases h
  | cons b m' =>
    rw [h'] at h
    cases h with
    | cons hab hrest =>
      refine ⟨m'.reverse, b, ?_, ?_, hab⟩
      · rw [← List.reverse_reverse m, h', List.reverse_cons]
      · rwa [← List.forall₂_reverse_iff, List.reverse_reverse]

theorem forall₂_snoc {α β : Type} {R : α → β → Prop} {l : List α} {m : List β} {a : α} {b : β}
    (h : List.Forall₂ R l m) (hab : R a b) : List.Forall₂ R (l ++ [a]) (m ++ [b]) :=
  List.rel_append h (.cons hab .nil)

theorem Holds.nil : Holds [] [] := ⟨⟨[], .nil, rfl⟩, .nil⟩

theorem Holds.push (h : Holds queue pending) (hp : Push x queue st queue') :
    Holds queue' (pending ++ [x]) := by
  obtain ⟨⟨groups, hgroups, rfl⟩, hdiffer⟩ := h
  cases hp with
  | join init last hj =>
    obtain ⟨gs, g, rfl, hinit, hlast⟩ := forall₂_concat hgroups
    refine ⟨⟨gs ++ [g ++ [x]], forall₂_snoc hinit ⟨?_, fun y hy => ?_, ?_⟩, by simp⟩, ?_⟩
    · rw [List.head?_append_of_ne_nil _ hlast.ne_nil]
      exact hlast.command
    · obtain hy | hy := List.mem_append.mp hy
      · exact hlast.joins y hy
      · cases List.mem_singleton.mp hy
        exact hj
    · rw [addParameter, hlast.parameters, List.map_append]
      rfl
    · rw [List.isChain_append] at hdiffer ⊢
      refine ⟨hdiffer.1, .singleton _, fun q hq q' hq' => ?_⟩
      cases hq'
      exact hdiffer.2.2 q hq last rfl
  | fresh _ _ hn =>
    refine ⟨⟨groups ++ [[x]], forall₂_snoc hgroups ⟨rfl, fun y hy => ?_, rfl⟩, by simp⟩, ?_⟩
    · cases List.mem_singleton.mp hy
      exact ⟨rfl, rfl⟩
    · refine List.isChain_append.mpr ⟨hdiffer, .singleton _, fun q hq q' hq' he => ?_⟩
      cases hq'
      exact hn q hq he

/-- The result is that of the mutations: it has their command and text, a count for each, and their
parameter objects with the keys that came of it. -/
structure Reports (g : List Submission) (r : BatchResult) : Prop where
  named : ∀ x ∈ g, r.command = x.invocation.command.id ∧ r.sql = x.invocation.bound.sql
  counts : r.counts.length = g.length
  parameters : ∃ c, g.head?.map (·.invocation.command) = some c ∧
    List.Forall₂ c.Keyed (g.map (·.parameter)) r.parameters

theorem Entered.reports {g : List Submission} {r : BatchResult} (h : Entered q g) (hr : Gives q r) :
    Reports g r where
  named y hy := ⟨hr.command.trans (h.joins y hy).1, hr.sql.trans (h.joins y hy).2⟩
  counts := by rw [hr.counts, h.parameters, List.length_map]
  parameters := ⟨q.command, h.command, h.parameters ▸ hr.parameters⟩

theorem reports_of_gives (h : List.Forall₂ Entered queue groups)
    (hr : List.Forall₂ Gives queue results) : List.Forall₂ Reports groups results := by
  induction h generalizing results with
  | nil =>
    cases hr
    exact .nil
  | cons hq _ ih =>
    cases hr with
    | cons hr hrest => exact .cons (hq.reports hr) (ih hrest)

end Batch

end SqlMapper
