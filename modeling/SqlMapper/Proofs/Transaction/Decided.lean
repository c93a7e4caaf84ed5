import SqlMapper.Proofs.Batch.Reading
import SqlMapper.Proofs.Statements.Account
import SqlMapper.Proofs.Transaction.Course

namespace SqlMapper

open Fallible

variable {config : Configuration} {db : Database} {type : ExecutorType} {tr : Transaction}
  {past : List Turn} {w : World}

/-- A decision comes before the connection is closed. -/
def Decided (later : List Event) : Prop :=
  ∃ mid d rest, later = mid ++ d :: rest ∧ d.decides = true ∧ .connectionClosed ∉ mid

theorem Decided.append {later : List Event} (h : Decided later) (more : List Event) :
    Decided (later ++ more) := by
  obtain ⟨mid, d, rest, rfl, hd, hmid⟩ := h
  exact ⟨mid, d, rest ++ more, by simp, hd, hmid⟩

theorem not_mem_of_undecided {evs : List Event} {ev : Event} (h : ∀ ev ∈ evs, ev.ends = false)
    (hends : ev.ends = true) : ev ∉ evs := by
  intro hmem
  rw [h ev hmem] at hends
  cases hends

theorem Decided.of_undecided {mid : List Event} {d : Event} (hd : d.decides = true)
    (hmid : ∀ ev ∈ mid, ev.ends = false) (rest : List Event) : Decided (mid ++ d :: rest) :=
  ⟨mid, d, rest, rfl, hd, not_mem_of_undecided hmid rfl⟩

namespace Turn

variable {t : Turn} {ev : Event}

/-- The event shows what has been executed on account of an insert, an update or a delete: of the
turn itself, or of one that was in the queue. -/
structure Changes (t : Turn) (ev : Event) : Prop where
  executes : ev.executes = true
  cause : t.Mutates ∨ t.before.queue ≠ []

/-- An insert, an update or a delete has been executed in the turn, or is in the queue after it. -/
def Leaves (t : Turn) : Prop := (∃ ev ∈ t.events, t.Changes ev) ∨ t.after.queue ≠ []

/-- In `past` there is a turn of this kind, and no commit or rollback has ended well since. -/
def Pending (kind : Turn → Prop) (past : List Turn) : Prop :=
  ∃ older recent, past = older ++ recent ∧ (∀ t ∈ recent, ¬ t.Finishes) ∧ ∃ t ∈ recent, kind t

theorem not_pending_nil {kind : Turn → Prop} : ¬ Pending kind [] := by
  rintro ⟨older, recent, hpast, -, t, ht, -⟩
  rw [(List.append_eq_nil_iff.mp hpast.symm).2] at ht
  cases ht

theorem Pending.of_snoc {kind : Turn → Prop} {past : List Turn} {last : Turn}
    (h : Pending kind (past ++ [last])) : ¬ last.Finishes ∧ (Pending kind past ∨ kind last) := by
  obtain ⟨older, recent, hpast, hunfinished, t, ht, hkind⟩ := h
  obtain ⟨newer, e, hsplit⟩ : ∃ newer e, recent = newer ++ [e] :=
    ⟨_, _, (List.dropLast_append_getLast (List.ne_nil_of_mem ht)).symm⟩
  rw [hsplit, ← List.append_assoc] at hpast
  obtain ⟨rfl, hlast⟩ := List.append_inj' hpast rfl
  obtain rfl := List.singleton_inj.mp hlast
  rw [hsplit] at hunfinished ht
  refine ⟨hunfinished _ (List.mem_append_right _ List.mem_cons_self), ?_⟩
  obtain hin | hin := List.mem_append.mp ht
  · exact .inl ⟨older, newer, rfl, fun t' ht' => hunfinished t' (List.mem_append_left _ ht'), t, hin,
      hkind⟩
  · rw [List.mem_singleton.mp hin] at hkind
    exact .inr hkind

theorem Decision.decides {d : Event} {rest : List Event} (h : t.Decision d rest) :
    d.decides = true := by
  cases h <;> rfl

theorem Decision.quiet {d : Event} {rest : List Event} (h : t.Decision d rest) :
    ∀ ev ∈ d :: rest, ev.executes = false := by
  intro ev hev
  obtain rfl | hlater := List.mem_cons.mp hev
  · cases h <;> rfl
  · cases h with
    | commit | rollback => cases hlater
    | close _ hrest =>
      rw [hrest ev hlater]
      rfl

theorem Changes.queue (h : t.Changes ev) (hends : t.Finishes ∨ t.Closes) : t.before.queue ≠ [] := by
  refine h.cause.resolve_left ?_
  rintro ⟨op, p, id, hstep, hm⟩
  obtain ⟨_, _, _, he | he, -⟩ | ⟨_, he⟩ := hends <;> rw [hstep] at he <;> cases he <;> cases hm

theorem Works.owes (h : t.Works) (hb : t.before.Owes) : t.after.Owes :=
  ⟨h.connected hb.connected, h.dirty hb.dirty, h.closed.trans hb.isOpen⟩

theorem Works.owes_of_changes (h : t.Works) (hm : t.before.Manual) (hev : ev ∈ t.events)
    (hc : t.Changes ev) : t.after.Owes := by
  obtain ⟨hconnected, hopen, hdirty⟩ := h.executed ⟨ev, hev, hc.executes⟩
  refine ⟨hconnected, ?_, hopen⟩
  obtain hmut | hq := hc.cause
  · exact hdirty hmut
  · exact h.dirty (hm.queued hq).1

/-- Where something is owed, work goes on or there is a decision. -/
theorem Course.works_or_decides (h : t.Course) (hb : t.before.Owes) :
    t.Works ∨ ∃ evs d rest, t.Decision d rest ∧ t.events = evs ++ d :: rest ∧
      ∀ ev ∈ evs, ev.ends = false := by
  cases h with
  | shut before =>
    rw [hb.isOpen] at before
    cases before
  | works h => exact .inl h
  | idles _ idle => exact absurd hb.connected (idle hb.dirty).1
  | decides _ decision events undecided => exact .inr ⟨_, _, _, decision, events, undecided⟩

end Turn

namespace Turn

variable {t : Turn} {ev : Event}

theorem Course.decides_or_owes (h : t.Course) (hm : t.before.Manual) {before after : List Event}
    (hevents : t.events = before ++ ev :: after) (hc : t.Changes ev) :
    Decided after ∨ (t.after.Owes ∧ ∀ ev ∈ after, ev.ends = false) := by
  have hev : ev ∈ t.events := hevents ▸ List.mem_append_right before List.mem_cons_self
  cases h with
  | shut _ _ silent =>
    rw [silent] at hev
    cases hev
  | works h =>
    refine .inr ⟨h.owes_of_changes hm hev hc, fun ev' hev' => h.undecided ev' ?_⟩
    rw [hevents]
    exact List.mem_append_right before (List.mem_cons_of_mem ev hev')
  | idles ends idle =>
    have hquiet := (idle (hm.queued (hc.queue ends)).1).2 ev hev
    rw [hc.executes] at hquiet
    cases hquiet
  | @decides evs rest d ends decision events undecided =>
    -- the decision comes after `ev`, since nothing is executed from there on
    obtain ⟨mid, hmid, hafter⟩ | ⟨mid, -, hrest⟩ :=
      List.append_eq_append_iff.mp (hevents.symm.trans events)
    · cases mid with
      | nil =>
        obtain ⟨rfl, -⟩ := List.cons.inj hafter
        have hquiet := decision.quiet ev List.mem_cons_self
        rw [hc.executes] at hquiet
        cases hquiet
      | cons ev' mid =>
        obtain ⟨rfl, rfl⟩ := List.cons.inj hafter
        refine .inl (.of_undecided decision.decides (fun ev' hev' => undecided ev' ?_) rest)
        rw [hmid]
        exact List.mem_append_right before (List.mem_cons_of_mem ev hev')
    · have hquiet := decision.quiet ev (hrest ▸ List.mem_append_right mid List.mem_cons_self)
      rw [hc.executes] at hquiet
      cases hquiet

end Turn

theorem Session.commit_error_dirty {force : Bool} {s : Scope} {e : Error}
    (h : ((commit config force).outcome s).1 = .error e) :
    ((commit config force).outcome s).2.session.dirty = s.session.dirty := by
  cases hopen : s.session.closed with
  | true => rw [commit_of_closed hopen]
  | false =>
    have hflush := (SessionM.flush_inner config (s.withCache .empty) (.refl _)).1.dirty
    rw [commit_of_open hopen] at h ⊢
    rcases hx : (SessionM.flush config).outcome (s.withCache .empty) with ⟨e' | results, t⟩ <;>
      rw [hx] at h hflush
    · exact hflush
    · unfold finishing at h ⊢
      dsimp only at h ⊢
      split at h
      · rw [if_pos ‹_›]
        rcases hf : t.session.transaction.commit.outcome t.database with ⟨e' | _, db'⟩ <;> rw [hf] at h
        · exact hflush
        · cases h
      · cases h

namespace Run

variable (hmanual : tr.Manual db) (hr : Run config (.opened db type tr false) past w)

include hmanual hr in
theorem manual : w.Manual := by
  induction hr with
  | start =>
    refine .of_spare hmanual rfl ?_
    cases type <;> rfl
  | turn run step ih =>
    refine ih.turn config (Ledger.lasting db) run.tallied (fun hbatch => ?_) step
    subst hbatch
    exact run.batched (.opened db tr false)

include hmanual hr in
theorem course {step : Step} (hfirm : ∀ e ∈ (w.turn config step).calls, e.falters = false) :
    (w.turn config step).Course :=
  (hr.manual hmanual).course config hr.tallied step hfirm

include hmanual hr in
theorem owes (hfirm : ∀ e ∈ past.flatMap Turn.calls, e.falters = false)
    (hpending : Turn.Pending (fun t => t.Leaves ∨ t.FailsToCommit) past)
    (hopen : w.session.closed = false) : w.Owes := by
  induction hr with
  | start => exact absurd hpending Turn.not_pending_nil
  | @turn past w run step ih =>
    obtain ⟨hnot, hpending⟩ := hpending.of_snoc
    rw [List.flatMap_append, List.flatMap_singleton] at hfirm
    have hcloses : ¬ (w.turn config step).Closes := by
      intro hc
      rw [World.closed_of_closes hc] at hopen
      cases hopen
    cases run.course hmanual fun e he => hfirm e (List.mem_append_right _ he) with
    | shut _ after =>
      rw [after] at hopen
      cases hopen
    | idles ends => exact absurd ends (not_or.mpr ⟨hnot, hcloses⟩)
    | decides ends => exact absurd ends (not_or.mpr ⟨hnot, hcloses⟩)
    | works hworks =>
      have hbefore := hworks.closed.symm.trans hopen
      rw [World.turn_before] at hbefore
      have hm := run.manual hmanual
      -- what is pending was so before this turn, or it is of this turn
      obtain hbelow | (⟨ev, hev, hchanges⟩ | hqueue) | hfails := hpending
      · refine hworks.owes ?_
        rw [World.turn_before]
        exact ih (fun e he => hfirm e (List.mem_append_left _ he)) hbelow hbefore
      · exact hworks.owes_of_changes (by rwa [World.turn_before]) hev hchanges
      · exact ((run.turn step).manual hmanual).owes hqueue
      · have hqueue := hworks.failed hfails
        refine hworks.owes ?_
        rw [World.turn_before] at hqueue ⊢
        exact hm.owes hqueue

include hmanual hr in
theorem decided_or_owes (hfirm : ∀ e ∈ past.flatMap Turn.calls, e.falters = false)
    {older newer : List Turn} {t : Turn} (hpast : past = older ++ t :: newer)
    {before after : List Event} {ev : Event} (hevents : t.events = before ++ ev :: after)
    (hc : t.Changes ev) :
    Decided (after ++ newer.flatMap Turn.events) ∨
      (w.Owes ∧ ∀ ev ∈ after ++ newer.flatMap Turn.events, ev.ends = false) := by
  induction hr generalizing newer with
  | start => simp at hpast
  | @turn past w run step ih =>
    rw [List.flatMap_append, List.flatMap_singleton] at hfirm
    have hcourse := run.course hmanual fun e he => hfirm e (List.mem_append_right _ he)
    -- the turn in question is the last one, or what it has changed is owed when that one starts
    obtain ⟨rfl, rfl, rfl⟩ | ⟨init, rfl, hold⟩ := split_snoc hpast
    · rw [List.flatMap_nil, List.append_nil]
      exact hcourse.decides_or_owes (by rw [World.turn_before]; exact run.manual hmanual) hevents hc
    · rw [List.flatMap_append, List.flatMap_singleton, ← List.append_assoc]
      obtain hdecided | ⟨howes, hundecided⟩ :=
        ih (fun e he => hfirm e (List.mem_append_left _ he)) hold
      · exact .inl (hdecided.append _)
      · have hbefore : (w.turn config step).before.Owes := by rwa [World.turn_before]
        obtain hworks | ⟨evs, d, rest, hdecision, hd, hevs⟩ := hcourse.works_or_decides hbefore
        · refine .inr ⟨hworks.owes hbefore, fun ev hev => ?_⟩
          obtain hev | hev := List.mem_append.mp hev
          · exact hundecided ev hev
          · exact hworks.undecided ev hev
        · rw [hd, ← List.append_assoc]
          refine .inl (.of_undecided hdecision.decides (fun ev hev => ?_) rest)
          obtain hev | hev := List.mem_append.mp hev
          · exact hundecided ev hev
          · exact hevs ev hev

include hmanual hr in
theorem works_or_decides (hfirm : ∀ e ∈ past.flatMap Turn.calls, e.falters = false)
    {older newer : List Turn} {t : Turn} (hpast : past = older ++ t :: newer)
    (hpending : Turn.Pending (fun t => t.Leaves ∨ t.FailsToCommit) older)
    (hopen : t.before.session.closed = false) :
    t.Works ∨ ∃ evs d rest, t.Decision d rest ∧ t.events = evs ++ d :: rest ∧
      ∀ ev ∈ evs, ev.ends = false := by
  obtain ⟨w', step, run, rfl⟩ := hr.split hpast
  rw [hpast, List.flatMap_append, List.flatMap_cons] at hfirm
  rw [World.turn_before] at hopen
  have howes := run.owes hmanual (fun e he => hfirm e (List.mem_append_left _ he)) hpending hopen
  exact (run.course hmanual fun e he => hfirm e (List.mem_append_right _
    (List.mem_append_left _ he))).works_or_decides (by rwa [World.turn_before])

include hr in
theorem open_of_committed {older newer : List Turn} {t : Turn} (hpast : past = older ++ t :: newer)
    {force : Bool} {p : Parameter} {a : Session.Answer}
    (hstep : t.step = .perform (.commit force) p) (hresult : t.result = some (.ok a)) :
    t.before.session.closed = false := by
  obtain ⟨w', step, -, rfl⟩ := hr.split hpast
  rw [World.turn_step] at hstep
  subst hstep
  rw [World.turn_before]
  refine Bool.eq_false_iff.mpr fun hclosed => ?_
  have hsends : (Session.Operation.commit force).Sends := trivial
  obtain ⟨e, d, p', hrefused⟩ :=
    Session.perform_refused config (s := w'.scope p) hclosed (.inl hsends)
  rw [World.turn_perform, hrefused] at hresult
  cases hresult

include hmanual hr in
theorem uncommitted (hfirm : ∀ e ∈ past.flatMap Turn.calls, e.falters = false)
    {older newer : List Turn} {t : Turn} (hpast : past = older ++ t :: newer) {force : Bool}
    {p : Parameter} {e : Error} (hstep : t.step = .perform (.commit force) p)
    (hresult : t.result = some (.error e)) :
    .committed ∉ t.events ∧ t.after.session.dirty = t.before.session.dirty := by
  obtain ⟨w', step, run, rfl⟩ := hr.split hpast
  rw [hpast, List.flatMap_append, List.flatMap_cons] at hfirm
  have hcourse := run.course hmanual fun e he =>
    hfirm e (List.mem_append_right _ (List.mem_append_left _ he))
  rw [World.turn_step] at hstep
  subst hstep
  have hends : ¬ ((w'.turn config (.perform (.commit force) p)).Finishes ∨
      (w'.turn config (.perform (.commit force) p)).Closes) := by
    rintro (⟨_, _, a, -, hok⟩ | ⟨_, hother⟩)
    · rw [hresult] at hok
      cases hok
    · cases hother
  refine ⟨?_, ?_⟩
  · cases hcourse with
    | shut _ _ silent =>
      rw [silent]
      exact List.not_mem_nil
    | works hworks => exact not_mem_of_undecided hworks.undecided rfl
    | idles ends | decides ends => exact absurd ends hends
  · obtain ⟨hperformed, hsession, -⟩ :=
      World.turn_after (Session.perform_commit config force (w'.scope p))
    rw [hresult] at hperformed
    rw [hsession, World.turn_before]
    rcases hx : ((Session.commit config force).outcome (w'.scope p)).1 with e' | a
    · exact Session.commit_error_dirty hx
    · rw [hx] at hperformed
      cases hperformed

include hmanual hr in
/-- A commit that ends well decides what was executed or queued, once and last of all. -/
theorem committed_of_pending (hfirm : ∀ e ∈ past.flatMap Turn.calls, e.falters = false)
    {older newer : List Turn} {t : Turn} (hpast : past = older ++ t :: newer) {force : Bool}
    {p : Parameter} {a : Session.Answer} (hstep : t.step = .perform (.commit force) p)
    (hresult : t.result = some (.ok a)) (hpending : Turn.Pending Turn.Leaves older) :
    ∃ evs, t.events = evs ++ [.committed] ∧ .committed ∉ evs ∧ t.after.queue = [] := by
  have hopen := hr.open_of_committed hpast hstep hresult
  have hkind : Turn.Pending (fun t => t.Leaves ∨ t.FailsToCommit) older := by
    obtain ⟨before, recent, rfl, hnot, t, ht, hleaves⟩ := hpending
    exact ⟨before, recent, rfl, hnot, t, ht, .inl hleaves⟩
  obtain hworks | ⟨evs, d, rest, hdecision, hevents, hundecided⟩ :=
    hr.works_or_decides hmanual hfirm hpast hkind hopen
  · exact absurd ⟨force, p, a, .inl hstep, hresult⟩ hworks.unfinished
  · cases hdecision with
    | commit =>
      refine ⟨evs, hevents, not_mem_of_undecided hundecided rfl, ?_⟩
      obtain ⟨w', step, run, rfl⟩ := hr.split hpast
      rw [World.turn_step] at hstep
      rw [World.turn_before] at hopen
      subst hstep
      have hempties : (Session.Operation.commit force).Empties := trivial
      exact World.queue_of_statements (run.tallied.spare config (Ledger.lasting db) hopen hempties p)
    | rollback hother | close hother => cases hstep.symm.trans hother

include hmanual hr in
/-- Closing the session rolls back what is owed, before it lets go of the connection. -/
theorem rolledBack_of_pending (hfirm : ∀ e ∈ past.flatMap Turn.calls, e.falters = false)
    {older newer : List Turn} {t : Turn} (hpast : past = older ++ t :: newer) (hcloses : t.Closes)
    (hopen : t.before.session.closed = false)
    (hpending : Turn.Pending (fun t => t.Leaves ∨ t.FailsToCommit) older) :
    ∃ evs rest, t.events = evs ++ .rolledBack :: rest ∧ .connectionClosed ∉ evs := by
  obtain hworks | ⟨evs, d, rest, hdecision, hevents, hundecided⟩ :=
    hr.works_or_decides hmanual hfirm hpast hpending hopen
  · exact absurd hcloses hworks.unclosed
  · obtain ⟨p, hstep⟩ := hcloses
    cases hdecision with
    | commit hother => cases hstep.symm.trans hother
    | rollback | close => exact ⟨evs, _, hevents, not_mem_of_undecided hundecided rfl⟩

include hmanual hr in
/-- In a session that does not commit by itself, and as long as no call that reads the mode of the
connection, commits or rolls back is refused: once the session is closed, there has been a decision
about all that was executed on account of an insert, an update or a delete, before the connection was
closed. A commit that ends well has committed what was executed or queued since the last decision,
once and last of all, and has left nothing in the queue. One that fails has not committed, and leaves
the session dirty if it was; closing it rolls back then. -/
theorem mutations_decided (hfirm : ∀ e ∈ past.flatMap Turn.calls, e.falters = false) :
    (w.session.closed = true → ∀ older t newer, past = older ++ t :: newer →
      ∀ before ev after, t.events = before ++ ev :: after → t.Changes ev →
        Decided (after ++ newer.flatMap Turn.events)) ∧
    (∀ older t newer, past = older ++ t :: newer → ∀ force p,
      t.step = .perform (.commit force) p →
        (∀ a, t.result = some (.ok a) → Turn.Pending Turn.Leaves older →
          ∃ evs, t.events = evs ++ [.committed] ∧ .committed ∉ evs ∧ t.after.queue = []) ∧
        (∀ e, t.result = some (.error e) →
          .committed ∉ t.events ∧ t.after.session.dirty = t.before.session.dirty)) ∧
    (∀ older t newer, past = older ++ t :: newer → t.Closes → t.before.session.closed = false →
      Turn.Pending (fun t => t.Leaves ∨ t.FailsToCommit) older →
        ∃ evs rest, t.events = evs ++ .rolledBack :: rest ∧ .connectionClosed ∉ evs) := by
  refine ⟨fun hclosed older t newer hpast before ev after hevents hc => ?_,
    fun older t newer hpast force p hstep => ⟨fun a hresult hpending => ?_, fun e hresult => ?_⟩,
    fun older t newer hpast hcloses hopen hpending => ?_⟩
  · obtain hdecided | ⟨howes, -⟩ := hr.decided_or_owes hmanual hfirm hpast hevents hc
    · exact hdecided
    · rw [howes.isOpen] at hclosed
      cases hclosed
  · exact hr.committed_of_pending hmanual hfirm hpast hstep hresult hpending
  · exact hr.uncommitted hmanual hfirm hpast hstep hresult
  · exact hr.rolledBack_of_pending hmanual hfirm hpast hcloses hopen hpending

end Run

def addedWorld : World := (smallWorld.turn smallConfig (insertStep "add")).after

def commitStep : Step := .perform (.commit false) .absent

/-- The queued insert is executed by the commit and then committed, after which the session is
closed. -/
theorem queued_insert_committed :
    ((addedWorld.turn smallConfig commitStep).after.turn smallConfig
        (.perform .close .absent)).after.session.closed = true ∧
      ∃ evs, (addedWorld.turn smallConfig commitStep).events = evs ++ [.committed] ∧
        .committed ∉ evs ∧ (addedWorld.turn smallConfig commitStep).after.queue = [] := by
  have hrun : Run smallConfig smallWorld _ ((addedWorld.turn smallConfig commitStep).after.turn
      smallConfig (.perform .close .absent)).after :=
    .turn (.turn (.turn .start (insertStep "add")) commitStep) _
  have hpending : Turn.Pending Turn.Leaves [smallWorld.turn smallConfig (insertStep "add")] := by
    refine ⟨[], _, rfl, fun t ht => ?_, _, List.mem_cons_self, .inr (List.cons_ne_nil _ _)⟩
    obtain rfl := List.mem_singleton.mp ht
    rintro ⟨_, _, _, hstep | hstep, -⟩ <;> cases hstep
  exact ⟨rfl, ((Run.mutations_decided (.overSource none smallDatabase) hrun (by decide)).2.1
    [smallWorld.turn smallConfig (insertStep "add")] _ [_] rfl false .absent rfl).1 .done rfl
      hpending⟩

end SqlMapper
