import SqlMapper.Proofs.Batch.Failure
import SqlMapper.Proofs.Session.Balance
import SqlMapper.Proofs.Transaction.Ending

namespace SqlMapper

open Fallible

variable {α : Type} {config : Configuration} {type : ExecutorType}
  {H : Transaction → List Statement → Database → Prop}

namespace Database

/-- Calls between `db₀` and `db` have had nothing executed and have decided nothing. -/
structure Quiet (db₀ db : Database) : Prop where
  connections : db.connections = db₀.connections
  log : ∃ calls, db.log = db₀.log ++ calls ∧
    ∀ ev ∈ LogEntry.events calls, ev.ends = false ∧ ev.executes = false

namespace Quiet

variable {db₀ db db' : Database}

theorem refl (db : Database) : db.Quiet db :=
  ⟨rfl, [], (List.append_nil _).symm, fun _ hev => absurd hev List.not_mem_nil⟩

theorem record {call : Call} {o : CallOutcome} (h : db₀.Quiet db) (hlog : db'.log = db.log)
    (hsame : db'.connections = db.connections)
    (hquiet : ∀ ev, LogEntry.event? ⟨call, o⟩ = some ev → ev.ends = false ∧ ev.executes = false) :
    db₀.Quiet (db'.record call o) := by
  obtain ⟨calls, hcalls, hq⟩ := h.log
  refine ⟨hsame.trans h.connections, calls ++ [⟨call, o⟩], ?_, fun ev hev => ?_⟩
  · change db'.log ++ _ = _
    rw [hlog, hcalls, List.append_assoc]
  · obtain hev | hevent := LogEntry.mem_events_snoc hev
    · exact hq ev hev
    · exact hquiet ev hevent

theorem perform {call : Database → Call} {refusal : Database → Option Error}
    {act : Database → Database → Except Error α × Database}
    (hact : ∀ db, (act db db).2.log = db.log ∧ (act db db).2.connections = db.connections)
    (hquiet : ∀ db o ev, LogEntry.event? ⟨call db, o⟩ = some ev →
      ev.ends = false ∧ ev.executes = false) :
    Maintains db₀.Quiet (.of fun db => Database.perform (call db) (refusal db) (act db) db)
      fun _ => True := by
  have hafter : ∀ db r db', act db db = (r, db') →
      db'.log = db.log ∧ db'.connections = db.connections := by
    intro db r db' hr
    have h := hact db
    rwa [hr] at h
  refine Leads.maintains (Leads.perform (fun db h _ => h.record rfl rfl (hquiet db _))
    (fun db e db' h hr => ?_) fun db a db' h hr => ?_)
  · exact h.record (hafter _ _ _ hr).1 (hafter _ _ _ hr).2 (hquiet db _)
  · exact h.record (hafter _ _ _ hr).1 (hafter _ _ _ hr).2 (hquiet db _)

theorem nextRow (s : Statement) : Maintains db₀.Quiet s.nextRow fun _ => True := by
  refine perform (fun db => ?_) fun _ o ev hev => ?_
  · dsimp only
    split
    · exact ⟨rfl, rfl⟩
    · split <;> exact ⟨rfl, rfl⟩
  · cases LogEntry.event_of_event? hev

theorem closeQuietly (s : Statement) : Maintains db₀.Quiet s.closeQuietly fun _ => True := by
  have hevent : ∀ {sql : String} {o : CallOutcome} {ev : Event},
      LogEntry.event? ⟨.closeStatement s sql, o⟩ = some ev →
      ev.ends = false ∧ ev.executes = false := by
    intro sql o ev hev
    cases LogEntry.event_of_event? hev
    exact ⟨rfl, rfl⟩
  have hclose : Maintains db₀.Quiet s.close fun _ => True := by
    intro db h
    rw [Statement.close, outcome_of]
    dsimp only
    split
    · split
      · exact ⟨h, fun _ _ => trivial⟩
      · exact ⟨h.record rfl rfl fun ev hev => hevent hev, fun _ _ => trivial⟩
    · exact ⟨h.record rfl rfl fun ev hev => hevent hev, fun _ _ => trivial⟩
  refine Maintains.bind (V := fun _ => True) (fun _ h => ⟨h, fun _ _ => trivial⟩) fun closed _ => ?_
  split
  · exact .pure trivial
  · exact hclose.quietly

end Quiet

end Database

namespace World

def Connected (w : World) : Prop := w.session.transaction.connection? ≠ none

structure Owes (w : World) : Prop where
  connected : w.Connected
  dirty : w.session.dirty = true
  isOpen : w.session.closed = false

/-- A session that does not commit by itself. If it keeps statements it has a connection, and if it
has something in the queue it is dirty and open. -/
structure Manual (w : World) : Prop where
  mode : w.session.transaction.Manual w.database
  autoCommit : w.session.autoCommit = false
  connected : w.session.strategy.statements ≠ [] → w.Connected
  queued : w.queue ≠ [] → w.session.dirty = true ∧ w.session.closed = false

end World

namespace Turn

def Mutates (t : Turn) : Prop := ∃ op p id, t.step = .perform op p ∧ op.mutation? = some id

/-- A commit or a rollback that ended well. -/
def Finishes (t : Turn) : Prop :=
  ∃ force p a, (t.step = .perform (.commit force) p ∨ t.step = .perform (.rollback force) p) ∧
    t.result = some (.ok a)

def FailsToCommit (t : Turn) : Prop :=
  t.before.session.closed = false ∧
    ∃ force p e, t.step = .perform (.commit force) p ∧ t.result = some (.error e)

/-- The turn decides by the event `d`, after which there are only the events in `rest`. -/
inductive Decision (t : Turn) : Event → List Event → Prop where
  | commit {force : Bool} {p : Parameter} (step : t.step = .perform (.commit force) p) :
    Decision t .committed []
  | rollback {force : Bool} {p : Parameter} (step : t.step = .perform (.rollback force) p) :
    Decision t .rolledBack []
  | close {p : Parameter} (step : t.step = .perform .close p) {rest : List Event}
    (h : ∀ ev ∈ rest, ev = .connectionClosed) : Decision t .rolledBack rest

structure Works (t : Turn) : Prop where
  undecided : ∀ ev ∈ t.events, ev.ends = false
  connected : t.before.Connected → t.after.Connected
  dirty : t.before.session.dirty = true → t.after.session.dirty = true
  closed : t.after.session.closed = t.before.session.closed
  executed : (∃ ev ∈ t.events, ev.executes = true) →
    t.after.Connected ∧ t.after.session.closed = false ∧ (t.Mutates → t.after.session.dirty = true)
  unfinished : ¬ t.Finishes
  unclosed : ¬ t.Closes
  failed : t.FailsToCommit → t.before.queue ≠ []

inductive Course (t : Turn) : Prop where
  /-- The session is closed, and nothing happens. -/
  | shut (before : t.before.session.closed = true) (after : t.after.session.closed = true)
    (silent : t.events = [])
  | works (h : t.Works)
  /-- The transaction ends, but nothing had been changed. -/
  | idles (ends : t.Finishes ∨ t.Closes) (idle : t.before.session.dirty = true →
    ¬ t.before.Connected ∧ ∀ ev ∈ t.events, ev.executes = false)
  | decides {evs rest : List Event} {d : Event} (ends : t.Finishes ∨ t.Closes)
    (decision : t.Decision d rest) (events : t.events = evs ++ d :: rest)
    (undecided : ∀ ev ∈ evs, ev.ends = false)

end Turn

namespace World

variable {w : World} {op : Session.Operation} {p : Parameter}

theorem turn_after {r : Except Error Session.Answer} {u : Scope}
    (h : (op.perform config).outcome (w.scope p) = (r, u)) :
    (w.turn config (.perform op p)).result = some r ∧
      (w.turn config (.perform op p)).after.session = u.session ∧
      (w.turn config (.perform op p)).after.database = u.database := by
  rw [turn_perform, h]
  exact ⟨rfl, rfl, rfl⟩

theorem turn_events {step : Step} {calls : List LogEntry}
    (h : (w.turn config step).after.database.log = w.database.log ++ calls) :
    (w.turn config step).events = LogEntry.events calls :=
  congrArg LogEntry.events (calls_of_log h)

theorem turn_silent {step : Step}
    (h : (w.turn config step).after.database.log = w.database.log) :
    (w.turn config step).events = [] :=
  turn_events (h.trans (List.append_nil _).symm)

theorem queue_of_statements (h : w.session.strategy.statements = []) : w.queue = [] := by
  unfold queue
  split
  · next queue hst =>
    rw [hst] at h
    exact List.map_eq_nil_iff.mp h
  · rfl

theorem turn_mutates (h : (w.turn config (.perform op p)).Mutates) :
    ∃ id, op.mutation? = some id := by
  obtain ⟨op', p', id, hstep, hm⟩ := h
  rw [turn_step] at hstep
  cases hstep
  exact ⟨id, hm⟩

theorem onCursor_maintains {I : Database → Prop} {work : Cursor → DriverM Cursor}
    (hwork : ∀ c, Maintains I (work c) fun _ => True) (i : Nat) (h : I w.database) :
    I (w.onCursor i work).database := by
  unfold onCursor
  split
  · exact h
  · next c _ =>
    have hI := (hwork c w.database h).1
    rcases hx : (work c).outcome w.database with ⟨e | c', db⟩ <;> rw [hx] at hI <;> exact hI

variable (config) in
theorem turn_quiet {step : Step} (h : ∀ op p, step ≠ .perform op p) :
    w.database.Quiet (w.turn config step).after.database := by
  have hclose : ∀ s : Statement, Maintains w.database.Quiet s.closeQuietly fun _ => True :=
    Database.Quiet.closeQuietly
  cases step with
  | perform op p => exact absurd rfl (h op p)
  | fetch i =>
    exact onCursor_maintains (fun c => (c.next_maintains hclose Database.Quiet.nextRow).bind
      fun _ _ => .pure trivial) i (.refl w.database)
  | closeCursor i => exact onCursor_maintains (Cursor.close_maintains hclose) i (.refl w.database)
  | rescript script faults => exact ⟨rfl, [], (List.append_nil _).symm, nofun⟩

theorem turn_of_missing {id : String} (hm : op.mutation? = some id)
    (hc : config.registry.find? id = none) :
    (w.turn config (.perform op p)).result = some (.error (.commandNotFound id)) ∧
      (w.turn config (.perform op p)).events = [] := by
  have hx := Session.perform_mutation config hm (w.scope p)
  rw [Session.mutate_of_missing hc] at hx
  obtain ⟨hresult, -, hdatabase⟩ := turn_after hx
  exact ⟨hresult, turn_silent (congrArg Database.log hdatabase)⟩

theorem queued_or_accepted {step : Step} (hH : Lasting H) (hb : w.Balanced H type)
    (hbatch : type = .batch → w.Batched) (hq : (w.turn config step).after.queue ≠ []) :
    w.queue ≠ [] ∨ (w.turn config step).Accepted := by
  have hkind := (hb.turn config hH step).tends.kind
  have hne : type = .batch := by
    unfold queue at hq
    split at hq
    · next queue hst =>
      rw [← hkind]
      exact congrArg Strategy.executorType hst
    · exact absurd rfl hq
  have hshift := ((hbatch hne).turn config step).1
  generalize (w.turn config step).after.queue = queue' at hq hshift
  cases hshift with
  | kept => exact .inl hq
  | accepted accepted => exact .inr accepted
  | flushed | dropped => exact absurd rfl hq

namespace Manual

theorem owes (h : w.Manual) (hq : w.queue ≠ []) : w.Owes :=
  ⟨h.connected fun hnone => hq (queue_of_statements hnone), (h.queued hq).1, (h.queued hq).2⟩

theorem of_spare (hmode : w.session.transaction.Manual w.database)
    (hauto : w.session.autoCommit = false) (hnone : w.session.strategy.statements = []) : w.Manual :=
  ⟨hmode, hauto, fun hne => absurd hnone hne, fun hne => absurd (queue_of_statements hnone) hne⟩

theorem same {w' : World} {d : Bool} (h : w.Manual)
    (hsession : w'.session = { w.session with dirty := d })
    (hsame : w'.database.connections = w.database.connections) (hd : w.queue ≠ [] → d = true) :
    w'.Manual := by
  have hqueue : w'.queue = w.queue := by rw [queue, hsession, queue]
  refine ⟨?_, ?_, fun hne => ?_, fun hne => ?_⟩
  · rw [hsession]
    exact h.mode.of_connections hsame
  · rw [hsession]
    exact h.autoCommit
  · rw [hsession] at hne
    rw [Connected, hsession]
    exact h.connected hne
  · rw [hqueue] at hne
    rw [hsession]
    exact ⟨hd hne, (h.queued hne).2⟩

theorem tends (h : w.Manual) (hb : w.Balanced H type) (p : Parameter) :
    (w.scope p).Tends (AtWork w.database w.session.transaction) type [] := by
  refine ⟨hb.tends.kind, hb.tends.sorted, ?_, [], .refl h.mode ?_⟩
  · rw [List.append_nil]
    exact hb.tends.holding.inHand.left
  · rw [List.append_nil]
    exact h.connected

section Open

variable (hm : w.Manual) (hb : w.Balanced H type) (hopen : w.session.closed = false)

include hm hb in
theorem working (config : Configuration) (hop : ¬ op.Decides) (p : Parameter) :
    ∃ held, (∀ s ∈ (w.turn config (.perform op p)).after.session.strategy.statements, s ∈ held) ∧
      Working w.database w.session.transaction (w.turn config (.perform op p)).calls
        (w.turn config (.perform op p)).after.session.transaction held
        (w.turn config (.perform op p)).after.database := by
  obtain ⟨⟨r, u⟩, hx⟩ : ∃ x, (op.perform config).outcome (w.scope p) = x := ⟨_, rfl⟩
  obtain ⟨-, hsession, hdatabase⟩ := turn_after hx
  have hleads : Leads (Scope.Tends (AtWork w.database w.session.transaction) type [])
      (op.perform config) _ (Scope.Tends (AtWork w.database w.session.transaction) type []) :=
    Session.perform_tends (Working.custody w.database w.session.transaction) hop
  have htends : ∃ extra, u.Tends (AtWork w.database w.session.transaction) type extra := by
    cases r with
    | error e => exact ⟨_, hleads.error hx (hm.tends hb p)⟩
    | ok a => exact ⟨_, (hleads.ok hx (hm.tends hb p)).2⟩
  obtain ⟨extra, htends⟩ := htends
  obtain ⟨calls, hw⟩ := htends.holding.holds
  rw [calls_of_log (hdatabase ▸ hw.log), hsession, hdatabase]
  exact ⟨_, fun s hs => List.mem_append_left extra hs, hw⟩

include hm hb hopen in
theorem course_of_work (hop : ¬ op.Decides) (p : Parameter) :
    (w.turn config (.perform op p)).Works := by
  obtain ⟨held, -, hw⟩ := hm.working hb config hop p
  obtain ⟨c, d, hi, hd, hfound⟩ := Session.perform_inner config (s := w.scope p) hopen hop
  have hends : ¬ (w.turn config (.perform op p)).Finishes := by
    rintro ⟨force, p', a, hstep | hstep, -⟩ <;> rw [turn_step] at hstep <;> cases hstep <;>
      exact hop trivial
  have hcloses : ¬ (w.turn config (.perform op p)).Closes := by
    rintro ⟨p', hstep⟩
    rw [turn_step] at hstep
    cases hstep
    exact hop trivial
  have hfails : ¬ (w.turn config (.perform op p)).FailsToCommit := by
    rintro ⟨-, force, p', e, hstep, -⟩
    rw [turn_step] at hstep
    cases hstep
    exact hop trivial
  refine ⟨hw.undecided, hw.stays, fun hdirty => ?_, hi.closed, fun hx => ⟨hw.connected (.inr hx),
    hi.closed.trans hopen, fun hmut => ?_⟩, hends, hcloses, fun hf => absurd hf hfails⟩
  · exact hi.dirty.trans (hd hdirty)
  · obtain ⟨id, hid⟩ := turn_mutates hmut
    cases hc : config.registry.find? id with
    | none =>
      obtain ⟨ev, hev, -⟩ := hx
      rw [(turn_of_missing hid hc).2] at hev
      cases hev
    | some command => exact hi.dirty.trans (hfound id command hid hc)

include hm hb hopen in
theorem of_work (hH : Lasting H) (hbatch : type = .batch → w.Batched) (hop : ¬ op.Decides)
    (p : Parameter) :
    (w.turn config (.perform op p)).after.Manual := by
  obtain ⟨held, hheld, hw⟩ := hm.working hb config hop p
  obtain ⟨c, d, hi, hd, hfound⟩ := Session.perform_inner config (s := w.scope p) hopen hop
  refine ⟨hw.manual, hi.autoCommit.trans hm.autoCommit, fun hne => hw.connected (.inl ?_),
    fun hne => ⟨hi.dirty.trans ?_, hi.closed.trans hopen⟩⟩
  · rintro rfl
    exact hne (List.eq_nil_iff_forall_not_mem.mpr fun s hs => List.not_mem_nil (hheld s hs))
  · obtain hold | ⟨op', p', id, a, hstep, hid, hresult⟩ := queued_or_accepted hH hb hbatch hne
    · exact hd (hm.queued hold).1
    · rw [turn_step] at hstep
      cases hstep
      cases hc : config.registry.find? id with
      | none =>
        rw [(turn_of_missing hid hc).1] at hresult
        cases hresult
      | some command => exact hfound id command hid hc

end Open

end Manual

/-- From `w`, with the parameter object `p`, the work `x` comes before `call` is to decide, and `y` is
how that ends. -/
structure Ending (w : World) (p : Parameter) (type : ExecutorType) (call : Connection → Call)
    (force : Bool) (x : Except Error α × Scope) (y : Except Error Unit × Scope) : Prop where
  spare : x.2.Spare (AtWork w.database w.session.transaction) type []
  inner : ((w.scope p).withCache .empty).Inner x.2
  ended : Session.Ended call (w.session.mustFinish force) x y

namespace Ending

variable {call : Connection → Call} {d : Event} {force : Bool}
  {x : Except Error α × Scope} {y : Except Error Unit × Scope}

theorem commit (config : Configuration) (hm : w.Manual) (hb : w.Balanced H type)
    (hopen : w.session.closed = false) (p : Parameter) (force : Bool) :
    Ending w p type .commit force ((SessionM.flush config).outcome ((w.scope p).withCache .empty))
      ((Session.commit config force).outcome (w.scope p)) := by
  have hspare : ((SessionM.flush config).outcome ((w.scope p).withCache .empty)).2.Spare
      (AtWork w.database w.session.transaction) type [] :=
    (SessionM.flush_spare config (Working.custody _ _)).state ((hm.tends hb p).same rfl rfl rfl)
  obtain ⟨_, hw⟩ := hspare.tends.holding.holds
  refine ⟨hspare, (SessionM.flush_inner config _ (.refl _)).1, ?_⟩
  rw [Session.commit_of_open hopen]
  exact Session.finishing_ended (fun _ _ h => Transaction.commit_decision h) _ hw.manual

theorem rollback (hm : w.Manual) (hb : w.Balanced H type) (hopen : w.session.closed = false)
    (p : Parameter) (force : Bool) :
    Ending w p type .rollback force (SessionM.abandon.outcome ((w.scope p).withCache .empty))
      ((Session.rollback force).outcome (w.scope p)) := by
  have hspare : (SessionM.abandon.outcome ((w.scope p).withCache .empty)).2.Spare
      (AtWork w.database w.session.transaction) type [] :=
    (SessionM.abandon_spare (Working.custody _ _)).state ((hm.tends hb p).same rfl rfl rfl)
  obtain ⟨_, hw⟩ := hspare.tends.holding.holds
  refine ⟨hspare, (SessionM.abandon_inner _ (.refl _)).1, ?_⟩
  rw [Session.rollback_of_open hopen]
  exact Session.finishing_ended (fun _ _ h => Transaction.rollback_decision h) _ hw.manual

theorem after (h : Ending w p type call force x y) (hm : w.Manual) :
    y.2.session.transaction.Manual y.2.database ∧ y.2.session.autoCommit = false ∧
      y.2.session.strategy.statements = [] := by
  obtain ⟨_, hw⟩ := h.spare.tends.holding.holds
  obtain ⟨d, hsession⟩ := h.ended.session
  refine ⟨h.ended.manual hw.manual, ?_, ?_⟩ <;> rw [hsession]
  · exact h.inner.autoCommit.trans hm.autoCommit
  · exact h.spare.none

theorem manual (h : Ending w p type call force x y) (hm : w.Manual)
    (hperform : (op.perform config).outcome (w.scope p) = (y.1.map fun _ => .done, y.2)) :
    (w.turn config (.perform op p)).after.Manual := by
  obtain ⟨hmode, hauto, hnone⟩ := h.after hm
  obtain ⟨-, hsession, hdatabase⟩ := turn_after hperform
  rw [← hsession, ← hdatabase] at hmode
  rw [← hsession] at hauto hnone
  exact .of_spare hmode hauto hnone

/-- What is dirty is not let go without a decision where there is a connection. -/
theorem idle (hm : w.Manual) {calls : List LogEntry} {tr : Transaction} {held : List Statement}
    {db : Database} (hw : Working w.database w.session.transaction calls tr held db)
    (cause : w.session.mustFinish force = true → tr.connection? = none)
    (hdirty : w.session.dirty = true) :
    ¬ w.Connected ∧ ∀ ev ∈ LogEntry.events calls, ev.executes = false := by
  have hnone := cause (by simp [Session.mustFinish, hm.autoCommit, hdirty])
  refine ⟨fun hc => hw.stays hc hnone, fun ev hev => Bool.eq_false_iff.mpr fun hx => ?_⟩
  exact hw.connected (.inr ⟨ev, hev, hx⟩) hnone

theorem works_of_failed {t : Scope} {e : Error} {calls : List LogEntry} {held : List Statement}
    (hw : Working w.database w.session.transaction calls t.session.transaction held t.database)
    (hinner : ((w.scope p).withCache .empty).Inner t) (hopen : w.session.closed = false)
    (hperform : (op.perform config).outcome (w.scope p) = (.error e, t))
    (hmutation : op.mutation? = none) (hclose : op ≠ .close) (hqueue : w.queue ≠ []) :
    (w.turn config (.perform op p)).Works := by
  obtain ⟨hresult, hsession, hdatabase⟩ := turn_after hperform
  have hevents := turn_events (hdatabase ▸ hw.log)
  refine ⟨?_, ?_, ?_, ?_, ?_, ?_, ?_, fun _ => hqueue⟩
  · rw [hevents]
    exact hw.undecided
  · intro hc
    rw [Connected, hsession]
    exact hw.stays hc
  · intro hdirty
    rw [hsession]
    exact hinner.dirty.trans hdirty
  · rw [hsession]
    exact hinner.closed
  · rw [hevents, Connected, hsession]
    refine fun hx => ⟨hw.connected (.inr hx), hinner.closed.trans hopen, fun hmut => ?_⟩
    obtain ⟨id, hid⟩ := turn_mutates hmut
    cases hmutation.symm.trans hid
  · rintro ⟨_, _, a, -, ha⟩
    cases hresult.symm.trans ha
  · rintro ⟨p', hstep⟩
    cases hstep
    exact hclose rfl

theorem course (h : Ending w p type call force x y) (hm : w.Manual)
    (hopen : w.session.closed = false)
    (hop : op = .commit force ∧ d = .committed ∨ op = .rollback force ∧ d = .rolledBack)
    (hperform : (op.perform config).outcome (w.scope p) = (y.1.map fun _ => .done, y.2))
    (hfirm : ∀ e ∈ (w.turn config (.perform op p)).calls, e.falters = false)
    (hcall : ∀ c, (call c).event? = some d) (hfailed : ∀ e, x.1 = .error e → w.queue ≠ []) :
    (w.turn config (.perform op p)).Course := by
  obtain ⟨calls, hw⟩ := h.spare.tends.holding.holds
  obtain ⟨hresult, -, hdatabase⟩ := turn_after hperform
  have hends : ∀ a, (w.turn config (.perform op p)).result = some (.ok a) →
      (w.turn config (.perform op p)).Finishes := by
    intro a ha
    obtain ⟨rfl, -⟩ | ⟨rfl, -⟩ := hop
    · exact ⟨force, p, a, .inl rfl, ha⟩
    · exact ⟨force, p, a, .inr rfl, ha⟩
  have hinner := h.inner
  cases h.ended with
  | failed herror =>
    obtain ⟨hmutation, hclose⟩ : op.mutation? = none ∧ op ≠ .close := by
      obtain ⟨rfl, -⟩ | ⟨rfl, -⟩ := hop <;> exact ⟨rfl, Session.Operation.noConfusion⟩
    exact .works (works_of_failed hw hinner hopen hperform hmutation hclose (hfailed _ herror))
  | falters hlog _ hf =>
    obtain ⟨e, he, hfalters⟩ := hf
    rw [hw.log, List.append_assoc] at hlog
    have hcalls := calls_of_log ((congrArg Database.log hdatabase).trans hlog)
    have hnot := hfirm e (hcalls ▸ List.mem_append_right _ he)
    rw [hfalters] at hnot
    cases hnot
  | idle cause =>
    refine .idles (.inl (hends _ hresult)) fun hdirty => ?_
    rw [turn_events (hdatabase ▸ hw.log)]
    exact idle hm hw cause hdirty
  | @decided c _ _ _ hlog _ =>
    rw [hw.log, List.append_assoc] at hlog
    have hevents := turn_events ((congrArg Database.log hdatabase).trans hlog)
    rw [LogEntry.events_append, LogEntry.events_decision (hcall c)] at hevents
    refine .decides (.inl (hends _ hresult)) ?_ hevents hw.undecided
    obtain ⟨rfl, rfl⟩ | ⟨rfl, rfl⟩ := hop
    · exact .commit rfl
    · exact .rollback rfl

theorem manual_of_close (config : Configuration) (hm : w.Manual) (hb : w.Balanced H type)
    (hopen : w.session.closed = false) (p : Parameter) :
    (w.turn config (.perform .close p)).after.Manual := by
  obtain ⟨hmode, hauto, hnone⟩ := (rollback hm hb hopen p false).after hm
  have hperform := Session.perform_close config (w.scope p)
  rw [Session.close_of_open (s := w.scope p) hopen] at hperform
  obtain ⟨-, hsession, -⟩ := turn_after hperform
  refine .of_spare ⟨?_, fun c hc => ?_⟩ ?_ ?_
  · rw [hsession]
    exact hmode.mode
  · rw [hsession] at hc
    cases hc
  · rw [hsession]
    exact hauto
  · rw [hsession]
    exact hnone

theorem course_of_close (hm : w.Manual) (hb : w.Balanced H type)
    (hopen : w.session.closed = false) (p : Parameter)
    (hfirm : ∀ e ∈ (w.turn config (.perform .close p)).calls, e.falters = false) :
    (w.turn config (.perform .close p)).Course := by
  have h := rollback hm hb hopen p false
  have hperform := Session.perform_close config (w.scope p)
  rw [Session.close_of_open (s := w.scope p) hopen] at hperform
  obtain ⟨-, -, hdatabase⟩ := turn_after hperform
  generalize (Session.rollback false).outcome (w.scope p) = y at h hdatabase
  -- giving up the statements cannot fail, so that the rollback is attempted in any case
  have hx := SessionM.abandon_ok ((w.scope p).withCache .empty)
  generalize SessionM.abandon.outcome ((w.scope p).withCache .empty) = x at h hx
  obtain ⟨calls, hw⟩ := h.spare.tends.holding.holds
  obtain ⟨closing, hclosing, hclosed⟩ :=
    y.2.session.transaction.closeConnection_log y.2.database
  have hlog : ∀ {calls'}, y.2.database.log = w.database.log ++ calls' →
      (w.turn config (.perform .close p)).after.database.log =
        w.database.log ++ (calls' ++ closing) := by
    intro calls' h
    rw [hdatabase, ← List.append_assoc, ← h]
    exact hclosing
  have hcloses : (w.turn config (.perform .close p)).Closes := ⟨p, rfl⟩
  cases h.ended with
  | failed herror =>
    rw [hx] at herror
    cases herror
  | @falters _ _ calls' hlog' _ hf =>
    obtain ⟨e, he, hfalters⟩ := hf
    rw [hw.log, List.append_assoc] at hlog'
    have hcalls := calls_of_log (hlog hlog')
    have hnot := hfirm e (hcalls ▸ List.mem_append_left _ (List.mem_append_right _ he))
    rw [hfalters] at hnot
    cases hnot
  | idle cause =>
    refine .idles (.inr hcloses) fun hdirty => ?_
    obtain ⟨hc, hquiet⟩ := idle hm hw cause hdirty
    refine ⟨hc, fun ev hev => ?_⟩
    rw [turn_events (hlog hw.log), LogEntry.events_append] at hev
    obtain hev | hev := List.mem_append.mp hev
    · exact hquiet ev hev
    · rw [hclosed ev hev]
      rfl
  | @decided c _ _ _ hlog' _ =>
    rw [hw.log, List.append_assoc] at hlog'
    have hevents := turn_events (hlog hlog')
    rw [LogEntry.events_append, LogEntry.events_append, LogEntry.events_decision rfl,
      List.append_assoc] at hevents
    exact .decides (.inr hcloses) (.close rfl hclosed) hevents hw.undecided

end Ending

namespace Manual

variable {step : Step}

theorem works_of_cursor (config : Configuration) (h : ∀ op p, step ≠ .perform op p) :
    (w.turn config step).Works := by
  obtain ⟨-, calls, hlog, hquiet⟩ := w.turn_quiet config h
  have hevents := turn_events hlog
  have hsession := w.turn_session config h
  have hstep : ∀ {op p}, (w.turn config step).step ≠ .perform op p := by
    intro op p he
    rw [turn_step] at he
    exact h op p he
  refine ⟨fun ev hev => (hquiet ev (hevents ▸ hev)).1, fun hc => ?_, fun hdirty => ?_, ?_,
    fun hx => ?_, ?_, ?_, ?_⟩
  · rw [turn_before] at hc
    rwa [Connected, hsession]
  · rw [turn_before] at hdirty
    rwa [hsession]
  · rw [hsession, turn_before]
  · obtain ⟨ev, hev, hx⟩ := hx
    rw [hevents] at hev
    rw [(hquiet ev hev).2] at hx
    cases hx
  · rintro ⟨_, _, _, he | he, -⟩ <;> exact absurd he hstep
  · rintro ⟨_, he⟩
    exact absurd he hstep
  · rintro ⟨-, _, _, _, he, -⟩
    exact absurd he hstep

theorem course (config : Configuration) (hm : w.Manual) (hb : w.Balanced H type) (step : Step)
    (hfirm : ∀ e ∈ (w.turn config step).calls, e.falters = false) :
    (w.turn config step).Course := by
  by_cases hp : ∃ op p, step = .perform op p
  · obtain ⟨op, p, rfl⟩ := hp
    cases hopen : w.session.closed with
    | true =>
      obtain ⟨d, hsession, hdatabase⟩ := w.turn_of_closed config op p hopen
      refine .shut hopen ?_ (turn_silent (congrArg Database.log hdatabase))
      rw [hsession]
      exact hopen
    | false =>
      by_cases hop : op.Decides
      · cases op with
        | commit force =>
          refine (Ending.commit config hm hb hopen p force).course hm hopen (.inl ⟨rfl, rfl⟩)
            (Session.perform_commit config force _) hfirm (fun _ => rfl) fun e he => ?_
          obtain ⟨q, queue, hst⟩ := SessionM.strategy_of_flush_error he
          rw [queue_of_strategy hst]
          exact List.cons_ne_nil q queue
        | rollback force =>
          refine (Ending.rollback hm hb hopen p force).course hm hopen (.inr ⟨rfl, rfl⟩)
            (Session.perform_rollback config force _) hfirm (fun _ => rfl) fun e he => ?_
          rw [SessionM.abandon_ok] at he
          cases he
        | close => exact Ending.course_of_close hm hb hopen p hfirm
        | _ => exact hop.elim
      · exact .works (hm.course_of_work hb hopen hop p)
  · exact .works (works_of_cursor config fun op p he => hp ⟨op, p, he⟩)

theorem turn (config : Configuration) (hH : Lasting H) (hm : w.Manual) (hb : w.Balanced H type)
    (hbatch : type = .batch → w.Batched) (step : Step) : (w.turn config step).after.Manual := by
  by_cases hp : ∃ op p, step = .perform op p
  · obtain ⟨op, p, rfl⟩ := hp
    cases hopen : w.session.closed with
    | true =>
      obtain ⟨d, hsession, hdatabase⟩ := w.turn_of_closed config op p hopen
      refine hm.same hsession (congrArg Database.connections hdatabase) fun hne => ?_
      rw [(hm.queued hne).2] at hopen
      cases hopen
    | false =>
      by_cases hop : op.Decides
      · cases op with
        | commit force =>
          exact (Ending.commit config hm hb hopen p force).manual hm
            (Session.perform_commit config force _)
        | rollback force =>
          exact (Ending.rollback hm hb hopen p force).manual hm
            (Session.perform_rollback config force _)
        | close => exact Ending.manual_of_close config hm hb hopen p
        | _ => exact hop.elim
      · exact hm.of_work hb hopen hH hbatch hop p
  · have h : ∀ op p, step ≠ .perform op p := fun op p he => hp ⟨op, p, he⟩
    exact hm.same (w.turn_session config h) (w.turn_quiet config h).connections
      fun hne => (hm.queued hne).1

end Manual

end World

end SqlMapper
