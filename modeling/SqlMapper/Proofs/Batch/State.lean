import SqlMapper.Proofs.Batch.Shift

namespace SqlMapper

open Fallible Batch

def World.queue (w : World) : List QueuedStatement :=
  match w.session.strategy with
  | .batch queue => queue
  | _ => []

def Turn.marks (t : Turn) : List Mark := t.calls.filterMap LogEntry.mark?

/-- The queue can be sent, cursors have nothing to do with it, and while there is something in it no
rows are remembered and the session is open. -/
structure World.Batched (w : World) : Prop where
  strategy : w.session.strategy = .batch w.queue
  ready : Ready w.queue w.database
  cursors : ∀ c ∈ w.cursors, ∀ s, c.statement = some s →
    s.index < w.database.statements.length ∧ s ∉ statements w.queue
  cache : w.queue ≠ [] → w.session.cache = .empty
  isOpen : w.queue ≠ [] → w.session.closed = false

namespace Batch

variable {config : Configuration} {queue queue' : List QueuedStatement} {x : Submission}
  {s : Statement} {db : Database}

theorem Ready.nil (db : Database) : Ready [] db :=
  ⟨fun _ hq => absurd hq List.not_mem_nil, fun _ hq => absurd hq List.not_mem_nil,
    fun _ hq => absurd hq List.not_mem_nil, .nil⟩

theorem Push.mem_statements (h : Push x queue s queue') : s ∈ statements queue' := by
  cases h <;> simp [statements, addParameter]

theorem Push.statements_subset (h : Push x queue s queue') :
    ∀ s' ∈ statements queue, s' ∈ statements queue' := by
  cases h <;> intro s' hs' <;> simp only [statements, addParameter, List.map_append,
    List.mem_append, List.map_cons, List.map_nil] at hs' ⊢
  · exact hs'
  · exact .inl hs'

theorem Push.old_of_mem (h : Push x queue s queue') {s' : Statement}
    (hs' : s' ∈ statements queue') : s' ∈ statements queue ∨ s' = s := by
  cases h <;> simp only [statements, addParameter, List.map_append, List.mem_append, List.map_cons,
    List.map_nil] at hs' ⊢
  · exact .inl hs'
  · obtain hs' | hs' := hs'
    · exact .inl hs'
    · exact .inr (List.mem_singleton.mp hs')

theorem Push.mem_iff_of_ne (h : Push x queue s queue') {q : QueuedStatement}
    (hne : q.statement ≠ s) : q ∈ queue' ↔ q ∈ queue := by
  cases h with
  | join init last =>
    have hnew : q ≠ addParameter last x.parameter := fun he => hne (he ▸ rfl)
    have hold : q ≠ last := fun he => hne (he ▸ rfl)
    simp [hnew, hold]
  | fresh =>
    have hnew : q ≠ ⟨s, x.invocation.command, x.invocation.bound.sql, [x.parameter]⟩ :=
      fun he => hne (he ▸ rfl)
    simp [hnew]

theorem Push.getLast (h : Push x queue s queue') :
    ∃ last, queue'.getLast? = some last ∧ last.statement = s := by
  cases h with
  | join init last => exact ⟨_, List.getLast?_concat, rfl⟩
  | fresh => exact ⟨_, List.getLast?_concat, rfl⟩

theorem Push.last_or_new (h : Push x queue s queue') {db : Database} (hready : Ready queue' db)
    {made : Nat} (hnew : s ∈ statements queue ∨ made ≤ s.index) :
    (∃ last, queue.getLast? = some last ∧ last.statement = s) ∨ made ≤ s.index := by
  cases h with
  | join init last => exact .inl ⟨_, List.getLast?_concat, rfl⟩
  | fresh => exact .inr (hnew.resolve_left hready.last_not_mem)

end Batch

namespace Turn

variable {config : Configuration} {t : Turn} {queue queue' : List QueuedStatement}

theorem Shift.length_le (h : t.Shift config queue queue') (hready : Ready queue t.before.database) :
    t.before.database.statements.length ≤ t.after.database.statements.length := by
  cases h with
  | kept apart => exact apart.length_le
  | accepted _ _ start finish accepts =>
    rw [← start, ← finish]
    exact (accepts.beside [] (List.forall_mem_nil _) nofun).length_le
  | @flushed u v r _ start flushes _ rest =>
    rw [← start] at hready ⊢
    obtain ⟨_, _, ha⟩ := flushes_advance hready flushes
    exact Nat.le_trans ha.beside.length_le rest.length_le
  | dropped settles => exact settles.length_le

theorem Shift.ready (h : t.Shift config queue queue') (hready : Ready queue t.before.database) :
    Ready queue' t.after.database := by
  cases h with
  | kept apart => exact hready.beside (.of_apart apart)
  | accepted _ _ _ finish accepts => exact finish ▸ accepts.ready
  | flushed => exact .nil _
  | dropped => exact .nil _

theorem Shift.queued_of_made (h : t.Shift config queue queue') {s : Statement}
    (hmade : s.index < t.before.database.statements.length) (hs : s ∈ statements queue') :
    s ∈ statements queue := by
  cases h with
  | kept => exact hs
  | accepted _ _ start _ accepts =>
    obtain hold | rfl := accepts.push.old_of_mem hs
    · exact hold
    · obtain hold | hnew := accepts.old_or_new
      · exact hold
      · rw [start] at hnew
        omega
  | flushed => cases hs
  | dropped => cases hs

theorem Shift.cache (h : t.Shift config queue queue')
    (hcache : queue ≠ [] → t.before.session.cache = .empty) (hne : queue' ≠ []) :
    t.after.session.cache = .empty := by
  cases h with
  | kept _ cache =>
    obtain hsame | hempty := cache
    · exact hsame.trans (hcache hne)
    · exact hempty
  | accepted _ _ _ _ _ cache => exact cache
  | flushed => exact absurd rfl hne
  | dropped => exact absurd rfl hne

end Turn

theorem Session.selectCursor_of_batch {config : Configuration} {id : String} {bounds : RowBounds}
    {queue : List QueuedStatement} {s : Scope} {c : Cursor}
    (hs : s.session.strategy = .batch queue) (hready : Ready queue s.database)
    (h : ((selectCursor config id bounds).outcome s).1 = .ok c) :
    ((selectCursor config id bounds).outcome s).2.session.strategy = .batch [] ∧
    ∀ st, c.statement = some st →
      st.index < ((selectCursor config id bounds).outcome s).2.database.statements.length := by
  cases hc : config.registry.find? id with
  | none =>
    rw [selectCursor_of_missing hc] at h
    cases h
  | some command =>
    obtain ⟨p, hout⟩ := selectCursor_of_found (s := s) hc bounds
    rw [hout] at h ⊢
    cases hopen : s.session.closed
    · have hflushed :=
        SessionM.openCursor_flushed config command bounds (s := s.wrapped) hopen hs hready
      obtain ⟨t, -, hfresh⟩ := SessionM.freshCursor_of_openCursor (Prod.ext h rfl)
      have hmade : ∀ st, c.statement = some st → _ := fun st => SessionM.freshCursor_made hfresh
      exact ⟨hflushed.strategy, hmade⟩
    · rw [SessionM.openCursor_of_closed (s := s.wrapped) hopen] at h
      cases h

namespace World

variable {config : Configuration} {w : World}

theorem queue_of_strategy {queue : List QueuedStatement} (h : w.session.strategy = .batch queue) :
    w.queue = queue := by
  rw [World.queue, h]

theorem onCursor_cursors {i : Nat} {work : Cursor → DriverM Cursor}
    (hwork : ∀ c (db : Database), Maintains (db.Apart []) (work c) c.From) {c' : Cursor}
    (hc : c' ∈ (w.onCursor i work).cursors) {s : Statement} (hs : c'.statement = some s) :
    ∃ c ∈ w.cursors, c.statement = some s := by
  unfold onCursor at hc
  split at hc
  · exact ⟨c', hc, hs⟩
  · next c hget =>
    have hfrom := (hwork c w.database _ (.self _)).2
    rcases hw : (work c).outcome w.database with ⟨e | c'', db⟩ <;> rw [hw] at hc hfrom
    · exact ⟨c', hc, hs⟩
    · obtain hold | rfl := List.mem_or_eq_of_mem_set hc
      · exact ⟨c', hold, hs⟩
      · exact ⟨c, List.mem_of_getElem? hget, hfrom _ rfl s hs⟩

theorem turn_cursors {step : Step} {c' : Cursor} (hc : c' ∈ (w.turn config step).after.cursors)
    {s : Statement} (hs : c'.statement = some s) :
    (∃ c ∈ w.cursors, c.statement = some s) ∨
    ∃ id bounds p, step = .perform (.selectCursor id bounds) p ∧
      ((Session.selectCursor config id bounds).outcome (w.scope p)).1 = .ok c' := by
  cases step with
  | perform op p =>
    simp only [turn_perform, World.following] at hc
    obtain hold | hnew := List.mem_append.mp hc
    · exact .inl ⟨c', hold, hs⟩
    · rcases hr : ((op.perform config).outcome (w.scope p)).1 with e | a <;> rw [hr] at hnew
      · cases hnew
      · cases a <;> first | cases List.mem_singleton.mp hnew | cases hnew
        obtain ⟨id, bounds, rfl⟩ := Session.Operation.selectCursor_of_cursor hr
        refine .inr ⟨id, bounds, p, rfl, ?_⟩
        rw [Session.perform_selectCursor] at hr
        rcases hx : ((Session.selectCursor config id bounds).outcome (w.scope p)).1 with e | c <;>
          rw [hx] at hr <;> cases hr
        rfl
  | fetch i =>
    exact .inl (onCursor_cursors (fun c _ => (c.next_apart fun _ _ => List.not_mem_nil).bind
      fun _ hr => .pure hr) hc hs)
  | closeCursor i =>
    exact .inl (onCursor_cursors (fun c _ => c.close_apart fun _ _ => List.not_mem_nil) hc hs)
  | rescript => exact .inl ⟨c', hc, hs⟩

theorem turn_closed {step : Step} (h : (w.turn config step).after.session.closed = true) :
    (w.session.closed = true ∧
      (w.turn config step).after.session.strategy = w.session.strategy) ∨
    (w.session.closed = false ∧ ∃ p, step = .perform .close p) := by
  by_cases hp : ∃ op p, step = .perform op p
  · obtain ⟨op, p, rfl⟩ := hp
    cases hopen : w.session.closed
    · obtain rfl | hop := Classical.em (op = .close)
      · exact .inr ⟨rfl, p, rfl⟩
      · have hkeep := Session.perform_closed config (s := w.scope p) hopen hop
        exact absurd (hkeep.symm.trans h) (by simp)
    · obtain ⟨d, p', he⟩ := Session.perform_of_closed config (s := w.scope p) hopen op
      exact .inl ⟨rfl, congrArg (fun s => s.session.strategy) he⟩
  · have hsame := turn_session config (w := w) fun op p he => hp ⟨op, p, he⟩
    rw [hsame] at h ⊢
    exact .inl ⟨h, rfl⟩

theorem queue_of_closing (hopen : w.session.closed = false)
    (hs : w.session.strategy = .batch w.queue) (p : Parameter) :
    (w.turn config (.perform .close p)).after.queue = [] := by
  have hstate := congrArg Prod.snd (Session.perform_close config (w.scope p))
  have hdropped := Session.close_dropped (s := w.scope p) hopen hs
  exact queue_of_strategy ((congrArg (fun s => s.session.strategy) hstate).trans hdropped.strategy)

namespace Batched

/-- Every turn is one of the shifts, and leaves a batch session as it should be. -/
theorem turn (config : Configuration) (h : w.Batched) (step : Step) :
    (w.turn config step).Shift config w.queue (w.turn config step).after.queue ∧
      (w.turn config step).after.Batched := by
  obtain ⟨queue', hstrategy, hshift⟩ := turn_shift config h.strategy h.ready
    (fun c hc s hs => (h.cursors c hc s hs).2) step
  rw [queue_of_strategy hstrategy]
  have hbefore : (w.turn config step).before = w := turn_before step
  refine ⟨hshift, by rwa [queue_of_strategy hstrategy], ?_, fun c hc s hs => ?_, fun hne => ?_,
    fun hne => ?_⟩
  · rw [queue_of_strategy hstrategy]
    exact hshift.ready (by rw [hbefore]; exact h.ready)
  · obtain ⟨c₀, hc₀, hs₀⟩ | ⟨id, bounds, p, rfl, hopened⟩ := turn_cursors hc hs
    · obtain ⟨hmade, hnot⟩ := h.cursors c₀ hc₀ s hs₀
      have hle := hshift.length_le (by rw [hbefore]; exact h.ready)
      rw [hbefore] at hle
      refine ⟨by omega, fun hmem => hnot ?_⟩
      rw [queue_of_strategy hstrategy] at hmem
      exact hshift.queued_of_made (by rw [hbefore]; exact hmade) hmem
    · obtain ⟨hempty, hmade⟩ := Session.selectCursor_of_batch (s := w.scope p) h.strategy h.ready
        hopened
      have hstate := congrArg Prod.snd (Session.perform_selectCursor config id
        bounds (w.scope p))
      have hq : (w.turn config (.perform (.selectCursor id bounds) p)).after.queue = [] :=
        queue_of_strategy ((congrArg (fun s => s.session.strategy) hstate).trans hempty)
      refine ⟨?_, by rw [hq]; exact List.not_mem_nil⟩
      have hlt := hmade s hs
      rwa [← congrArg (fun s : Scope => s.database.statements.length) hstate] at hlt
  · rw [queue_of_strategy hstrategy] at hne
    exact hshift.cache (by rw [hbefore]; exact h.cache) hne
  · by_contra hclosed
    rcases turn_closed (eq_true_of_ne_false hclosed) with
      ⟨hbefore, hsame⟩ | ⟨hopen, p, rfl⟩
    · have hqueue : (w.turn config step).after.queue = w.queue := by
        rw [World.queue, hsame, World.queue]
      rw [hqueue] at hne
      rw [h.isOpen hne] at hbefore
      cases hbefore
    · exact hne (queue_of_closing hopen h.strategy p)

theorem opened (db : Database) (tr : Transaction) (autoCommit : Bool) :
    (World.opened db .batch tr autoCommit).Batched :=
  ⟨rfl, .nil db, fun _ hc => absurd hc List.not_mem_nil, fun hne => absurd rfl hne,
    fun _ => rfl⟩

end Batched

end World

theorem Run.batched {config : Configuration} {start w : World} {past : List Turn}
    (hstart : start.Batched) (hr : Run config start past w) : w.Batched := by
  induction hr with
  | start => exact hstart
  | turn _ step ih => exact (ih.turn config step).2

def smallCommand (id : String) (kind : CommandKind) (sql : String) : Command :=
  (Command.ofSource id kind (.template ⟨sql, []⟩)).withDefaultKind .prepared

/-- Two inserts and a query. -/
def smallConfig : Configuration where
  settings := .standard
  registry := ((Registry.empty.insert (smallCommand "add" .insert "INSERT 1")).insert
    (smallCommand "all" .select "SELECT 1")).insert (smallCommand "put" .insert "INSERT 2")
  collections := .standard
  mapper := .byLabel false

/-- A database that executes no more than one entry of the second insert. -/
def smallDatabase : Database :=
  .ofScript (Script.empty.respond "INSERT 2"
    { Response.empty with batchFailure := some (1, "full") })

def smallWorld : World := .opened smallDatabase .batch (.overSource false none) false

def insertStep (id : String) : Step := .perform (.insert id) .absent

/-- The first insert has been queued once, then the second one twice. -/
def queuedWorld : World :=
  (((smallWorld.turn smallConfig (insertStep "add")).after.turn smallConfig
    (insertStep "put")).after.turn smallConfig (insertStep "put")).after

def queuedAdd : QueuedStatement :=
  ⟨⟨0⟩, smallCommand "add" .insert "INSERT 1", "INSERT 1", [.absent]⟩

def queuedPut : QueuedStatement :=
  ⟨⟨1⟩, smallCommand "put" .insert "INSERT 2", "INSERT 2", [.absent, .absent]⟩

theorem queuedWorld_run : ∃ past, Run smallConfig smallWorld past queuedWorld :=
  ⟨_, .turn (.turn (.turn .start _) _) _⟩

theorem queuedWorld_queue : queuedWorld.queue = [queuedAdd, queuedPut] := rfl

end SqlMapper
