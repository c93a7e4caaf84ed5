import SqlMapper.Proofs.Batch.Accepting
import SqlMapper.Proofs.Batch.Effect

namespace SqlMapper

open Fallible Batch

namespace Session.Operation

variable {config : Configuration} {op : Operation} {s : Scope} {a : Answer}

theorem flushStatements_of_batches {results : List BatchResult}
    (h : ((op.perform config).outcome s).1 = .ok (.batches results)) : op = .flushStatements := by
  cases op with
  | flushStatements => rfl
  | _ =>
    obtain ⟨b, t, -, hb⟩ := ok_of_bind_ok (Prod.ext h rfl)
    cases hb

theorem mutation?_of_sends (h : op.Sends) : op.mutation? = none := by
  cases op <;> first | rfl | cases h

theorem sends_of_query {q : String × RowBounds × Option RowHandler} (h : op.query? = some q) :
    op.Sends := by
  cases op <;> cases h <;> trivial

theorem selectCursor_of_cursor {c : Cursor}
    (h : ((op.perform config).outcome s).1 = .ok (.cursor c)) :
    ∃ id bounds, op = .selectCursor id bounds := by
  cases op with
  | selectCursor id bounds => exact ⟨id, bounds, rfl⟩
  | _ =>
    obtain ⟨b, t, -, hb⟩ := ok_of_bind_ok (Prod.ext h rfl)
    cases hb

end Session.Operation

namespace Turn

variable (config : Configuration) (t : Turn)

/-- The turn is a mutation that ended well. -/
def Accepted : Prop :=
  ∃ op p id a, t.step = .perform op p ∧ op.mutation? = some id ∧ t.result = some (.ok a)

def submission? : Option Submission :=
  match t.step with
  | .perform op p => do
    let c ← config.registry.find? (← op.mutation?)
    (SessionM.submission config c ((t.before.scope p).withDirty true).wrapped).toOption
  | _ => none

def Sends : Prop := ∃ op p, t.step = .perform op p ∧ op.Sends

def RollsBack : Prop := ∃ force p, t.step = .perform (.rollback force) p

def Closes : Prop := ∃ p, t.step = .perform .close p

def Answers (results : List BatchResult) : Prop := t.result = some (.ok (.batches results))

/-- What a turn may do to the queue: leave it, add to it, send it or drop it. -/
inductive Shift (queue : List QueuedStatement) : List QueuedStatement → Prop where
  | kept (apart : t.before.database.Apart (statements queue) t.after.database)
    (cache : t.after.session.cache = t.before.session.cache ∨ t.after.session.cache = .empty)
    (refused : ¬ t.Accepted) (unanswered : ∀ results, ¬ t.Answers results)
    (cause : t.Sends → (∃ e, t.result = some (.error e)) ∨ t.before.session.cache ≠ .empty) :
    Shift queue queue
  | accepted {x : Submission} {s u : Scope} {st : Statement} {queue' : List QueuedStatement}
    (accepted : t.Accepted) (submits : t.submission? config = some x)
    (start : s.database = t.before.database) (finish : u.database = t.after.database)
    (accepts : Accepts x queue s u st queue') (cache : t.after.session.cache = .empty) :
    Shift queue queue'
  | flushed {u v : Scope} {r : Except Error (List BatchResult)} (sends : t.Sends)
    (start : u.database = t.before.database) (flushes : Flushes config queue u r v)
    (error : ∀ e, r = .error e → t.result = some (.error e) ∧ t.after.database = v.database)
    (rest : v.database.Settles t.after.database) (refused : ¬ t.Accepted)
    (answers : ∀ results, t.Answers results → r = .ok results) : Shift queue []
  | dropped (settles : t.before.database.Settles t.after.database)
    (unsent : t.RollsBack ∨ t.Closes) (unanswered : ∀ results, ¬ t.Answers results) : Shift queue []

end Turn

namespace World

variable {config : Configuration} {w : World} {queue : List QueuedStatement}
  {op : Session.Operation} {p : Parameter}

variable (config) in
theorem not_accepted (h : op.mutation? = none) : ¬ (w.turn config (.perform op p)).Accepted := by
  rintro ⟨op', p', id, a, hs, hm, -⟩
  rw [turn_step] at hs
  cases hs
  cases h.symm.trans hm

theorem not_sends {β : Prop} (h : ¬ op.Sends) (hs : (w.turn config (.perform op p)).Sends) : β := by
  obtain ⟨op', p', hstep, hsends⟩ := hs
  rw [turn_step] at hstep
  cases hstep
  exact (h hsends).elim

theorem not_answers (h : op ≠ .flushStatements) (results : List BatchResult) :
    ¬ (w.turn config (.perform op p)).Answers results := fun ha =>
  h (Session.Operation.flushStatements_of_batches (Option.some.inj ha))

theorem shift_of_effect (hsends : op.Sends) (hf : op ≠ .flushStatements)
    (hready : Ready queue w.database)
    (h : Effect config queue (w.scope p) ((op.perform config).outcome (w.scope p))) :
    ∃ queue', (w.turn config (.perform op p)).after.session.strategy = .batch queue' ∧
      (w.turn config (.perform op p)).Shift config queue queue' := by
  have hna := w.not_accepted config (p := p)
    (Session.Operation.mutation?_of_sends hsends)
  cases h with
  | idle database strategy cache cause =>
    refine ⟨queue, strategy, .kept ?_ cache hna (not_answers hf) fun _ => ?_⟩
    · have hd : (w.turn config (.perform op p)).after.database = w.database := database
      rw [hd]
      exact .refl hready.made_statements
    · obtain ⟨e, he⟩ | hne := cause
      · exact .inl ⟨e, congrArg some he⟩
      · exact .inr hne
  | flushed h =>
    obtain ⟨⟨u, v, r, hu, hflush, herror, hrest⟩, hstrategy⟩ := h
    exact ⟨[], hstrategy, .flushed ⟨op, p, rfl, hsends⟩ hu hflush
      (fun e he => ⟨congrArg some (herror e he).1, (herror e he).2⟩) hrest hna
      fun results ha => (not_answers hf results ha).elim⟩

theorem shift_of_dropped (h : Session.Dropped (w.scope p) ((op.perform config).outcome (w.scope p)))
    (hf : op ≠ .flushStatements)
    (hu : (w.turn config (.perform op p)).RollsBack ∨ (w.turn config (.perform op p)).Closes) :
    ∃ queue', (w.turn config (.perform op p)).after.session.strategy = .batch queue' ∧
      (w.turn config (.perform op p)).Shift config queue queue' :=
  ⟨[], h.strategy, .dropped h.settles hu (not_answers hf)⟩

theorem shift_of_clearCache (hopen : w.session.closed = false)
    (hs : w.session.strategy = .batch queue) (hready : Ready queue w.database) :
    ∃ queue', (w.turn config (.perform .clearCache p)).after.session.strategy = .batch queue' ∧
      (w.turn config (.perform .clearCache p)).Shift config queue queue' := by
  have hstate : ((Session.Operation.clearCache.perform config).outcome (w.scope p)).2 =
      (w.scope p).withCache .empty := by
    rw [Session.perform_clearCache, Session.clearCache_of_open (s := w.scope p) hopen]
  refine ⟨queue, (congrArg (fun s => s.session.strategy) hstate).trans hs, .kept ?_
    (.inr (congrArg (fun s => s.session.cache) hstate)) (not_accepted config rfl)
    (not_answers nofun) (not_sends id)⟩
  rw [show (w.turn config (.perform .clearCache p)).after.database = w.database from
    congrArg Scope.database hstate]
  exact .refl hready.made_statements

theorem shift_of_closed (hclosed : w.session.closed = true)
    (hs : w.session.strategy = .batch queue) (hready : Ready queue w.database) :
    ∃ queue', (w.turn config (.perform op p)).after.session.strategy = .batch queue' ∧
      (w.turn config (.perform op p)).Shift config queue queue' := by
  obtain ⟨d, p', he⟩ := Session.perform_of_closed config (s := w.scope p) hclosed op
  have hsession : (w.turn config (.perform op p)).after.session = { w.session with dirty := d } :=
    congrArg Scope.session he
  have hdatabase : (w.turn config (.perform op p)).after.database = w.database :=
    congrArg Scope.database he
  have hrefused : op.Sends ∨ op.mutation? ≠ none →
      ∃ e, (w.turn config (.perform op p)).result = some (.error e) := fun h => by
    obtain ⟨e, _, _, he⟩ := Session.perform_refused config (s := w.scope p) hclosed h
    exact ⟨e, congrArg some (congrArg Prod.fst he)⟩
  refine ⟨queue, by rw [hsession]; exact hs,
    .kept ?_ (.inl (by rw [hsession, turn_before])) ?_ ?_ ?_⟩
  · rw [hdatabase]
    exact .refl hready.made_statements
  · rintro ⟨op', p'', id, a, hstep, hm, ha⟩
    rw [turn_step] at hstep
    cases hstep
    obtain ⟨e, he⟩ := hrefused (.inr (by simp [hm]))
    cases he.symm.trans ha
  · intro results ha
    cases Session.Operation.flushStatements_of_batches (Option.some.inj ha)
    obtain ⟨e, he⟩ := hrefused (.inl trivial)
    cases he.symm.trans ha
  · rintro ⟨op', p'', hstep, hsends⟩
    rw [turn_step] at hstep
    cases hstep
    exact .inl (hrefused (.inl hsends))

theorem shift_of_failed {e : Error}
    (hresult : (w.turn config (.perform op p)).result = some (.error e))
    (hstrategy : (w.turn config (.perform op p)).after.session.strategy = .batch queue)
    (hapart : w.database.Apart (statements queue) (w.turn config (.perform op p)).after.database)
    (hcache : (w.turn config (.perform op p)).after.session.cache = w.session.cache ∨
      (w.turn config (.perform op p)).after.session.cache = .empty) :
    ∃ queue', (w.turn config (.perform op p)).after.session.strategy = .batch queue' ∧
      (w.turn config (.perform op p)).Shift config queue queue' := by
  refine ⟨queue, hstrategy, .kept hapart hcache ?_ (fun results ha => ?_) fun _ => .inl ⟨e, hresult⟩⟩
  · rintro ⟨op', p', id', a, -, -, ha⟩
    cases hresult.symm.trans ha
  · cases hresult.symm.trans ha

theorem submission?_of_found {id : String} {c : Command} {x : Submission}
    (hm : op.mutation? = some id) (hc : config.registry.find? id = some c)
    (hx : SessionM.submission config c ((w.scope p).withDirty true).wrapped = .ok x) :
    (w.turn config (.perform op p)).submission? config = some x := by
  rw [Turn.submission?, turn_step]
  dsimp only
  rw [hm, Option.bind_eq_bind, Option.bind_some, hc, turn_before, Option.bind_eq_bind,
    Option.bind_some, hx]
  rfl

theorem shift_of_mutation {id : String} (hm : op.mutation? = some id)
    (hopen : w.session.closed = false) (hs : w.session.strategy = .batch queue)
    (hready : Ready queue w.database) :
    ∃ queue', (w.turn config (.perform op p)).after.session.strategy = .batch queue' ∧
      (w.turn config (.perform op p)).Shift config queue queue' := by
  obtain ⟨hresult, hdatabase, hsession⟩ := turn_mutation config (w := w) (p := p) hm
  cases hc : config.registry.find? id with
  | none =>
    rw [Session.mutate_of_missing hc] at hresult hdatabase hsession
    refine shift_of_failed hresult (by rw [hsession]; exact hs) ?_ (.inl (by rw [hsession]; rfl))
    rw [hdatabase]
    exact .refl hready.made_statements
  | some c =>
    obtain ⟨p', hout⟩ := Session.mutate_of_found (s := w.scope p) hc
    rw [hout] at hresult hdatabase hsession
    rcases SessionM.mutate_of_batch config c
      (s := ((w.scope p).withDirty true).wrapped) hopen hs hready with
      ⟨e, t, hx, hapart⟩ | ⟨x, t, st, queue', hx, hsubmission, haccepts⟩ <;>
      rw [hx] at hresult hdatabase hsession
    · have ha := hapart (statements queue) hready.made_statements
      refine shift_of_failed hresult ?_ ?_ (.inr ?_)
      · rw [hsession]
        exact ha.strategy_eq.trans hs
      · rw [hdatabase]
        exact ha.database
      · rw [hsession]
        exact ha.cache_eq
    · have hstrategy := congrArg Session.strategy haccepts.session
      have hcache := congrArg Session.cache haccepts.session
      refine ⟨queue', by rw [hsession]; exact hstrategy, .accepted (u := t)
        ⟨op, p, id, _, rfl, hm, hresult⟩ (submission?_of_found hm hc hsubmission) rfl
        hdatabase.symm haccepts ?_⟩
      rw [hsession]
      exact hcache

theorem shift_of_flushStatements (hopen : w.session.closed = false)
    (hs : w.session.strategy = .batch queue) (hready : Ready queue w.database) :
    ∃ queue', (w.turn config (.perform .flushStatements p)).after.session.strategy = .batch queue' ∧
      (w.turn config (.perform .flushStatements p)).Shift config queue queue' := by
  obtain ⟨r, v, hflush, h⟩ := exists_flushes config queue (w.scope p)
  have hout : (Session.Operation.flushStatements.perform config).outcome (w.scope p) =
      (r.map .batches, v) := by
    rw [Session.perform_flushStatements, Session.flushStatements_of_open (s := w.scope p) hopen,
      SessionM.flush, SessionM.outcome_session_bind, show (w.scope p).session.strategy = _ from hs]
    dsimp only
    rw [hflush]
  have hresult : (w.turn config (.perform .flushStatements p)).result = some (r.map .batches) :=
    congrArg some (congrArg Prod.fst hout)
  have hafter : (w.turn config (.perform .flushStatements p)).after.database = v.database :=
    congrArg (fun x => x.2.database) hout
  refine ⟨[], (congrArg (fun x => x.2.session.strategy) hout).trans (strategy_of_flushes hready h),
    .flushed (u := w.scope p) ⟨_, p, rfl, trivial⟩ rfl h (fun e he => ⟨?_, hafter⟩) ?_
      (not_accepted config rfl) fun results ha => ?_⟩
  · rw [hresult, he]
    rfl
  · rw [hafter]
    exact .refl _
  · have hr := Option.some.inj (hresult.symm.trans ha)
    cases r with
    | error e => cases hr
    | ok found =>
      cases hr
      rfl

theorem shift_of_query {id : String} {bounds : RowBounds} {handler : Option RowHandler}
    (hq : op.query? = some (id, bounds, handler)) (hopen : w.session.closed = false)
    (hs : w.session.strategy = .batch queue) (hready : Ready queue w.database) :
    ∃ queue', (w.turn config (.perform op p)).after.session.strategy = .batch queue' ∧
      (w.turn config (.perform op p)).Shift config queue queue' := by
  have hf := Session.perform_query config hq (w.scope p)
  have hne : op ≠ .flushStatements := by
    rintro rfl
    cases hq
  refine shift_of_effect (Session.Operation.sends_of_query hq) hne hready ?_
  exact (Session.query_effect (s := w.scope p) hopen hs hready).transfer rfl (.inl rfl)
    (congrArg Scope.database hf.state) (congrArg (fun s => s.session.strategy) hf.state)
    (congrArg (fun s => s.session.cache) hf.state) hf.error

theorem shift_of_perform (op : Session.Operation) (p : Parameter)
    (hs : w.session.strategy = .batch queue) (hready : Ready queue w.database) :
    ∃ queue', (w.turn config (.perform op p)).after.session.strategy = .batch queue' ∧
      (w.turn config (.perform op p)).Shift config queue queue' := by
  cases hopen : w.session.closed
  · cases op with
    | insert id | update id | delete id => exact shift_of_mutation rfl hopen hs hready
    | selectOne | selectList | selectMap | selectWithHandler =>
      exact shift_of_query rfl hopen hs hready
    | selectCursor id bounds =>
      refine shift_of_effect trivial nofun hready ?_
      rw [Session.perform_selectCursor]
      have heffect := Session.selectCursor_effect config id bounds (s := w.scope p) hopen hs hready
      exact heffect.transfer rfl (.inl rfl) rfl rfl rfl fun e he => by rw [he]; rfl
    | flushStatements => exact shift_of_flushStatements hopen hs hready
    | commit force =>
      refine shift_of_effect trivial nofun hready (.flushed ?_)
      rw [Session.perform_commit]
      exact (Session.commit_flushed (s := w.scope p) force hopen hs hready).transfer rfl rfl rfl
        fun e he => by rw [he]; rfl
    | rollback force =>
      refine shift_of_dropped ?_ nofun (.inl ⟨force, p, rfl⟩)
      rw [Session.perform_rollback]
      obtain ⟨hsettles, hstrategy⟩ := Session.rollback_dropped (s := w.scope p) force hopen hs
      exact ⟨hsettles, hstrategy⟩
    | clearCache =>
      exact shift_of_clearCache hopen hs hready
    | close =>
      refine shift_of_dropped ?_ nofun (.inr ⟨p, rfl⟩)
      rw [Session.perform_close]
      obtain ⟨hsettles, hstrategy⟩ := Session.close_dropped (s := w.scope p) hopen hs
      exact ⟨hsettles, hstrategy⟩
  · exact shift_of_closed hopen hs hready

theorem onCursor_apart {kept : List Statement} {i : Nat} {work : Cursor → DriverM Cursor}
    (hkept : ∀ s ∈ kept, s.index < w.database.statements.length)
    (hcursors : ∀ c ∈ w.cursors, ∀ s, c.statement = some s → s ∉ kept)
    (hwork : ∀ c, (∀ s, c.statement = some s → s ∉ kept) → ∀ db : Database,
      Maintains (db.Apart kept) (work c) fun _ => True) :
    w.database.Apart kept (w.onCursor i work).database := by
  unfold onCursor
  split
  · exact .refl hkept
  · next c hc =>
    have ha := (hwork c (hcursors c (List.mem_of_getElem? hc)) w.database _ (.refl hkept)).1
    rcases hw : (work c).outcome w.database with ⟨e | c', db⟩ <;> rw [hw] at ha <;> exact ha

theorem shift_of_quiet {step : Step} (hquiet : ∀ op p, step ≠ .perform op p)
    (hs : w.session.strategy = .batch queue)
    (hapart : w.database.Apart (statements queue) (w.turn config step).after.database) :
    ∃ queue', (w.turn config step).after.session.strategy = .batch queue' ∧
      (w.turn config step).Shift config queue queue' := by
  have hstep : ∀ op p, (w.turn config step).step ≠ .perform op p := by rwa [turn_step]
  have hsession := turn_session config (w := w) hquiet
  refine ⟨queue, by rwa [hsession], .kept (by rwa [turn_before])
    (.inl (by rw [hsession, turn_before])) ?_ (fun results ha => ?_) ?_⟩
  · rintro ⟨op, p, id, a, hperform, -⟩
    exact hstep op p hperform
  · cases (turn_result config (w := w) hquiet).symm.trans ha
  · rintro ⟨op, p, hperform, -⟩
    exact absurd hperform (hstep op p)

variable (config) in
theorem turn_shift (hs : w.session.strategy = .batch queue) (hready : Ready queue w.database)
    (hcursors : ∀ c ∈ w.cursors, ∀ s, c.statement = some s → s ∉ statements queue) (step : Step) :
    ∃ queue', (w.turn config step).after.session.strategy = .batch queue' ∧
      (w.turn config step).Shift config queue queue' := by
  cases step with
  | perform op p => exact shift_of_perform op p hs hready
  | fetch i =>
    exact shift_of_quiet nofun hs (onCursor_apart hready.made_statements hcursors fun c hc _ =>
      (c.next_apart hc).bind fun _ _ => .pure trivial)
  | closeCursor i =>
    exact shift_of_quiet nofun hs (onCursor_apart hready.made_statements hcursors fun c hc _ =>
      (c.close_apart hc).forget)
  | rescript script faults =>
    exact shift_of_quiet nofun hs
      ⟨hready.made_statements, fun _ _ => rfl, Nat.le_refl _, [], by simp [turn], rfl⟩

end World

end SqlMapper
