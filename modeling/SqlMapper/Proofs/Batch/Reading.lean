import SqlMapper.Proofs.Batch.Account
import SqlMapper.Proofs.Session.Recall

namespace SqlMapper

open Fallible Batch

def Session.Operation.read? : Session.Operation → Option String
  | .selectCursor id _ => some id
  | op => op.query?.map (·.1)

/-- Everything in the queue is sent, and after these calls the text of the command is executed; it
is the last to be. -/
def Batch.Reads (command : Command) (queue : List QueuedStatement) (p : Parameter)
    (calls earlier : List LogEntry) : Prop :=
  (∃ bound s later, command.source.bind p = .ok bound ∧
    calls = earlier ++ ⟨.execute s bound.sql, .succeeded⟩ :: later ∧
    ∀ e ∈ later, e.executes = false) ∧
  ∀ s ∈ statements queue, ∃ sql n, ⟨.executeBatch s sql n, .succeeded⟩ ∈ earlier

namespace Batch

variable {config : Configuration} {command : Command} {bounds : RowBounds}
  {handler : Option RowHandler} {queue : List QueuedStatement} {s t : Scope}

theorem executeBatch_of_mark {e : LogEntry} {s : Statement} {n : Nat} {o : CallOutcome}
    (h : e.mark? = some (.sent s n o)) : ∃ sql, e = ⟨.executeBatch s sql n, o⟩ := by
  obtain ⟨call, outcome⟩ := e
  cases call with
  | executeBatch s' sql n' =>
    cases h
    exact ⟨sql, rfl⟩
  | addBatch s' sql =>
    rw [LogEntry.mark?] at h
    dsimp only at h
    split at h <;> cases h
  | _ => cases h

theorem executed_of_flush {u v : Scope} {results : List BatchResult}
    (hready : Ready queue u.database)
    (hf : (Batch.flush config queue).outcome u = (.ok results, v)) :
    ∃ sending, v.database.log = u.database.log ++ sending ∧
      ∀ s ∈ statements queue, ∃ sql n, ⟨.executeBatch s sql n, .succeeded⟩ ∈ sending := by
  obtain ⟨r, v', hf', hflushes⟩ := exists_flushes config queue u
  cases hf.symm.trans hf'
  cases hflushes with
  | sent hsent =>
    have hready' : Ready (queue ++ []) (emptied u).database := by rwa [List.append_nil]
    obtain ⟨calls, hcalls, hmarks, -⟩ := (sends_advance hready' hsent).log
    refine ⟨calls, hcalls, fun s' hs' => ?_⟩
    obtain ⟨q, hq, rfl⟩ := List.mem_map.mp hs'
    have hmark : sentMark q ∈ calls.filterMap LogEntry.mark? := hmarks ▸ List.mem_map_of_mem hq
    obtain ⟨e, he, hm⟩ := List.mem_filterMap.mp hmark
    obtain ⟨sql, rfl⟩ := executeBatch_of_mark hm
    exact ⟨sql, _, he⟩

theorem reads_of_flush {u v : Scope} {results : List BatchResult} {p : Parameter} {bound : BoundSql}
    {db : Database} (hready : Ready queue u.database)
    (hf : (Batch.flush config queue).outcome u = (.ok results, v))
    (hb : command.source.bind p = .ok bound) (hx : v.database.Executed (· = bound.sql) db) :
    ∃ calls earlier, db.log = u.database.log ++ calls ∧ Reads command queue p calls earlier := by
  obtain ⟨sending, hsending, hsent⟩ := executed_of_flush hready hf
  obtain ⟨before, s, sql, after, rfl, hlog, hafter⟩ := hx
  refine ⟨sending ++ before ++ ⟨.execute s bound.sql, .succeeded⟩ :: after, sending ++ before, ?_,
    ⟨bound, s, after, hb, rfl, hafter⟩, fun s' hs' => ?_⟩
  · rw [hlog, hsending]
    simp
  · obtain ⟨sql, n, hm⟩ := hsent s' hs'
    exact ⟨sql, n, List.mem_append_left _ hm⟩

end Batch

namespace SessionM

variable {config : Configuration} {command : Command} {bounds : RowBounds}
  {handler : Option RowHandler} {queue : List QueuedStatement} {s t : Scope} {rows : List Value}

theorem reads_of_query (hs : s.session.strategy = .batch queue) (hready : Ready queue s.database)
    (h : (query config command bounds handler).outcome s = (.ok rows, t)) :
    s.session.closed = false ∧
    ((∃ calls earlier, t.database.log = s.database.log ++ calls ∧
        Batch.Reads command queue s.parameter calls earlier) ∨
      (handler = none ∧ t = s ∧ ∃ key, command.key bounds s.parameter = .ok key ∧
        s.session.cache.find? key = some rows)) := by
  obtain ⟨hopen, ⟨v, hr, hv⟩ | ⟨hcached, hsame, hfound⟩⟩ := query_ok h
  · have hs' := (strategy_flushedFor s command).trans hs
    obtain ⟨results, u, bound, hf, hb, hx⟩ := runQuery_executed_of_batch hs' hr
    have hdatabase := s.flushedFor_database command
    obtain ⟨calls, earlier, hlog, hreads⟩ := reads_of_flush (by rwa [hdatabase]) hf hb hx
    refine ⟨hopen, .inl ⟨calls, earlier, ?_, ?_⟩⟩
    · rw [hv, hlog, hdatabase]
    · rwa [Scope.flushedFor_eq] at hreads
  · refine ⟨hopen, .inr ⟨?_, hsame, hfound⟩⟩
    cases handler with
    | none => rfl
    | some => cases hcached

theorem reads_of_openCursor {c : Cursor} (hs : s.session.strategy = .batch queue)
    (hready : Ready queue s.database)
    (h : (openCursor config command bounds).outcome s = (.ok c, t)) :
    s.session.closed = false ∧ ∃ calls earlier, t.database.log = s.database.log ++ calls ∧
      Batch.Reads command queue s.parameter calls earlier := by
  cases hopen : s.session.closed
  · refine ⟨rfl, ?_⟩
    rw [openCursor_of_open hopen, hs] at h
    obtain ⟨_, v, hf, hc⟩ := ok_of_bind_ok h
    obtain ⟨results, hr⟩ := ok_of_discard_ok hf
    obtain ⟨bound, hb, hx⟩ := freshCursor_executed hc
    rw [kept hr (Batch.flush_parameter config (s.flushedFor command).parameter queue) rfl] at hb
    have hdatabase := s.flushedFor_database command
    obtain ⟨calls, earlier, hlog, hreads⟩ := reads_of_flush (by rwa [hdatabase]) hr hb hx
    refine ⟨calls, earlier, ?_, ?_⟩
    · rw [hlog, hdatabase]
    · rwa [Scope.flushedFor_eq] at hreads
  · rw [openCursor_of_closed hopen] at h
    cases h

end SessionM

/-- The turn is after rows: it sends what it finds queued, makes the calls `earlier`, and has the
text of its command executed. -/
def Turn.Reads (config : Configuration) (t : Turn) (earlier : List LogEntry) : Prop :=
  ∃ op p id c, t.step = .perform op p ∧ op.read? = some id ∧ config.registry.find? id = some c ∧
    Batch.Reads c t.before.queue p.wrapCollection t.calls earlier

namespace World

variable {config : Configuration} {w : World} {op : Session.Operation} {p : Parameter} {id : String}
  {bounds : RowBounds} {handler : Option RowHandler} {rows : List Value}

theorem reads_of_query (h : w.Batched) (hq : op.query? = some (id, bounds, handler))
    (hrows : ((Session.query config id bounds handler).outcome (w.scope p)).1 = .ok rows) :
    w.session.closed = false ∧
    ((∃ earlier, (w.turn config (.perform op p)).Reads config earlier) ∨
      ((w.turn config (.perform op p)).calls = [] ∧ handler = none ∧
        ∃ key, config.queryKey id bounds p = .ok key ∧ w.session.cache.find? key = some rows)) := by
  cases hc : config.registry.find? id with
  | none =>
    rw [Session.query_of_missing hc] at hrows
    cases hrows
  | some c =>
    obtain ⟨p', hout⟩ := Session.query_of_found (s := w.scope p) hc bounds handler
    have hdatabase := (turn_query config (w := w) (p := p) hq).1
    rw [hout] at hrows hdatabase
    have hlog := congrArg Database.log hdatabase
    obtain ⟨hopen, hcase⟩ := SessionM.reads_of_query (s := (w.scope p).wrapped) h.strategy h.ready
      (Prod.ext hrows rfl)
    refine ⟨hopen, hcase.imp ?_ ?_⟩
    · rintro ⟨calls, earlier, hcalls, hreads⟩
      refine ⟨earlier, op, p, id, c, rfl, ?_, hc, ?_⟩
      · cases op <;> cases hq <;> rfl
      · rwa [calls_of_log (hlog.trans hcalls)]
    · rintro ⟨hhandler, hsame, key, hk, hfound⟩
      refine ⟨calls_of_log ?_, hhandler, key, Configuration.queryKey_of_key hc hk, hfound⟩
      rw [List.append_nil]
      exact hlog.trans (congrArg (fun s => s.database.log) hsame)

theorem reads_of_cursor (h : w.Batched) {a : Session.Answer}
    (ha : (w.turn config (.perform (.selectCursor id bounds) p)).result = some (.ok a)) :
    w.session.closed = false ∧
      ∃ earlier, (w.turn config (.perform (.selectCursor id bounds) p)).Reads config earlier := by
  have hperform := Session.perform_selectCursor config id bounds (w.scope p)
  have hresult := (congrArg Prod.fst hperform).symm.trans (Option.some.inj ha)
  have hlog := congrArg (fun x => x.2.database.log) hperform
  cases hc : config.registry.find? id with
  | none =>
    rw [Session.selectCursor_of_missing hc] at hresult
    cases hresult
  | some c =>
    obtain ⟨p', hout⟩ := Session.selectCursor_of_found (s := w.scope p) hc bounds
    rw [hout] at hresult hlog
    rcases ho : (SessionM.openCursor config c bounds).outcome (w.scope p).wrapped with
      ⟨e | cursor, t⟩ <;> rw [ho] at hresult hlog
    · cases hresult
    · obtain ⟨hopen, calls, earlier, hcalls, hreads⟩ :=
        SessionM.reads_of_openCursor (s := (w.scope p).wrapped) h.strategy h.ready ho
      refine ⟨hopen, earlier, _, p, id, c, rfl, rfl, hc, ?_⟩
      have hafter : (w.turn config (.perform (.selectCursor id bounds) p)).after.database.log =
        t.database.log := hlog
      rwa [calls_of_log (hafter.trans hcalls)]

theorem closed_turn (config : Configuration) (h : w.session.closed = true) (step : Step) :
    (w.turn config step).after.session.closed = true := by
  by_cases hp : ∃ op p, step = .perform op p
  · obtain ⟨op, p, rfl⟩ := hp
    obtain ⟨d, hsession, -⟩ := w.turn_of_closed config op p h
    rw [hsession]
    exact h
  · rw [turn_session config fun op p he => hp ⟨op, p, he⟩]
    exact h

theorem closed_of_closes {step : Step} (h : (w.turn config step).Closes) :
    (w.turn config step).after.session.closed = true := by
  obtain ⟨p, hp⟩ := h
  rw [turn_step] at hp
  subst hp
  cases hopen : w.session.closed
  · have hperform := congrArg Prod.snd (Session.perform_close config (w.scope p))
    rw [Session.close_of_open (s := w.scope p) hopen] at hperform
    exact congrArg (fun s => s.session.closed) hperform
  · exact closed_turn config hopen _

end World

namespace Run

variable {config : Configuration} {start w : World} {past : List Turn}

theorem closed_of_closes (hr : Run config start past w) {d : Turn} (hd : d ∈ past)
    (hc : d.Closes) : w.session.closed = true := by
  induction hr with
  | start => cases hd
  | turn _ step ih =>
    obtain hd | hd := List.mem_append.mp hd
    · exact World.closed_turn config (ih hd) step
    · cases List.mem_singleton.mp hd
      exact World.closed_of_closes hc

end Run

namespace Batch

/-- One of the calls had the entries of the statement executed. -/
def Delivered (calls : List LogEntry) (s : Statement) : Prop :=
  ∃ sql n o, o ≠ .refused ∧ ⟨.executeBatch s sql n, o⟩ ∈ calls

/-- Before the session was closed the statement was given up. -/
def GivenUp (past : List Turn) (s : Statement) : Prop :=
  ∃ d ∈ past, d.Discards s ∧ (d.RollsBack ∨ d.BreaksBefore s)

variable {config : Configuration} {past : List Turn} {w : World} {s : Statement}

theorem delivered_of_sent (h : Sent past s) : Delivered (past.flatMap Turn.calls) s := by
  obtain ⟨n, o, ho, habout⟩ := h
  have hmem : Mark.sent s n o ∈ about s (marks past) := by
    rw [habout]
    exact List.mem_append_right _ (List.mem_singleton_self _)
  obtain ⟨t, ht, hm⟩ := List.mem_flatMap.mp (List.mem_filter.mp hmem).1
  obtain ⟨e, he, hmark⟩ := List.mem_filterMap.mp hm
  obtain ⟨sql, rfl⟩ := executeBatch_of_mark hmark
  exact ⟨sql, n, o, ho, List.mem_flatMap.mpr ⟨t, ht, he⟩⟩

/-- What an open session does not have in its queue any more it has sent, or it was given up. -/
theorem Accounted.delivered (h : Accounted config past w) (hopen : ∀ d ∈ past, ¬ d.Closes)
    (ha : .added s ∈ marks past) :
    s ∈ statements w.queue ∨ GivenUp past s ∨ Delivered (past.flatMap Turn.calls) s := by
  obtain ⟨hqueued, -⟩ | ⟨-, hsent, -⟩ | ⟨-, -, d, hd, hgone⟩ := (h.fate s).state_of_added ha
  · exact .inl hqueued
  · exact .inr (.inr (delivered_of_sent hsent))
  · refine .inr (.inl ⟨d, hd, hgone, ?_⟩)
    obtain hback | hcloses | hbreaks := (h.turns d hd).cause hgone
    · exact .inl hback
    · exact absurd hcloses (hopen d hd)
    · exact .inr hbreaks

/-- Everything that was accepted has been sent by one of these calls, or it was given up. -/
def Settled (past : List Turn) (calls : List LogEntry) : Prop :=
  ∀ t ∈ past, t.Accepted → ∃ s, t.marks = [.added s] ∧ (GivenUp past s ∨ Delivered calls s)

theorem Accounted.settled (h : Accounted config past w) (hopen : ∀ d ∈ past, ¬ d.Closes)
    {calls : List LogEntry}
    (hsent : ∀ s ∈ statements w.queue, ∃ sql n, ⟨.executeBatch s sql n, .succeeded⟩ ∈ calls) :
    Settled past (past.flatMap Turn.calls ++ calls) := by
  intro t ht ha
  obtain ⟨_, s, -, -, hs⟩ := (h.turns t ht).entry ha
  have hmarks : .added s ∈ marks past :=
    List.mem_flatMap.mpr ⟨t, ht, hs ▸ List.mem_singleton_self _⟩
  refine ⟨s, hs, ?_⟩
  obtain hqueued | hgiven | ⟨sql, n, o, ho, hm⟩ := h.delivered hopen hmarks
  · obtain ⟨sql, n, hm⟩ := hsent s hqueued
    exact .inr ⟨sql, n, .succeeded, nofun, List.mem_append_right _ hm⟩
  · exact .inl hgiven
  · exact .inr ⟨sql, n, o, ho, List.mem_append_left _ hm⟩

theorem GivenUp.mono {more : List Turn} (h : GivenUp past s) (hsub : ∀ t ∈ past, t ∈ more) :
    GivenUp more s := by
  obtain ⟨d, hd, hg⟩ := h
  exact ⟨d, hsub d hd, hg⟩

end Batch

theorem Turn.forgets_of_submission {config : Configuration} {t : Turn} {x : Submission}
    (h : t.submission? config = some x) : t.Forgets config := by
  unfold submission? at h
  split at h
  · next op p hstep =>
    obtain ⟨id, hid, h⟩ := Option.bind_eq_some_iff.mp h
    obtain ⟨c, hc, -⟩ := Option.bind_eq_some_iff.mp h
    refine ⟨op, p, hstep, ?_⟩
    cases op <;> cases hid <;> exact ⟨c, hc⟩
  · cases h

namespace Run

variable {config : Configuration} {db : Database} {tr : Transaction}
  {autoCommit : Bool} {past : List Turn} {w : World}

theorem open_before (hr : Run config (.opened db .batch tr autoCommit) past w)
    (hopen : w.session.closed = false) : ∀ d ∈ past, ¬ d.Closes := by
  intro d hd hc
  rw [hr.closed_of_closes hd hc] at hopen
  cases hopen

theorem delivered_before (hr : Run config (.opened db .batch tr autoCommit) past w)
    (hopen : w.session.closed = false) {step : Step} {earlier : List LogEntry}
    (hreads : (w.turn config step).Reads config earlier) {t : Turn} (ht : t ∈ past)
    (ha : t.Accepted) :
    ∃ s, t.marks = [.added s] ∧
      (GivenUp past s ∨ Delivered (past.flatMap Turn.calls ++ earlier) s) := by
  obtain ⟨_, _, _, _, -, -, -, -, hsent⟩ := hreads
  rw [World.turn_before] at hsent
  exact (hr.accounted (.opened db tr autoCommit)).settled (hr.open_before hopen) hsent t ht ha

theorem reads_of_rows (hr : Run config (.opened db .batch tr autoCommit) past w) {step : Step}
    {key : CacheKey} {rows : List Value} (hrows : (w.turn config step).Rows config key rows)
    (hx : (w.turn config step).Executed) :
    w.session.closed = false ∧ ¬ (w.turn config step).Accepted ∧
      ∃ earlier, (w.turn config step).Reads config earlier := by
  obtain ⟨op, p, id, bounds, hstep, hq, -, hok⟩ := hrows
  rw [World.turn_step] at hstep
  subst hstep
  rw [World.turn_before] at hok
  have hmutation : op.mutation? = none :=
    Session.Operation.mutation?_of_sends (Session.Operation.sends_of_query hq)
  obtain ⟨hopen, hreads | ⟨hcalls, -⟩⟩ :=
    World.reads_of_query (hr.batched (.opened db tr autoCommit)) hq hok
  · exact ⟨hopen, World.not_accepted config hmutation, hreads⟩
  · obtain ⟨s, sql, hx⟩ := hx
    rw [hcalls] at hx
    cases hx

theorem delivered_of_remembered (hr : Run config (.opened db .batch tr autoCommit) past w)
    {key : CacheKey} {rows : List Value} (h : Remembered config past key rows) :
    ∃ older e newer earlier, past = older ++ e :: newer ∧ e.Reads config earlier ∧
      e.Rows config key rows ∧ ∀ t ∈ past, t.Accepted → ∃ s, t.marks = [.added s] ∧
        (GivenUp past s ∨ Delivered (older.flatMap Turn.calls ++ earlier) s) := by
  obtain ⟨older, e, newer, hpast, hrows, hx, hnewer⟩ := h
  have haccounted := hr.accounted (.opened db tr autoCommit)
  obtain ⟨w', step, hrun, rfl⟩ := hr.split hpast
  obtain ⟨hopen, hrefused, earlier, hreads⟩ := hrun.reads_of_rows hrows hx
  refine ⟨older, _, newer, earlier, hpast, hreads, hrows, fun t ht ha => ?_⟩
  have ht' := ht
  rw [hpast, List.mem_append, List.mem_cons] at ht'
  obtain hold | rfl | hnew := ht'
  · obtain ⟨s, hs, hdelivered⟩ := hrun.delivered_before hopen hreads hold ha
    refine ⟨s, hs, hdelivered.imp_left fun hg => hg.mono fun d hd => ?_⟩
    exact hpast ▸ List.mem_append_left _ hd
  · exact absurd ha hrefused
  · obtain ⟨x, s, hsubmission, -⟩ := (haccounted.turns t ht).entry ha
    exact absurd (Turn.forgets_of_submission hsubmission) (hnewer t hnew).1

/-- An operation that hands out rows and ends well leaves the queue empty, and the rows come from an
execution that came after those of everything accepted until then, unless it was given up. The
execution is the operation's own, or that of the query whose rows were remembered. While there is
something in the queue there is nothing in the cache. -/
theorem reads_own_writes
    (hr : Run config (.opened db .batch tr autoCommit) past w) :
    (w.queue ≠ [] → w.session.cache = .empty) ∧
    ∀ op p id a, op.read? = some id → (w.turn config (.perform op p)).result = some (.ok a) →
      (w.turn config (.perform op p)).after.queue = [] ∧
      ∃ older e newer earlier,
        past ++ [w.turn config (.perform op p)] = older ++ e :: newer ∧ e.Reads config earlier ∧
        (newer = [] ∨ (w.turn config (.perform op p)).calls = [] ∧ ∃ key rows,
          (w.turn config (.perform op p)).Rows config key rows ∧ e.Rows config key rows) ∧
        ∀ t ∈ past, t.Accepted → ∃ s, t.marks = [.added s] ∧
          (GivenUp past s ∨ Delivered (older.flatMap Turn.calls ++ earlier) s) := by
  have haccounted := hr.accounted (.opened db tr autoCommit)
  refine ⟨haccounted.batched.cache, fun op p id a hop ha => ?_⟩
  cases hq : op.query? with
  | none =>
    have hcursor : ∃ bounds, op = .selectCursor id bounds := by
      cases op <;> cases hq <;> cases hop
      exact ⟨_, rfl⟩
    obtain ⟨bounds, rfl⟩ := hcursor
    obtain ⟨hopen, earlier, hreads⟩ := World.reads_of_cursor haccounted.batched ha
    exact ⟨haccounted.batched.queue_of_sends ⟨_, p, rfl, trivial⟩ ha, past, _, [], earlier, rfl,
      hreads, .inl rfl, fun _ => hr.delivered_before hopen hreads⟩
  | some q =>
    obtain ⟨id', bounds, handler⟩ := q
    refine ⟨haccounted.batched.queue_of_sends
      ⟨_, p, rfl, Session.Operation.sends_of_query hq⟩ ha, ?_⟩
    obtain ⟨rows, hrows⟩ := (Session.perform_query config hq (w.scope p)).ok a (Option.some.inj ha)
    obtain ⟨hopen, ⟨earlier, hreads⟩ | ⟨hcalls, rfl, key, hk, hfound⟩⟩ :=
      World.reads_of_query haccounted.batched hq hrows
    · exact ⟨past, _, [], earlier, rfl, hreads, .inl rfl, fun _ => hr.delivered_before hopen hreads⟩
    · obtain ⟨older, e, newer, earlier, hpast, hreads, herows, hdelivered⟩ :=
        hr.delivered_of_remembered (hr.remembered key rows hfound)
      exact ⟨older, e, newer ++ [w.turn config (.perform op p)], earlier, by simp [hpast], hreads,
        .inr ⟨hcalls, key, rows, ⟨op, p, id', bounds, rfl, hq, hk, hrows⟩, herows⟩, hdelivered⟩

end Run

/-- An insert is queued, and the query after it sends it first. -/
theorem insert_sent_by_query :
    (smallWorld.turn smallConfig (insertStep "add")).after.queue = [queuedAdd] ∧
      ((smallWorld.turn smallConfig (insertStep "add")).after.turn smallConfig
        (.perform (.selectList "all" .all) .absent)).after.queue = [] := by
  have hrun : Run smallConfig smallWorld _ _ := .turn .start (insertStep "add")
  have ha : ((smallWorld.turn smallConfig (insertStep "add")).after.turn smallConfig
    (.perform (.selectList "all" .all) .absent)).result = some (.ok (.rows [])) := rfl
  exact ⟨rfl, ((Run.reads_own_writes hrun).2 _ _ _ _ rfl ha).1⟩

end SqlMapper
