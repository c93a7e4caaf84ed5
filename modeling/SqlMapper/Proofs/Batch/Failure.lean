import SqlMapper.Proofs.Batch.State

namespace SqlMapper

open Fallible Batch

namespace Session

variable {config : Configuration} {op : Operation} {queue : List QueuedStatement} {s u v : Scope}
  {e : Error}

/-- From `s` the operation comes to send the queue, and does so from `u`. A query only does if its
command is known and, where it might have been remembered, what it would be remembered by. -/
inductive Operation.SendsFrom (config : Configuration) : Operation → Scope → Scope → Prop where
  | flushStatements (s : Scope) : SendsFrom config .flushStatements s s
  | commit (force : Bool) (s : Scope) : SendsFrom config (.commit force) s (s.withCache .empty)
  | selectCursor {id : String} {c : Command} (bounds : RowBounds) (s : Scope)
    (hc : config.registry.find? id = some c) :
    SendsFrom config (.selectCursor id bounds) s (s.wrapped.flushedFor c)
  | query {op : Operation} {id : String} {bounds : RowBounds} {handler : Option RowHandler}
    {c : Command} (s : Scope) (hq : op.query? = some (id, bounds, handler))
    (hc : config.registry.find? id = some c)
    (hk : c.isCached handler = true → ∃ key, c.key bounds s.parameter.wrapCollection = .ok key) :
    SendsFrom config op s (s.wrapped.flushedFor c)

theorem Operation.SendsFrom.same (h : op.SendsFrom config s u) :
    ∃ c p, u = { s.withCache c with parameter := p } := by
  cases h with
  | flushStatements => exact ⟨s.session.cache, s.parameter, rfl⟩
  | commit => exact ⟨.empty, s.parameter, rfl⟩
  | selectCursor => exact ⟨_, _, Scope.flushedFor_eq _ _⟩
  | query => exact ⟨_, _, Scope.flushedFor_eq _ _⟩

theorem query_of_broken {c : Command} {bounds : RowBounds} {handler : Option RowHandler}
    (hopen : s.session.closed = false) (hs : s.session.strategy = .batch queue)
    (hcache : s.session.cache = .empty)
    (hk : c.isCached handler = true → ∃ key, c.key bounds s.parameter = .ok key)
    (hflush : (Batch.flush config queue).outcome (s.flushedFor c) = (.error e, v)) :
    (SessionM.query config c bounds handler).outcome s = (.error e, v) := by
  have hrun : ∀ handler, (SessionM.runQuery config c bounds handler).outcome (s.flushedFor c) =
      (.error e, v) := by
    intro handler
    rw [SessionM.runQuery_eq_flush ((SessionM.strategy_flushedFor s c).trans hs)]
    exact discard_bind_of_error hflush
  rw [SessionM.query_of_open hopen]
  split
  · next hc =>
    obtain ⟨key, hkey⟩ := hk hc
    have hempty : (s.flushedFor c).session.cache = .empty := by
      obtain h | h := SessionM.cache_flushedFor s c
      · exact h.trans hcache
      · exact h
    have hkey' : c.key bounds (s.flushedFor c).parameter = .ok key := by
      rw [Scope.flushedFor_eq]
      exact hkey
    exact SessionM.cachedQuery_of_run_error hkey' (by rw [hempty]; rfl) (hrun none)
  · rw [hrun]

theorem perform_of_broken (h : op.SendsFrom config s u) (hopen : s.session.closed = false)
    (hs : s.session.strategy = .batch queue) (hcache : s.session.cache = .empty)
    (hflush : (Batch.flush config queue).outcome u = (.error e, v)) :
    ∃ p, (op.perform config).outcome s = (.error e, { v with parameter := p }) := by
  cases h with
  | flushStatements =>
    refine ⟨v.parameter, ?_⟩
    rw [perform_flushStatements, flushStatements_of_open hopen, SessionM.flush,
      SessionM.outcome_session_bind, hs]
    dsimp only
    rw [hflush]
    rfl
  | commit force =>
    refine ⟨v.parameter, ?_⟩
    rw [perform_commit, commit_of_open hopen, SessionM.flush, SessionM.outcome_session_bind,
      show (s.withCache .empty).session.strategy = _ from hs]
    dsimp only
    rw [hflush]
    rfl
  | @selectCursor id c bounds _ hc =>
    obtain ⟨p, hout⟩ := selectCursor_of_found (s := s) hc bounds
    refine ⟨p, ?_⟩
    rw [perform_selectCursor, hout, SessionM.openCursor_of_open (s := s.wrapped) hopen,
      show s.wrapped.session.strategy = _ from hs]
    dsimp only
    rw [discard_bind_of_error hflush]
    rfl
  | @query _ id bounds handler c _ hq hc hk =>
    obtain ⟨p, hout⟩ := query_of_found (s := s) hc bounds handler
    have hf := perform_query config hq s
    rw [query_of_broken (s := s.wrapped) hopen hs hcache hk hflush] at hout
    exact ⟨p, Prod.ext (hf.error e (congrArg Prod.fst hout))
      (hf.state.trans (congrArg Prod.snd hout))⟩

end Session

namespace Batch

variable {config : Configuration} {q : QueuedStatement} {done : List QueuedStatement}
  {results : List BatchResult} {s t : Scope}

theorem Ready.unsent {rest : List QueuedStatement} {db : Database}
    (h : Ready (done ++ q :: rest) db) {q' : QueuedStatement} (hq' : q' ∈ rest) (n k : Nat)
    (o o' : CallOutcome) :
    .sent q'.statement n o ∉ done.map sentMark ++ [.sent q.statement k o'] := by
  obtain ⟨-, hlater, hearlier⟩ := List.pairwise_append.mp h.increasing
  intro hmem
  obtain hmem | hmem := List.mem_append.mp hmem
  · obtain ⟨q₀, hq₀, heq⟩ := List.mem_map.mp hmem
    have hlt := hearlier q₀ hq₀ q' (List.mem_cons_of_mem _ hq')
    exact Statement.ne_of_index_lt hlt (Mark.sent.inj heq).1
  · have hlt := (List.pairwise_cons.mp hlater).1 q' hq'
    exact Statement.ne_of_index_lt hlt (Mark.sent.inj (List.mem_singleton.mp hmem)).1.symm

end Batch

namespace Turn

def events (t : Turn) : List Event := t.calls.filterMap LogEntry.event?

/-- What is said and what is left when `q` is the first statement of the queue that fails. -/
structure Breaks (t : Turn) (done : List QueuedStatement) (q : QueuedStatement)
    (rest : List QueuedStatement) (b : PartialBatch) : Prop where
  result : t.result = some (.error (.partialBatch b))
  index : b.index = b.successful.length
  successful : b.successful.map (fun r => (r.command, r.sql)) =
    done.map fun q => (q.command.id, q.sql)
  command : b.command = q.command.id
  sql : b.sql = q.sql
  marks : ∃ o, o ≠ .refused ∧
    t.marks = done.map sentMark ++ [.sent q.statement q.parameters.length o]
  unsent : ∀ q' ∈ rest, ∀ sql n o, ⟨.executeBatch q'.statement sql n, o⟩ ∉ t.calls
  closes : ∀ q' ∈ done ++ q :: rest, ∃ sql o, ⟨.closeStatement q'.statement sql, o⟩ ∈ t.calls
  uncommitted : .committed ∉ t.events
  queue : t.after.queue = []
  dirty : t.after.session.dirty = t.before.session.dirty

end Turn

namespace LogEntry

variable {e : LogEntry} {calls : List LogEntry}

theorem sent_mem_of_executeBatch {s : Statement} {sql : String} {n : Nat} {o : CallOutcome}
    (h : ⟨.executeBatch s sql n, o⟩ ∈ calls) : .sent s n o ∈ calls.filterMap mark? :=
  List.mem_filterMap.mpr ⟨_, h, rfl⟩

theorem committed_mem_of_event (h : .committed ∈ calls.filterMap event?) :
    .committed ∈ calls.filterMap mark? := by
  obtain ⟨e, he, hevent⟩ := List.mem_filterMap.mp h
  refine List.mem_filterMap.mpr ⟨e, he, ?_⟩
  obtain ⟨call, o⟩ := e
  unfold event? at hevent
  split at hevent
  · cases hevent
  · cases call <;> cases hevent
    rfl

end LogEntry

namespace World

variable {config : Configuration} {w : World}

theorem flushStatements_of_empty (hopen : w.session.closed = false)
    (hs : w.session.strategy = .batch []) (p : Parameter) :
    (w.turn config (.perform .flushStatements p)).result = some (.ok (.batches [])) := by
  have hflush := outcome_of_flushes (s := w.scope p) (.sent (@Sends.nil config _))
  have hperform := Session.perform_flushStatements config (w.scope p)
  rw [Session.flushStatements_of_open (s := w.scope p) hopen, SessionM.flush,
    SessionM.outcome_session_bind, show (w.scope p).session.strategy = _ from hs] at hperform
  dsimp only at hperform
  rw [hflush] at hperform
  exact congrArg some (congrArg Prod.fst hperform)

variable {op : Session.Operation} {p : Parameter} {u t v : Scope} {done rest : List QueuedStatement}
  {q : QueuedStatement} {results : List BatchResult} {e : Error} {counts : List Int}

theorem Batched.breaks (hw : w.Batched) (hop : op.SendsFrom config (w.scope p) u)
    (hqueue : w.queue = done ++ q :: rest) (hdone : Sends config (emptied u) done results t)
    (hq : Sending config q t (.error (e, counts)) v) :
    ∃ b, (w.turn config (.perform op p)).Breaks done q rest b ∧ b.successful = results ∧
      (e.Whole → b.counts = counts) ∧
      (∀ some reason, e = .batchUpdate some reason → b.counts = some) ∧
      (w.turn config (.perform op p)).after.session.closed = false := by
  have hne : w.queue ≠ [] := by
    rw [hqueue]
    exact List.append_ne_nil_of_right_ne_nil _ (List.cons_ne_nil _ _)
  have hopen := hw.isOpen hne
  obtain ⟨c, own, rfl⟩ := hop.same
  have hready : Ready (done ++ q :: rest) w.database := hqueue ▸ hw.ready
  obtain ⟨p', hout⟩ := Session.perform_of_broken hop hopen hw.strategy (hw.cache hne)
    (outcome_of_flushes (.broken hqueue hdone hq))
  obtain ⟨o, ho, ha⟩ := failed_advance
    (s := emptied { (w.scope p).withCache c with parameter := own }) hready hdone hq
  obtain ⟨found, reason, hpartial, hwhole, hfound⟩ :=
    partialFailure_eq results.length q counts results e
  rw [hpartial] at hout
  obtain ⟨calls, hlog, hmarks, hcloses⟩ := ha.log
  have hcalls : (w.turn config (.perform op p)).calls = calls :=
    calls_of_log ((congrArg (fun x => x.2.database.log) hout).trans hlog)
  have hsession : (w.turn config (.perform op p)).after.session = (closed rest v).session :=
    congrArg (fun x => x.2.session) hout
  have hstrategy := congrArg Session.strategy ha.session
  have hclosed := congrArg Session.closed ha.session
  have hdirty := congrArg Session.dirty ha.session
  have huncommitted : .committed ∉ calls.filterMap LogEntry.mark? := by
    rw [hmarks]
    simp [sentMark]
  refine ⟨⟨results.length, q.command.id, q.sql, found, results, reason⟩,
    ⟨congrArg some (congrArg Prod.fst hout), rfl, results_of_sends hdone, rfl, rfl,
      ⟨o, ho, by rw [Turn.marks, hcalls, hmarks]⟩, ?_, ?_, ?_, ?_, ?_⟩, rfl, hwhole, hfound, ?_⟩
  · intro q' hq' sql n o' hmem
    rw [hcalls] at hmem
    have hsent := LogEntry.sent_mem_of_executeBatch hmem
    rw [hmarks] at hsent
    exact hready.unsent hq' n _ o' o hsent
  · intro q' hq'
    rw [hcalls]
    exact hcloses _ (List.mem_map_of_mem hq')
  · intro hmem
    rw [Turn.events, hcalls] at hmem
    exact huncommitted (LogEntry.committed_mem_of_event hmem)
  · exact queue_of_strategy ((congrArg Session.strategy hsession).trans hstrategy)
  · exact (congrArg Session.dirty hsession).trans hdirty
  · exact ((congrArg Session.closed hsession).trans hclosed).trans hopen

end World

/-- A statement whose entries or whose keys fail is reported as the first that did, with the results
of those before it, whichever operation had the queue sent. Its counts are those of the failure where
this says how far a batch got, be it that of the entries or that of the keys; else they are those of
the entries, if these went through. The statements after it are closed unsent, the session has an empty
queue and is as dirty as before. -/
theorem Run.flush_breaks {config : Configuration} {db : Database} {tr : Transaction}
    {autoCommit : Bool} {past : List Turn} {w : World}
    (hr : Run config (.opened db .batch tr autoCommit) past w) {op : Session.Operation}
    {p : Parameter} {u t v : Scope} (hop : op.SendsFrom config (w.scope p) u)
    {done rest : List QueuedStatement} {q : QueuedStatement} (hqueue : w.queue = done ++ q :: rest)
    {results : List BatchResult} (hdone : Sends config (emptied u) done results t) {e : Error}
    {counts : List Int} (hq : Sending config q t (.error (e, counts)) v) :
    ∃ b, (w.turn config (.perform op p)).Breaks done q rest b ∧ b.successful = results ∧
      (∀ db found reason, q.statement.executeBatch.outcome t.database =
        (.error (.batchUpdate found reason), db) → b.counts = found) ∧
      (∀ db e', q.statement.executeBatch.outcome t.database = (.error e', db) → e'.Whole →
        b.counts = []) ∧
      (∀ db found e' t', q.statement.executeBatch.outcome t.database = (.ok found, db) →
        (Keys.afterBatch config q.command q.statement q.parameters found).outcome
          { t with database := db } = (.error e', t') →
        found.length = q.parameters.length ∧ (e'.Whole → b.counts = found) ∧
          ∀ some reason, e' = .batchUpdate some reason → b.counts = some) ∧
      ∀ p', ((w.turn config (.perform op p)).after.turn config
        (.perform .flushStatements p')).result = some (.ok (.batches [])) := by
  have hw := hr.batched (.opened db tr autoCommit)
  obtain ⟨b, hb, hresults, hwhole, hfound, hopen⟩ := hw.breaks hop hqueue hdone hq
  refine ⟨b, hb, hresults, fun db' found reason hx => ?_, fun db' e' hx he => ?_,
    fun db' found e' t' hx hk => ?_, fun p' => ?_⟩
  · rcases hq.failure with ⟨db₀, hx', -⟩ | ⟨db₀, v', hx', -⟩ <;> cases hx.symm.trans hx'
    exact hfound found reason rfl
  · rcases hq.failure with ⟨db₀, hx', hnone⟩ | ⟨db₀, v', hx', -⟩ <;> cases hx.symm.trans hx'
    exact (hwhole he).trans hnone
  · rcases hq.failure with ⟨db₀, hx', -⟩ | ⟨db₀, v', hx', hk'⟩ <;> cases hx.symm.trans hx'
    cases hk.symm.trans hk'
    have hready : Ready (done ++ q :: rest) (emptied u).database := by
      obtain ⟨c, own, rfl⟩ := hop.same
      exact hqueue ▸ hw.ready
    exact ⟨(hready.of_append.beside (sends_advance hready hdone).beside).counts_length hx, hwhole,
      hfound⟩
  · have hafter := (hw.turn config (.perform op p)).2.strategy
    rw [hb.queue] at hafter
    exact World.flushStatements_of_empty hopen hafter p'

def keylessAdd : Command :=
  { smallCommand "add" .insert "INSERT 1" with keys := .selectKey "next" "id" false }

/-- A key query that fails before it is sent. -/
def keylessNext (e : Error) : Command :=
  { smallCommand "next" .select "" with source := .dynamic fun _ => .error e }

def keylessPlan (e : Error) : ConfigurationPlan :=
  { ConfigurationPlan.standard with commands := [keylessAdd, keylessNext e] }

def keylessConfig (e : Error) : Configuration :=
  { smallConfig with registry := (Registry.empty.insert keylessAdd).insert (keylessNext e) }

def keylessWorld (e : Error) : World :=
  ((smallWorld.turn (keylessConfig e) (insertStep "add")).after.turn (keylessConfig e)
    (insertStep "add")).after

theorem keylessWorld_run (e : Error) :
    ∃ past, Run (keylessConfig e) smallWorld past (keylessWorld e) :=
  ⟨_, .turn (.turn .start _) _⟩

def queuedKeyless : QueuedStatement := ⟨⟨0⟩, keylessAdd, "INSERT 1", [.absent, .absent]⟩

/-- The second of two statements fails at its second entry, a lone one only when its keys are asked
for. -/
theorem second_statement_breaks :
    (∃ b, (queuedWorld.turn smallConfig (.perform .flushStatements .absent)).Breaks [queuedAdd]
        queuedPut [] b ∧
      b.successful = [⟨"add", "INSERT 1", [.absent], [1]⟩] ∧ b.counts = [1]) ∧
    ∃ b, ((keylessWorld .noDataSource).turn (keylessConfig .noDataSource)
        (.perform .flushStatements .absent)).Breaks [] queuedKeyless [] b ∧
      b.successful = [] ∧ b.counts = [1, 1] := by
  constructor
  · obtain ⟨past, hrun⟩ := queuedWorld_run
    have hadd : Sends smallConfig (emptied (queuedWorld.scope .absent)) [queuedAdd]
      [⟨"add", "INSERT 1", [.absent], [1]⟩] _ := .cons (.done rfl rfl) (.nil _)
    obtain ⟨b, hb, hs, hcounts, -⟩ := Run.flush_breaks hrun (.flushStatements _) queuedWorld_queue
      hadd (.refused rfl)
    exact ⟨b, hb, hs, hcounts _ _ _ rfl⟩
  · obtain ⟨past, hrun⟩ := keylessWorld_run .noDataSource
    have hqueue : (keylessWorld .noDataSource).queue = [] ++ [queuedKeyless] := rfl
    obtain ⟨db, hsent⟩ : ∃ db, queuedKeyless.statement.executeBatch.outcome
        (emptied ((keylessWorld .noDataSource).scope .absent)).database = (.ok [1, 1], db) :=
      ⟨_, rfl⟩
    obtain ⟨t, hkeys⟩ : ∃ t, (Keys.afterBatch (keylessConfig .noDataSource) queuedKeyless.command
        queuedKeyless.statement queuedKeyless.parameters [1, 1]).outcome
          { emptied ((keylessWorld .noDataSource).scope .absent) with database := db } =
        (.error .noDataSource, t) := ⟨_, rfl⟩
    obtain ⟨b, hb, hs, -, -, hkeyless, -⟩ := Run.flush_breaks hrun (.flushStatements _) hqueue
      (.nil _) (.keyless hsent hkeys)
    obtain ⟨-, hcounts, -⟩ := hkeyless db [1, 1] .noDataSource t hsent hkeys
    exact ⟨b, hb, hs, hcounts nofun⟩

/-- The key query of a lone statement fails with what looks like the counts of a batch. These are
reported, and not those of the entries, which have all gone through. -/
theorem key_failure_overrides_counts :
    (keylessPlan (.batchUpdate [7, 7, 7] "stale")).build =
        .ok (keylessConfig (.batchUpdate [7, 7, 7] "stale")) ∧
      (∃ past, Run (keylessConfig (.batchUpdate [7, 7, 7] "stale")) smallWorld past
        (keylessWorld (.batchUpdate [7, 7, 7] "stale"))) ∧
      (keylessWorld (.batchUpdate [7, 7, 7] "stale")).queue = [queuedKeyless] ∧
      (queuedKeyless.statement.executeBatch.outcome
        (keylessWorld (.batchUpdate [7, 7, 7] "stale")).database).1 = .ok [1, 1] ∧
      ∃ b, ((keylessWorld (.batchUpdate [7, 7, 7] "stale")).turn
          (keylessConfig (.batchUpdate [7, 7, 7] "stale"))
          (.perform .flushStatements .absent)).result = some (.error (.partialBatch b)) ∧
        b.counts = [7, 7, 7] :=
  ⟨rfl, keylessWorld_run _, rfl, rfl, _, rfl, rfl⟩

end SqlMapper
