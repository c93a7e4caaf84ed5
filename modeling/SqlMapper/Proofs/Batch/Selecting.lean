import SqlMapper.Proofs.Batch.Reading
import SqlMapper.Proofs.Session.KeyOrder

namespace SqlMapper

open Fallible Batch

variable {α : Type} {config : Configuration} {command : Command} {bounds : RowBounds}
  {handler : Option RowHandler} {p : Parameter} {queue : List QueuedStatement} {u v : Scope}

/-- A call of the run of a query for the object `p`, on a statement that `v` does not have yet. -/
def Command.Asks (command : Command) (p : Parameter) (v : Scope) (call : Call) : Prop :=
  ∃ bounds i, Invocation.of command p bounds = .ok i ∧
    i.Issues p ⟨v.database.statements.length⟩ i.bound.sql call

namespace SessionM

theorem ownRun_asks {f : Invocation → Statement → SessionM α} {settings : Settings}
    (hf : ∀ i (s : Statement) sql, Leads
      (fun w : Scope => i.Poised v.parameter s sql v.database w.database) (f i s)
      (fun _ w => v.database.Makes (i.Issues v.parameter s sql) w.database)
      fun w => v.database.Makes (i.Issues v.parameter s sql) w.database) :
    v.database.Makes (command.Asks v.parameter v)
      ((invocation command bounds >>= fun i =>
        i.freshStatement settings >>= f i).outcome v).2.database := by
  cases hi : Invocation.of command v.parameter bounds with
  | error e =>
    rw [invocation_bind_of_error hi]
    exact .refl _ _
  | ok i =>
    rw [invocation_bind_of_ok hi]
    exact ((i.freshStatement_readied settings v).issues (hf i _ _)).mono fun _ hcall =>
      ⟨bounds, i, hi, hcall⟩

theorem freshQuery_asks (config : Configuration) (command : Command) (bounds : RowBounds)
    (handler : Option RowHandler) (v : Scope) :
    v.database.Makes (command.Asks v.parameter v)
      ((freshQuery config command bounds handler).outcome v).2.database :=
  ownRun_asks fun i _ _ =>
    (i.query_issues config.mapper handler).thenAlways (fun _ => closing_issues) closing_issues

theorem freshCursor_asks (config : Configuration) (command : Command) (bounds : RowBounds)
    (v : Scope) :
    v.database.Makes (command.Asks v.parameter v)
      ((freshCursor config command bounds).outcome v).2.database :=
  ownRun_asks fun _ _ _ =>
    (lift_database (Invocation.execute_issues.orUndo Invocation.closeQuietly_issues.leads)).bind
      fun _ => .pure fun _ h => h

theorem runQuery_of_batch (hs : u.session.strategy = .batch queue) :
    (runQuery config command bounds handler).outcome u =
      (discard (Batch.flush config queue) >>= fun _ =>
        freshQuery config command bounds handler).outcome u := by
  rw [runQuery, outcome_session_bind, hs]

end SessionM

namespace Batch

variable {past : List Turn} {w : World} {calls : List LogEntry}

/-- The calls of a turn in which the session queries `command` for the object `p`: none, or those that
send what is queued, or these and then the query's own. Before the query makes a call everything that
was accepted has been sent or given up. -/
inductive Queries (config : Configuration) (command : Command) (p : Parameter) (past : List Turn)
    (w : World) : List LogEntry → Prop where
  | silent : Queries config command p past w []
  | broken {c : LocalCache} {e : Error} {v : Scope} {sending : List LogEntry}
    (flush : (Batch.flush config w.queue).outcome ((w.scope p).wrapped.withCache c) = (.error e, v))
    (log : v.database.log = w.database.log ++ sending) : Queries config command p past w sending
  | asked {c : LocalCache} {results : List BatchResult} {v : Scope} {sending own : List LogEntry}
    (flush : (Batch.flush config w.queue).outcome ((w.scope p).wrapped.withCache c) =
      (.ok results, v))
    (log : v.database.log = w.database.log ++ sending)
    (asks : ∀ e ∈ own, command.Asks p.wrapCollection v e.call)
    (settled : Settled past (past.flatMap Turn.calls ++ sending)) :
    Queries config command p past w (sending ++ own)

theorem Queries.of_flush {x : SessionM α} (h : Accounted config past w)
    (hopen : ∀ d ∈ past, ¬ d.Closes) {c : LocalCache}
    (hx : ∀ v : Scope, v.database.Makes (command.Asks v.parameter v) (x.outcome v).2.database)
    (hlog : ((discard (Batch.flush config w.queue) >>= fun _ => x).outcome
      ((w.scope p).wrapped.withCache c)).2.database.log = w.database.log ++ calls) :
    Queries config command p past w calls := by
  rcases hf : (Batch.flush config w.queue).outcome ((w.scope p).wrapped.withCache c) with
    ⟨e | results, v⟩
  · rw [discard_bind_of_error hf] at hlog
    exact .broken hf hlog
  · have hp := kept hf (flush_parameter config p.wrapCollection w.queue) rfl
    obtain ⟨sending, hsending, hsent⟩ := executed_of_flush h.batched.ready hf
    obtain ⟨own, hown, hasks⟩ := hx v
    rw [discard_bind_of_ok hf, hown, hsending] at hlog
    change w.database.log ++ sending ++ own = _ at hlog
    rw [List.append_assoc] at hlog
    obtain rfl := List.append_cancel_left hlog
    rw [hp] at hasks
    exact .asked hf hsending hasks (h.settled hopen hsent)

theorem Holds.parameters_ne_nil {pending : List Submission} (h : Holds queue pending)
    {q : QueuedStatement} (hq : q ∈ queue) : q.parameters ≠ [] := by
  obtain ⟨⟨groups, hgroups, -⟩, -⟩ := h
  induction hgroups with
  | nil => cases hq
  | cons hentered _ ih =>
    obtain rfl | hq := List.mem_cons.mp hq
    · rw [hentered.parameters]
      exact fun hnil => hentered.ne_nil (List.map_eq_nil_iff.mp hnil)
    · exact ih hq

theorem unsettled_of_queued (h : Accounted config past w) {q : QueuedStatement}
    (hq : q ∈ w.queue) : ¬ Settled past (past.flatMap Turn.calls) := by
  intro hsettled
  have hqueued : q.statement ∈ statements w.queue := List.mem_map_of_mem hq
  cases h.fate q.statement with
  | absent gone => exact gone hqueued
  | sent _ gone => exact gone hqueued
  | discarded _ gone => exact gone hqueued
  | @queued q' mem same history kept =>
    have hne : q'.parameters.length ≠ 0 := fun hzero =>
      h.holds.parameters_ne_nil mem (List.length_eq_zero_iff.mp hzero)
    have hadded : .added q.statement ∈ about q.statement (marks past) := by
      rw [history]
      exact List.mem_replicate.mpr ⟨hne, rfl⟩
    obtain ⟨t, ht, hm⟩ := List.mem_flatMap.mp (List.mem_filter.mp hadded).1
    have ha : t.Accepted := by
      by_contra hn
      exact (h.turns t ht).not_mem_added hn hm
    obtain ⟨s, hmarks, hcase⟩ := hsettled t ht ha
    rw [hmarks] at hm
    cases List.mem_singleton.mp hm
    obtain ⟨d, hd, hdiscards, -⟩ | ⟨sql, n, o, -, hsent⟩ := hcase
    · exact kept d hd hdiscards
    · obtain ⟨t', ht', he⟩ := List.mem_flatMap.mp hsent
      exact unsent_of_about history n o
        (List.mem_flatMap.mpr ⟨t', ht', List.mem_filterMap.mpr ⟨_, he, rfl⟩⟩)

theorem settled_iff (h : Accounted config past w) (hopen : ∀ d ∈ past, ¬ d.Closes) :
    Settled past (past.flatMap Turn.calls) ↔ w.queue = [] := by
  refine ⟨fun hsettled => ?_, fun hempty => ?_⟩
  · cases hqueue : w.queue with
    | nil => rfl
    | cons q rest =>
      exact absurd hsettled (unsettled_of_queued h (hqueue ▸ List.mem_cons_self))
  · have hnone : ∀ s ∈ statements w.queue,
        ∃ sql n, ⟨.executeBatch s sql n, .succeeded⟩ ∈ ([] : List LogEntry) := by
      rw [hempty]
      exact nofun
    have hsettled := h.settled hopen hnone
    rwa [List.append_nil] at hsettled

variable {op : Session.Operation} {id : String}

theorem Queries.of_unchanged (h : w.database.log = w.database.log ++ calls) :
    Queries config command p past w calls := by
  obtain rfl := List.self_eq_append_right.mp h
  exact .silent

theorem Queries.of_query (h : Accounted config past w)
    (hopen : w.session.closed = false → ∀ d ∈ past, ¬ d.Closes)
    (hq : op.query? = some (id, bounds, handler)) (hc : config.registry.find? id = some command) :
    Queries config command p past w (w.turn config (.perform op p)).calls := by
  have hlog := w.turn_log config (.perform op p)
  obtain ⟨p', hout⟩ := Session.query_of_found (s := w.scope p) hc bounds handler
  rw [(World.turn_query config hq).1, hout] at hlog
  cases hclosed : w.session.closed with
  | true =>
    rw [SessionM.query_of_closed (s := (w.scope p).wrapped) hclosed] at hlog
    exact .of_unchanged hlog
  | false =>
    obtain ⟨c, hsame | ⟨handler', c', hrun⟩⟩ :=
      SessionM.query_state config command bounds handler (w.scope p).wrapped
    · rw [hsame] at hlog
      exact .of_unchanged hlog
    · rw [hrun, SessionM.runQuery_of_batch (u := (w.scope p).wrapped.withCache c)
        h.batched.strategy] at hlog
      exact .of_flush h (hopen hclosed)
        (SessionM.freshQuery_asks config command bounds handler') hlog

theorem Queries.of_selectCursor (h : Accounted config past w)
    (hopen : w.session.closed = false → ∀ d ∈ past, ¬ d.Closes)
    (hc : config.registry.find? id = some command) :
    Queries config command p past w (w.turn config (.perform (.selectCursor id bounds) p)).calls := by
  have hlog := w.turn_log config (.perform (.selectCursor id bounds) p)
  have hdatabase : (w.turn config (.perform (.selectCursor id bounds) p)).after.database =
      ((Session.selectCursor config id bounds).outcome (w.scope p)).2.database :=
    congrArg (fun x => x.2.database) (Session.perform_selectCursor config id bounds (w.scope p))
  obtain ⟨p', hout⟩ := Session.selectCursor_of_found (s := w.scope p) hc bounds
  rw [hdatabase, hout] at hlog
  cases hclosed : w.session.closed with
  | true =>
    rw [SessionM.openCursor_of_closed (s := (w.scope p).wrapped) hclosed] at hlog
    exact .of_unchanged hlog
  | false =>
    have hstrategy : (w.scope p).wrapped.session.strategy = .batch w.queue := h.batched.strategy
    rw [SessionM.openCursor_of_open (s := (w.scope p).wrapped) hclosed, Scope.flushedFor_eq,
      hstrategy] at hlog
    exact .of_flush h (hopen hclosed) (SessionM.freshCursor_asks config command bounds) hlog

theorem keyQuery_first (hopen : w.session.closed = false) (hm : op.mutation? = some id)
    (hc : config.registry.find? id = some command) {key property : String}
    (hkeys : command.keys = .selectKey key property true) :
    ∃ r k asking own,
      Keys.Ran config key (((w.scope p).withDirty true).wrapped.withCache .empty) r k asking ∧
      (w.turn config (.perform op p)).calls = asking ++ own := by
  obtain ⟨p', hout⟩ := Session.mutate_of_found (s := w.scope p) hc
  have hdatabase := (World.turn_mutation config (w := w) (p := p) hm).2.1
  rw [hout] at hdatabase
  have hlog := congrArg Database.log hdatabase
  have hfirst : SessionM.KeyFirst config command key property _ _ :=
    SessionM.mutate_keyFirst hkeys ((w.scope p).withDirty true).wrapped
  rcases hx : (SessionM.mutate config command).outcome ((w.scope p).withDirty true).wrapped with ⟨r, v⟩
  rw [hx] at hfirst hlog
  cases hfirst with
  | closed hclosed => exact absurd (hclosed.symm.trans hopen) nofun
  | @missed r k asking e ran misses =>
    refine ⟨r, v, asking, [], ran, World.calls_of_log ?_⟩
    rw [List.append_nil]
    exact hlog.trans ran.log
  | @unbound key k asking q e ran assigned fails =>
    refine ⟨_, k, asking, [], ran, World.calls_of_log ?_⟩
    rw [List.append_nil]
    exact hlog.trans ran.log
  | @carriedOut key k v asking own q i s sql r ran assigned reads invokes carried takes log issues =>
    refine ⟨_, k, asking, own, ran, World.calls_of_log ?_⟩
    rw [← List.append_assoc]
    exact hlog.trans (log.trans (congrArg (· ++ own) ran.log))

end Batch

/-- A query of a batch session makes no call of its own before everything that was accepted has been
sent or given up. The query for a key is different: it is the first thing that its mutation does,
whatever is queued, so it comes after everything only if nothing is. -/
theorem Run.selects_settled {db : Database} {tr : Transaction} {autoCommit : Bool}
    {past : List Turn} {w : World} (hr : Run config (.opened db .batch tr autoCommit) past w) :
    (∀ op id c p, op.read? = some id → config.registry.find? id = some c →
      Queries config c p past w (w.turn config (.perform op p)).calls) ∧
    (w.session.closed = false →
      (∀ op id c p key property, op.mutation? = some id → config.registry.find? id = some c →
        c.keys = .selectKey key property true → ∃ r k asking own,
          Keys.Ran config key (((w.scope p).withDirty true).wrapped.withCache .empty) r k asking ∧
          (w.turn config (.perform op p)).calls = asking ++ own) ∧
      (Settled past (past.flatMap Turn.calls) ↔ w.queue = [])) := by
  have haccounted := hr.accounted (.opened db tr autoCommit)
  refine ⟨fun op id c p hop hc => ?_, fun hopen => ⟨?_, ?_⟩⟩
  · cases hq : op.query? with
    | none =>
      have hcursor : ∃ bounds, op = .selectCursor id bounds := by
        cases op <;> cases hq <;> cases hop
        exact ⟨_, rfl⟩
      obtain ⟨bounds, rfl⟩ := hcursor
      exact .of_selectCursor haccounted hr.open_before hc
    | some q =>
      obtain ⟨id', bounds, handler⟩ := q
      have hid : id' = id := by
        cases op <;> cases hq <;> cases hop <;> rfl
      subst hid
      exact .of_query haccounted hr.open_before hq hc
  · exact fun op id c p key property hm hc hkeys => keyQuery_first hopen hm hc hkeys
  · exact settled_iff haccounted (hr.open_before hopen)

def ticketsConfig : Configuration :=
  { smallConfig with
    registry := ((Registry.empty.insert (SessionM.ticketCommand true)).insert
        (smallCommand "all" .select "SELECT 1")).insert
      { smallCommand "next" .select "SELECT 7" with resultType := some "int" } }

def ticketStep : Step := .perform (.insert "add") (.named [("id", .null)])

/-- A first insert has been queued with its number. -/
def ticketWorld : World :=
  ((World.opened (.ofScript (Script.empty.respond "SELECT 7" (.ofRows ["n"] [[.int 7]]))) .batch
    (.overSource false none) false).turn ticketsConfig ticketStep).after

/-- The insert is not settled while it is queued; a query would settle it first. -/
theorem ticket_unsettled :
    ∃ start past, Run ticketsConfig start past ticketWorld ∧
      ticketWorld.session.closed = false ∧
      Queries ticketsConfig (smallCommand "all" .select "SELECT 1") .absent past ticketWorld
        (ticketWorld.turn ticketsConfig (.perform (.selectList "all" .all) .absent)).calls ∧
      ¬ Settled past (past.flatMap Turn.calls) := by
  have hrun : Run ticketsConfig _ _ ticketWorld := .turn .start ticketStep
  obtain ⟨hqueries, hkeys⟩ := Run.selects_settled hrun
  refine ⟨_, _, hrun, rfl, hqueries (.selectList "all" .all) "all" _ .absent rfl rfl, fun h => ?_⟩
  exact absurd ((hkeys rfl).2.mp h) (by decide +kernel)

/-- The number for a second insert is drawn while the first one is still in the queue, and nothing has
been executed but the query for its own number. -/
theorem number_drawn_unsent :
    ticketWorld.queue.map (·.parameters) = [[.named [("id", .int 7)]]] ∧
      ticketWorld.database.log.filterMap LogEntry.mark? = [.added ⟨1⟩] ∧
      (ticketWorld.turn ticketsConfig ticketStep).calls =
        [⟨.prepare ⟨0⟩ ⟨2⟩ (.prepared "SELECT 7" false), .succeeded⟩,
          ⟨.execute ⟨2⟩ "SELECT 7", .succeeded⟩, ⟨.nextRow ⟨2⟩, .succeeded⟩,
          ⟨.nextRow ⟨2⟩, .succeeded⟩, ⟨.closeStatement ⟨2⟩ "SELECT 7", .succeeded⟩,
          ⟨.bind ⟨1⟩ 1 (.int 7), .succeeded⟩, ⟨.addBatch ⟨1⟩ "INSERT ?", .succeeded⟩] := by
  decide +kernel

end SqlMapper
