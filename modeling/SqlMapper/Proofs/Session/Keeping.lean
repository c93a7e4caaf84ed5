import SqlMapper.Proofs.Session.Blind
import SqlMapper.Proofs.Session.Custody

namespace SqlMapper

open Fallible Scope

variable {α : Type} {H : Transaction → List Statement → Database → Prop} {st : Strategy}
  {type : ExecutorType} {extra : List Statement} {s : Statement}

namespace Scope

structure Lends (H : Transaction → List Statement → Database → Prop) (type : ExecutorType)
    (extra : List Statement) (s : Statement) (u : Scope) : Prop where
  tends : u.Tends H type extra
  kept : s ∈ u.session.strategy.statements

structure Spare (H : Transaction → List Statement → Database → Prop) (type : ExecutorType)
    (extra : List Statement) (u : Scope) : Prop where
  tends : u.Tends H type extra
  none : u.session.strategy.statements = []

theorem Keeps.spare {u : Scope} (h : u.Keeps H st extra) (hnone : st.statements = [])
    (hst : st.Sorted) : u.Spare H st.executorType extra := by
  obtain ⟨rfl, hold⟩ := h
  refine ⟨⟨rfl, hst, ?_⟩, hnone⟩
  rw [hnone]
  exact hold

theorem Tends.blind : Blind (Tends H type extra) := ⟨fun h => h.same⟩

theorem Spare.blind : Blind (Spare H type extra) :=
  ⟨fun h ht hs hd => ⟨h.tends.same ht hs hd, hs ▸ h.none⟩⟩

end Scope

namespace SessionM

theorem maintains_tends {x : SessionM α} {V : α → Prop}
    (h : ∀ st held, Maintains (Keeps H st held) x V) : Maintains (Tends H type extra) x V := by
  intro u hu
  obtain ⟨hk, hV⟩ := h _ _ u hu.keeps
  exact ⟨hk.tends hu.kind hu.sorted, hV⟩

theorem maintains_lends {x : SessionM α} {V : α → Prop}
    (h : ∀ st held, s ∈ held → Maintains (Keeps H st held) x V) :
    Maintains (Lends H type extra s) x V := by
  intro u hu
  obtain ⟨hk, hV⟩ := h _ _ (List.mem_append_left extra hu.kept) u hu.tends.keeps
  refine ⟨⟨hk.tends hu.tends.kind hu.tends.sorted, ?_⟩, hV⟩
  rw [hk.strategy]
  exact hu.kept

theorem lends_leads {x : SessionM α} {V : α → Prop}
    (h : ∀ st held, s ∈ held → Maintains (Keeps H st held) x V) :
    Leads (Lends H type extra s) x (fun _ => Lends H type extra s) (Tends H type extra) :=
  (maintains_lends h).leads.weaken_error fun _ h => h.tends

theorem strategy_leads {w : Session} {x : SessionM α} {Q : α → Scope → Prop} {E : Scope → Prop}
    (hst : w.strategy = st)
    (h : st.executorType = type → st.Sorted →
      Leads (Keeps H st (st.statements ++ extra)) x Q E) :
    Leads (fun u => u.Tends H type extra ∧ u.session = w) x Q E := by
  rintro u ⟨hu, rfl⟩
  subst hst
  exact h hu.kind hu.sorted u hu.keeps

end SessionM

namespace Reuse

variable {m : NameMap Statement}

theorem setStatement_lends (hH : Custody H) (hm : NameMap.Sorted m) {sql : String}
    (hnone : m.get? sql = none) (s : Statement) :
    Leads (Keeps H (.reuse m) (s :: (m.map Prod.snd ++ extra))) (setStatements (m.insert sql s))
      (fun _ => Lends H .reuse extra s) (Tends H .reuse extra) := by
  refine .change fun u h => ?_
  have hperm := (NameMap.insert_perm hnone s).map Prod.snd
  have hkeeps : Keeps H (.reuse (m.insert sql s)) ((m.insert sql s).map Prod.snd ++ extra)
      { u with session := { u.session with strategy := .reuse (m.insert sql s) } } :=
    ⟨rfl, h.holding.perm hH (hperm.symm.append_right extra)⟩
  exact ⟨hkeeps.tends rfl (NameMap.sorted_insert hm _ s), hperm.mem_iff.mpr List.mem_cons_self⟩

theorem parameterize_lends (hH : Custody H) (i : Invocation) (p : Parameter) (s : Statement) :
    Leads (Lends H .reuse extra s) (liftM (i.parameterize p s) : SessionM Unit)
      (fun _ => Lends H .reuse extra s) (Tends H .reuse extra) :=
  SessionM.lends_leads fun _ _ hs => Invocation.parameterize_inHand hH hs p

theorem create_tends (hH : Custody H) (hm : NameMap.Sorted m) (settings : Settings)
    {i : Invocation} (hnone : m.get? i.bound.sql = none) :
    Leads (Keeps H (.reuse m) (m.map Prod.snd ++ extra)) (create settings m i)
      (Lends H .reuse extra) (Tends H .reuse extra) := by
  refine SessionM.session_bind_leads fun w => SessionM.parameter_bind_leads fun p => ?_
  have hfresh : Leads (fun u => u.Keeps H (.reuse m) (m.map Prod.snd ++ extra) ∧ u.session = w)
      (do
        let c ← SessionM.connection
        i.prepare settings w.transaction.timeout c : SessionM Statement)
      (fun s => Keeps H (.reuse m) (s :: (m.map Prod.snd ++ extra))) (Tends H .reuse extra) :=
    ((SessionM.connection_inHand hH).bind fun c => Invocation.prepare_inHand hH c _).weaken
      (fun _ h => h.1) (fun _ _ h => h) fun _ h => h.tends rfl hm
  -- between its creation and its being kept, the statement is in hand
  rw [← bind_assoc]
  exact hfresh.bind fun s => (setStatement_lends hH hm hnone s).bind fun _ =>
    (parameterize_lends hH i p s).bind fun _ => .pure fun _ h => h

theorem renew_tends (hH : Custody H) (hm : NameMap.Sorted m) (settings : Settings)
    {i : Invocation} (hget : m.get? i.bound.sql = some s) :
    Leads (Keeps H (.reuse m) (m.map Prod.snd ++ extra)) (renew settings i s)
      (Lends H .reuse extra) (Tends H .reuse extra) := by
  refine SessionM.session_bind_leads fun w => SessionM.parameter_bind_leads fun p => ?_
  have hsettings : Leads (Lends H .reuse extra s)
      (liftM (i.applySettings settings w.transaction.timeout s) : SessionM Unit)
      (fun _ => Lends H .reuse extra s) (Tends H .reuse extra) :=
    SessionM.lends_leads fun _ _ hs => SessionM.lift_inHand fun _ =>
      Invocation.applySettings_holding hH hs _
  refine (hsettings.bind fun _ => (parameterize_lends hH i p s).bind fun _ =>
    .pure fun _ h => h).weaken_pre fun u h => ⟨h.1.tends rfl hm, ?_⟩
  rw [h.1.strategy]
  exact List.mem_map_of_mem (NameMap.mem_of_get? hget)

/-- The statement that is answered is one of those that are kept then. What is kept is open, so none
has to make way. -/
theorem statement_tends (hH : Custody H) (hm : NameMap.Sorted m) (settings : Settings)
    (i : Invocation) :
    Leads (Keeps H (.reuse m) (m.map Prod.snd ++ extra)) (statement settings m i)
      (Lends H .reuse extra) (Tends H .reuse extra) := by
  intro u hu
  cases hget : m.get? i.bound.sql with
  | none =>
    rw [statement_of_missing hget]
    exact create_tends hH hm settings hget u hu
  | some s =>
    have hs : s ∈ m.map Prod.snd := List.mem_map_of_mem (NameMap.mem_of_get? hget)
    have hopen := hu.holding.inHand.isOpen s (List.mem_append_left extra hs)
    rw [statement_of_open hget hopen]
    exact renew_tends hH hm settings hget u hu

theorem closeAll_spare (hH : Custody H) :
    Leads (Keeps H (.reuse m) (m.map Prod.snd ++ extra)) (closeAll m)
      (fun _ => Spare H .reuse extra) (Spare H .reuse extra) := by
  have hset : Leads (Keeps H (.reuse m) (m.map Prod.snd ++ extra)) (setStatements [])
      (fun _ => Keeps H (.reuse []) (m.map Prod.snd ++ extra)) (Spare H .reuse extra) :=
    .change fun _ h => ⟨rfl, h.holding⟩
  refine hset.bind fun _ => (SessionM.lift_leads fun tr =>
    Statement.closeAll_holding hH Prod.snd m (Holding H tr extra)).weaken (fun _ h => h) ?_ ?_
  · exact fun _ u h => h.spare rfl List.Pairwise.nil
  · exact fun u h => h.spare rfl List.Pairwise.nil

end Reuse

namespace Batch

variable {queue : List QueuedStatement}

theorem setQueue_tends (hH : Custody H) {held : List Statement} {queue' : List QueuedStatement}
    (hperm : held.Perm (queue'.map QueuedStatement.statement ++ extra)) :
    Leads (Keeps H st held) (setQueue queue') (fun _ => Tends H .batch extra)
      (Tends H .batch extra) :=
  .change fun _ h => ⟨rfl, trivial, h.holding.perm hH hperm⟩

theorem enqueue_tends (hH : Custody H) (settings : Settings) (i : Invocation) :
    Leads (Keeps H (.batch queue) (queue.map QueuedStatement.statement ++ extra))
      (enqueue settings queue i) (fun _ => Tends H .batch extra) (Tends H .batch extra) := by
  have hback : ∀ u : Scope, u.Keeps H (.batch queue)
      (queue.map QueuedStatement.statement ++ extra) → u.Tends H .batch extra :=
    fun _ h => h.tends rfl trivial
  unfold enqueue
  refine SessionM.parameter_bind_leads fun p => ?_
  split
  · next last hlast =>
    obtain ⟨hqueue, -⟩ := Option.filter_eq_some_iff.mp hlast
    obtain ⟨front, rfl⟩ := List.getLast?_eq_some_iff.mp hqueue
    have hheld : last.statement ∈
        (front ++ [last]).map QueuedStatement.statement ++ extra := by simp
    have hadd : Maintains (Keeps H (.batch (front ++ [last]))
        ((front ++ [last]).map QueuedStatement.statement ++ extra))
        (do
          i.parameterize p last.statement
          i.addBatch last.statement : SessionM Unit) fun _ => True :=
      (Invocation.parameterize_inHand hH hheld p).bind fun _ _ => Invocation.addBatch_inHand hH hheld
    rw [← bind_assoc]
    refine (hadd.leads.weaken_error hback).bind fun _ =>
      setQueue_tends hH ?_
    simp [addParameter]
  · have hfresh : Leads (Keeps H (.batch queue) (queue.map QueuedStatement.statement ++ extra))
        (i.freshStatement settings)
        (fun s => Keeps H (.batch queue) (s :: (queue.map QueuedStatement.statement ++ extra)))
        (Tends H .batch extra) :=
      (Invocation.freshStatement_inHand hH).weaken_error hback
    refine hfresh.bind fun s => Leads.bind ((Invocation.orClose_inHand hH fun _ =>
      s.addBatch_holding hH List.mem_cons_self i.text).weaken_error hback) fun _ =>
        setQueue_tends hH ?_
    simpa using List.perm_middle.symm

theorem execute_inHand (config : Configuration) (hH : Custody H) {held : List Statement}
    {q : QueuedStatement} (hq : q.statement ∈ held) (E : Scope → Prop) :
    Leads (Keeps H st held) (execute config q) (fun _ => Keeps H st held) E :=
  (SessionM.lift_inHand fun _ => q.statement.executeBatch_holding hH hq).leads.attempt_bind
    (fun counts => (Keys.afterBatch_inHand config hH hq q.command q.parameters
      counts).leads.attempt_bind (fun _ => .pure fun _ h => h) fun _ => .pure fun _ h => h)
    fun _ => .pure fun _ h => h

theorem closeAll_inHand (hH : Custody H) (queue : List QueuedStatement) :
    Leads (Keeps H st (queue.map QueuedStatement.statement ++ extra))
      (liftM (closeAll queue) : SessionM Unit) (fun _ => Keeps H st extra) (Keeps H st extra) :=
  SessionM.lift_leads fun _ => Statement.closeAll_holding hH QueuedStatement.statement queue _

/-- Each queued statement is closed, whether it was sent or not. -/
theorem send_inHand (config : Configuration) (hH : Custody H) (successful : List BatchResult)
    (queue : List QueuedStatement) :
    Leads (Keeps H st (queue.map QueuedStatement.statement ++ extra))
      (send config successful queue) (fun _ => Keeps H st extra) (Keeps H st extra) := by
  induction queue generalizing successful with
  | nil => exact .pure fun _ h => h
  | cons q rest ih =>
    unfold send
    have hexecute : Leads (Keeps H st ((q :: rest).map QueuedStatement.statement ++ extra))
        ((execute config q).thenAlways (liftM q.statement.closeQuietly))
        (fun _ => Keeps H st (rest.map QueuedStatement.statement ++ extra)) (Keeps H st extra) :=
      (execute_inHand config hH List.mem_cons_self fun _ => False).thenAlways
        (fun _ => SessionM.closeQuietly_inHand hH _ _ _) fun _ hf => hf.elim
    refine hexecute.bind fun r => ?_
    cases r with
    | ok result => exact ih _
    | error e => exact (closeAll_inHand hH rest).bind fun _ => .throw fun _ h => h

theorem emptied_spare {x : SessionM α}
    (hx : Leads (Keeps H (.batch []) (queue.map QueuedStatement.statement ++ extra)) x
      (fun _ => Keeps H (.batch []) extra) (Keeps H (.batch []) extra)) :
    Leads (Keeps H (.batch queue) (queue.map QueuedStatement.statement ++ extra))
      (setQueue [] >>= fun _ => x) (fun _ => Spare H .batch extra) (Spare H .batch extra) := by
  have hset : Leads (Keeps H (.batch queue) (queue.map QueuedStatement.statement ++ extra))
      (setQueue []) (fun _ => Keeps H (.batch []) (queue.map QueuedStatement.statement ++ extra))
      (Spare H .batch extra) := .change fun _ h => ⟨rfl, h.holding⟩
  refine hset.bind fun _ => hx.weaken (fun _ h => h) (fun _ u h => ?_) fun u h => ?_
  · exact h.spare rfl trivial
  · exact h.spare rfl trivial

theorem flush_spare (config : Configuration) (hH : Custody H) :
    Leads (Keeps H (.batch queue) (queue.map QueuedStatement.statement ++ extra))
      (flush config queue) (fun _ => Spare H .batch extra) (Spare H .batch extra) :=
  emptied_spare (send_inHand config hH [] queue)

theorem discard_flush_tends (config : Configuration) (hH : Custody H) :
    Leads (Keeps H (.batch queue) (queue.map QueuedStatement.statement ++ extra))
      (discard (flush config queue)) (fun _ => Tends H .batch extra) (Tends H .batch extra) :=
  (flush_spare config hH).discard.weaken (fun _ h => h) (fun _ _ h => h.tends) fun _ h => h.tends

theorem abandon_spare (hH : Custody H) :
    Leads (Keeps H (.batch queue) (queue.map QueuedStatement.statement ++ extra))
      (abandon queue) (fun _ => Spare H .batch extra) (Spare H .batch extra) :=
  emptied_spare (closeAll_inHand hH queue)

end Batch

namespace SessionM

variable (config : Configuration)

theorem execute_tends (hH : Custody H) (i : Invocation) :
    Maintains (Lends H type extra s) (execute config i s) fun _ => True :=
  maintains_lends fun _ _ hs => execute_inHand config hH hs i

theorem mutate_tends (hH : Custody H) (command : Command) :
    Maintains (Tends H type extra) (mutate config command) fun _ => True := by
  refine (ensureOpen_blind Tends.blind).bind fun _ _ =>
    (clearCache_blind Tends.blind).bind fun _ _ =>
      (maintains_tends fun _ _ => Keys.before_inHand config hH command).bind fun _ _ =>
        (maintains_tends fun _ _ => invocation_inHand command .all).bind fun i _ => ?_
  refine Leads.maintains (session_bind_leads fun w => ?_)
  split
  · next hst =>
    refine strategy_leads hst fun hkind _ => ((Invocation.freshStatement_inHand hH).bind fun s =>
      thenClose_inHand hH (execute_inHand config hH List.mem_cons_self i)).weaken (fun _ h => h)
        (fun _ _ h => ?_) fun _ h => ?_
    · exact h.tends hkind trivial
    · exact h.tends hkind trivial
  · next m hst =>
    refine strategy_leads hst fun hkind hm => ?_
    subst hkind
    exact (Reuse.statement_tends hH hm config.settings i).bind fun s =>
      (execute_tends config hH i).leads.weaken (fun _ h => h) (fun _ _ h => h.tends)
        fun _ h => h.tends
  · next queue hst =>
    refine strategy_leads hst fun hkind _ => ?_
    subst hkind
    exact (Batch.enqueue_tends hH config.settings i).bind fun _ => .pure fun _ h => h

theorem runQuery_tends (hH : Custody H) (command : Command) (bounds : RowBounds)
    (handler : Option RowHandler) :
    Maintains (Tends H type extra) (runQuery config command bounds handler) fun _ => True := by
  have hfresh : Maintains (Tends H type extra) (freshQuery config command bounds handler)
      fun _ => True := maintains_tends fun _ _ => freshQuery_inHand config hH command bounds handler
  refine Leads.maintains (session_bind_leads fun w => ?_)
  split
  · exact hfresh.leads.weaken_pre fun _ h => h.1
  · next m hst =>
    refine strategy_leads hst fun hkind hm => ?_
    subst hkind
    have hinvocation : Leads (Keeps H (.reuse m) (m.map Prod.snd ++ extra))
        (invocation command bounds) (fun _ => Keeps H (.reuse m) (m.map Prod.snd ++ extra))
        (Tends H .reuse extra) :=
      (invocation_inHand command bounds).leads.weaken_error fun _ h => h.tends rfl hm
    refine hinvocation.bind fun i => (Reuse.statement_tends hH hm config.settings i).bind fun s => ?_
    exact (maintains_lends fun _ _ hs =>
      Invocation.query_inHand hH hs config.mapper handler).leads.weaken (fun _ h => h)
        (fun _ _ h => h.tends) fun _ h => h.tends
  · next queue hst =>
    refine strategy_leads hst fun hkind _ => ?_
    subst hkind
    exact (Batch.discard_flush_tends config hH).bind fun _ => hfresh.leads

theorem openCursor_tends (hH : Custody H) (command : Command) (bounds : RowBounds) :
    Leads (Tends H type extra) (openCursor config command bounds)
      (fun c u => ∃ s, c.Owns s ∧ u.Tends H type (s :: extra)) (Tends H type extra) := by
  have hfresh : Leads (Tends H type extra) (freshCursor config command bounds)
      (fun c u => ∃ s, c.Owns s ∧ u.Tends H type (s :: extra)) (Tends H type extra) := by
    intro u hu
    have hleads : Leads (Keeps H u.session.strategy (u.session.strategy.statements ++ extra))
        (freshCursor config command bounds)
        (fun c v => ∃ s, c.Owns s ∧ Keeps H u.session.strategy
          (s :: (u.session.strategy.statements ++ extra)) v)
        (Keeps H u.session.strategy (u.session.strategy.statements ++ extra)) :=
      freshCursor_inHand config hH command bounds
    refine ⟨fun c v hv => ?_, fun e v hv =>
      (hleads.error hv hu.keeps).tends hu.kind hu.sorted⟩
    obtain ⟨s, hs, hk⟩ := hleads.ok hv hu.keeps
    exact ⟨s, hs, (hk.perm hH List.perm_middle.symm).tends hu.kind hu.sorted⟩
  have hclosed : Leads (fun u => u.Tends H type extra ∧ u.session.closed = true)
      (openCursor config command bounds) (fun c u => ∃ s, c.Owns s ∧ u.Tends H type (s :: extra))
      (Tends H type extra) :=
    .of_outcome fun u hu => ⟨_, _, openCursor_of_closed hu.2, nofun, fun _ _ => hu.1⟩
  intro u hu
  cases hc : u.session.closed with
  | true => exact hclosed u ⟨hu, hc⟩
  | false =>
    have hflushed : (u.flushedFor command).Tends H type extra := by
      rw [Scope.flushedFor_eq]
      exact hu.same rfl rfl rfl
    rw [openCursor_of_open hc]
    split
    · next queue hst =>
      have hqueue : (u.flushedFor command).session.strategy = .batch queue := by
        rw [Scope.flushedFor_eq]
        exact hst
      have hkeeps := hflushed.keeps
      have hkind := hflushed.kind
      rw [hqueue] at hkeeps hkind
      subst hkind
      exact ((Batch.discard_flush_tends config hH).bind fun _ => hfresh) _ hkeeps
    · exact hfresh _ hflushed

theorem flush_spare (hH : Custody H) :
    Leads (Tends H type extra) (flush config) (fun _ => Spare H type extra)
      (Spare H type extra) := by
  refine session_bind_leads fun w => ?_
  split
  · next hst =>
    refine strategy_leads hst fun hkind _ => ?_
    subst hkind
    exact .pure fun _ h => h.spare rfl trivial
  · next m hst =>
    refine strategy_leads hst fun hkind _ => ?_
    subst hkind
    exact (Reuse.closeAll_spare hH).bind fun _ => .pure fun _ h => h
  · next queue hst =>
    refine strategy_leads hst fun hkind _ => ?_
    subst hkind
    exact Batch.flush_spare config hH

theorem abandon_spare (hH : Custody H) :
    Leads (Tends H type extra) abandon (fun _ => Spare H type extra) (Spare H type extra) := by
  refine session_bind_leads fun w => ?_
  split
  · next hst =>
    refine strategy_leads hst fun hkind _ => ?_
    subst hkind
    exact .pure fun _ h => h.spare rfl trivial
  · next m hst =>
    refine strategy_leads hst fun hkind _ => ?_
    subst hkind
    exact Reuse.closeAll_spare hH
  · next queue hst =>
    refine strategy_leads hst fun hkind _ => ?_
    subst hkind
    exact Batch.abandon_spare hH

end SessionM

namespace Session

variable {config : Configuration}

def Operation.Decides : Operation → Prop
  | .commit _ | .rollback _ | .close => True
  | _ => False

theorem query_tends (hH : Custody H) (id : String) (bounds : RowBounds)
    (handler : Option RowHandler) :
    Maintains (Tends H type extra) (query config id bounds handler) fun _ => True :=
  query_blind Tends.blind fun c _ => SessionM.query_blind Tends.blind fun handler =>
    SessionM.runQuery_tends config hH c bounds handler

theorem mutate_tends (hH : Custody H) (id : String) :
    Maintains (Tends H type extra) (mutate config id) fun _ => True :=
  mutate_blind Tends.blind fun c _ => SessionM.mutate_tends config hH c

theorem selectCursor_tends (hH : Custody H) (id : String) (bounds : RowBounds) :
    Leads (Tends H type extra) (selectCursor config id bounds)
      (fun c u => ∃ s, c.Owns s ∧ u.Tends H type (s :: extra)) (Tends H type extra) := by
  refine selectCursor_blind Tends.blind (fun c => ⟨fun h ht hs hd => ?_⟩) fun c _ =>
    SessionM.openCursor_tends config hH c bounds
  obtain ⟨s, howns, htends⟩ := h
  exact ⟨s, howns, htends.same ht hs hd⟩

theorem flushStatements_tends (hH : Custody H) :
    Maintains (Tends H type extra) (flushStatements config) fun _ => True :=
  (SessionM.ensureOpen_blind Tends.blind).bind fun _ _ => ((SessionM.flush_spare config hH).weaken
    (fun _ h => h) (fun _ _ h => h.tends) fun _ h => h.tends).maintains

theorem cursors_of_perform {op : Operation} {a : Answer} {u v : Scope}
    (hop : ∀ id bounds, op ≠ .selectCursor id bounds)
    (h : (op.perform config).outcome u = (.ok a, v)) : a.cursors = [] := by
  cases op with
  | selectCursor id bounds => exact absurd rfl (hop id bounds)
  | _ =>
    obtain ⟨_, _, -, ha⟩ := ok_of_bind_ok h
    cases ha
    rfl

theorem perform_tends (hH : Custody H) {op : Operation} (hop : ¬op.Decides) :
    Leads (Tends H type extra) (op.perform config)
      (fun a u => (∀ c ∈ a.cursors, ∃ s, c.Owns s) ∧
        u.Tends H type (a.cursors.filterMap Cursor.statement ++ extra)) (Tends H type extra) := by
  have hquiet : (∀ id bounds, op ≠ .selectCursor id bounds) →
      Maintains (Tends H type extra) (op.perform config) (fun _ => True) →
      Leads (Tends H type extra) (op.perform config)
        (fun a u => (∀ c ∈ a.cursors, ∃ s, c.Owns s) ∧
          u.Tends H type (a.cursors.filterMap Cursor.statement ++ extra)) (Tends H type extra) := by
    intro hcursor h u hu
    refine ⟨fun a v hv => ?_, fun e v hv => kept hv h hu⟩
    dsimp only
    rw [cursors_of_perform hcursor hv]
    exact ⟨nofun, kept hv h hu⟩
  cases op with
  | commit | rollback | close => exact absurd trivial hop
  | selectOne id | selectList id bounds | selectMap id key bounds
  | selectWithHandler id bounds handler =>
    exact hquiet nofun (perform_query_maintains rfl (query_tends hH _ _ _))
  | insert id | update id | delete id =>
    exact hquiet nofun ((mutate_tends hH id).bind fun _ _ => .pure trivial)
  | flushStatements =>
    exact hquiet nofun ((flushStatements_tends hH).bind fun _ _ => .pure trivial)
  | clearCache => exact hquiet nofun ((clearCache_blind Tends.blind).bind fun _ _ => .pure trivial)
  | selectCursor id bounds =>
    refine (selectCursor_tends hH id bounds).bind fun c => .pure fun u h => ?_
    obtain ⟨s, hs, ht⟩ := h
    have hown : (Answer.cursor c).cursors.filterMap Cursor.statement = [s] := by
      simp [Answer.cursors, hs.statement]
    rw [hown]
    refine ⟨fun c' hc' => ?_, ht⟩
    obtain rfl := List.mem_singleton.mp hc'
    exact ⟨s, hs⟩

end Session

end SqlMapper
