import SqlMapper.Proofs.Batch.Sending
import SqlMapper.Proofs.Session.Raising
import SqlMapper.Proofs.Transaction.Manual

namespace SqlMapper

open Fallible

variable {α : Type} {config : Configuration}

theorem Transaction.closeConnection_log (tr : Transaction) (db : Database) :
    ∃ calls, (tr.closeConnection.outcome db).2.log = db.log ++ calls ∧
      ∀ ev ∈ LogEntry.events calls, ev = .connectionClosed := by
  unfold closeConnection
  split
  · exact ⟨[], (List.append_nil _).symm, nofun⟩
  · next c _ =>
    have hevent : ∀ o, ∀ ev ∈ LogEntry.events [⟨.closeConnection c, o⟩],
        ev = .connectionClosed := by
      intro o ev hev
      obtain ⟨e, he, hevent⟩ := List.mem_filterMap.mp hev
      cases List.mem_singleton.mp he
      cases LogEntry.event_of_event? hevent
      rfl
    rw [Connection.close, outcome_of]
    unfold Database.perform
    split
    · exact ⟨_, rfl, hevent _⟩
    · exact ⟨_, rfl, hevent _⟩

namespace SessionM

variable {s : Scope}

theorem abandon_ok (s : Scope) : (abandon.outcome s).1 = .ok () := by
  have hnever : Fails (fun _ => False) abandon := by
    refine .bind (.of_ok fun _ => ⟨_, rfl⟩) fun w => ?_
    split
    · exact .pure _
    · exact Reuse.closeAll_fails _
    · exact .bind (.of_ok fun _ => ⟨_, rfl⟩) fun _ => .of_ok fun u =>
        ⟨(), Batch.closeAll_ok _ u.database⟩
  rcases hx : abandon.outcome s with ⟨e | _, t⟩
  · exact (hnever s e t hx).elim
  · rfl

theorem strategy_of_flush_error {e : Error} (h : ((flush config).outcome s).1 = .error e) :
    ∃ q queue, s.session.strategy = .batch (q :: queue) := by
  rw [flush, outcome_session_bind] at h
  split at h
  · cases h
  · next statements _ =>
    have hnever : Fails (fun _ => False) (Reuse.closeAll statements) := Reuse.closeAll_fails _
    exact (hnever.bind (fun _ => .pure ([] : List BatchResult)) s e _ (Prod.ext h rfl)).elim
  · next queue hst =>
    cases queue with
    | nil => cases h
    | cons q queue => exact ⟨q, queue, hst⟩

end SessionM

namespace Session

variable {op : Operation} {s : Scope}

inductive Ended (call : Connection → Call) (must : Bool) (x : Except Error α × Scope) :
    Except Error Unit × Scope → Prop where
  | failed {e : Error} (error : x.1 = .error e) : Ended call must x (.error e, x.2)
  | falters {e : Error} {db : Database} {calls : List LogEntry}
    (log : db.log = x.2.database.log ++ calls)
    (connections : db.connections = x.2.database.connections)
    (h : ∃ y ∈ calls, y.falters = true) : Ended call must x (.error e, { x.2 with database := db })
  | idle (cause : must = true → x.2.session.transaction.connection? = none) :
    Ended call must x (.ok (), x.2.withDirty false)
  | decided {c : Connection} {db : Database} (hmust : must = true)
    (hc : x.2.session.transaction.connection? = some c)
    (log : db.log = x.2.database.log ++ [⟨.readAutoCommit c, .succeeded⟩, ⟨call c, .succeeded⟩])
    (connections : db.connections = x.2.database.connections) :
    Ended call must x (.ok (), { x.2 with database := db }.withDirty false)

theorem finishing_ended {finish : Transaction → DriverM Unit} {call : Connection → Call}
    (hfinish : ∀ (tr : Transaction) db, tr.Manual db →
      tr.Decision call db ((finish tr).outcome db)) (must : Bool) {x : Except Error α × Scope}
    (h : x.2.session.transaction.Manual x.2.database) :
    Ended call must x (finishing must finish x) := by
  obtain ⟨e | a, t⟩ := x
  · exact .failed rfl
  · unfold finishing
    dsimp only
    cases must with
    | false => exact .idle nofun
    | true =>
      have hdecision := hfinish t.session.transaction t.database h
      rw [if_pos rfl]
      generalize (finish t.session.transaction).outcome t.database = y at hdecision ⊢
      cases hdecision with
      | idle hnone => exact .idle fun _ => hnone
      | falters hlog hsame hf => exact .falters hlog hsame hf
      | decides hc hlog hsame => exact .decided rfl hc hlog hsame

namespace Ended

variable {call : Connection → Call} {must : Bool} {x : Except Error α × Scope}
  {y : Except Error Unit × Scope}

theorem manual (h : Ended call must x y) (hx : x.2.session.transaction.Manual x.2.database) :
    y.2.session.transaction.Manual y.2.database := by
  cases h with
  | failed | idle => exact hx
  | falters _ hsame | decided _ _ _ hsame => exact hx.of_connections hsame

theorem session (h : Ended call must x y) : ∃ d, y.2.session = (x.2.withDirty d).session := by
  cases h with
  | failed | falters => exact ⟨x.2.session.dirty, rfl⟩
  | idle | decided => exact ⟨false, rfl⟩

end Ended

theorem perform_inner (config : Configuration) (hopen : s.session.closed = false)
    (hop : ¬ op.Decides) :
    ∃ c d, ((s.withCache c).withDirty d).Inner ((op.perform config).outcome s).2 ∧
      (s.session.dirty = true → d = true) ∧
      ∀ id command, op.mutation? = some id → config.registry.find? id = some command → d = true := by
  have hkeep : ∀ {c : LocalCache} {t : Scope}, (s.withCache c).Inner t → op.mutation? = none →
      ∃ c d, ((s.withCache c).withDirty d).Inner t ∧ (s.session.dirty = true → d = true) ∧
        ∀ id command, op.mutation? = some id → config.registry.find? id = some command →
          d = true := by
    intro c t h hnone
    refine ⟨c, s.session.dirty, h, id, fun id command hm => ?_⟩
    rw [hnone] at hm
    cases hm
  cases op with
  | commit | rollback | close => exact absurd trivial hop
  | selectOne | selectList | selectMap | selectWithHandler =>
    rw [(perform_query config rfl s).state]
    obtain ⟨c, hi⟩ := query_inner config _ _ _ s
    exact hkeep hi rfl
  | insert id | update id | delete id =>
    rw [perform_mutation config rfl]
    cases hc : config.registry.find? id with
    | none =>
      rw [mutate_of_missing hc]
      refine ⟨s.session.cache, s.session.dirty, .refl s, fun h => h, fun id' command hm hf => ?_⟩
      cases hm
      cases hc.symm.trans hf
    | some command => exact ⟨.empty, true, mutate_inner hc hopen, fun _ => rfl, fun _ _ _ _ => rfl⟩
  | selectCursor id bounds =>
    rw [perform_selectCursor]
    cases hc : config.registry.find? id with
    | none =>
      rw [selectCursor_of_missing hc]
      exact hkeep (c := s.session.cache) (.refl s) rfl
    | some command =>
      have hi := selectCursor_inner hc hopen bounds
      rw [Scope.flushedFor_eq] at hi
      exact hkeep hi rfl
  | flushStatements =>
    rw [perform_flushStatements]
    exact hkeep (c := s.session.cache) flushStatements_inner rfl
  | clearCache =>
    rw [perform_clearCache, clearCache_of_open hopen]
    exact hkeep (.refl _) rfl

end Session

end SqlMapper
