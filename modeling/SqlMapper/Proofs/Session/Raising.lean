import SqlMapper.Proofs.Session.Failing
import SqlMapper.Session.Operation

namespace SqlMapper

open Fallible SessionM

variable {α : Type} {E : Error → Prop} {config : Configuration} {id : String} {command : Command}

theorem Fallible.Fails.discard {σ : Type} {x : Fallible σ α} (h : Fails E x) :
    Fails E (discard x) := by
  intro s e t hx
  rw [outcome_discard] at hx
  rcases hr : x.outcome s with ⟨e' | a, u⟩ <;> rw [hr] at hx <;> cases hx
  exact h s e u hr

theorem Reuse.closeAll_fails (statements : NameMap Statement) :
    Fails E (Reuse.closeAll statements) :=
  (change_fails _).bind fun _ => .within (.forM fun e => e.2.closeQuietly_fails)

namespace Reuse

variable (settings : Settings) (statements : NameMap Statement) (i : Invocation)

theorem create_fails : Fails Error.Plain (create settings statements i) :=
  session_fails.bind fun _ => parameter_fails.bind fun p =>
    connection_fails.bind fun c => (lift_fails (i.prepare_fails _ _ c)).bind fun s =>
      (change_fails _).bind fun _ => (lift_fails (i.parameterize_fails s p)).bind fun _ => .pure _

theorem renew_fails (s : Statement) : Fails Error.Plain (renew settings i s) :=
  session_fails.bind fun _ => parameter_fails.bind fun p =>
    (lift_fails (i.applySettings_fails s _ _)).bind fun _ =>
      (lift_fails (i.parameterize_fails s p)).bind fun _ => .pure _

theorem statement_fails : Fails Error.Plain (statement settings statements i) := by
  unfold statement
  split
  · next s _ =>
    refine (lift_fails (Fails.of_ok fun db => ⟨(db.statement s).closed, rfl⟩)).bind fun closed => ?_
    split
    · exact (change_fails _).bind fun _ => create_fails settings _ i
    · exact renew_fails settings i s
  · exact create_fails settings statements i

end Reuse

namespace Batch

theorem setQueue_fails (queue : List QueuedStatement) : Fails E (setQueue queue) :=
  change_fails _

theorem closeAll_fails (queue : List QueuedStatement) : Fails E (closeAll queue) :=
  .forM fun q => q.statement.closeQuietly_fails

theorem enqueue_fails (settings : Settings) (queue : List QueuedStatement) (i : Invocation) :
    Fails Error.Plain (enqueue settings queue i) := by
  refine parameter_fails.bind fun p => ?_
  split
  · next last _ =>
    exact (lift_fails (i.parameterize_fails _ p)).bind fun _ =>
      (lift_fails (last.statement.addBatch_fails _)).bind fun _ => setQueue_fails _
  · exact (i.freshStatement_fails settings).bind fun s =>
      ((s.addBatch_fails _).orUndo s.closeQuietly_fails).within.bind fun _ => setQueue_fails _

theorem execute_fails (q : QueuedStatement) : Fails E (execute config q) := by
  refine (Fails.of_ok fun _ => ⟨_, rfl⟩).bind fun r => ?_
  split
  · exact .pure _
  · refine (Fails.of_ok fun _ => ⟨_, rfl⟩).bind fun r => ?_
    split <;> exact .pure _

theorem plain_partialFailure (index : Nat) (q : QueuedStatement) (counts : List Int)
    (successful : List BatchResult) (e : Error) :
    (partialFailure index q counts successful e).Plain := by
  cases e <;> trivial

theorem send_fails (successful : List BatchResult) (queue : List QueuedStatement) :
    Fails Error.Plain (send config successful queue) := by
  induction queue generalizing successful with
  | nil => exact .pure _
  | cons q queue ih =>
    refine ((execute_fails q).thenAlways (lift_fails q.statement.closeQuietly_fails)).bind
      fun r => ?_
    split
    · exact ih _
    · exact (lift_fails (closeAll_fails queue)).bind fun _ =>
        .throw (plain_partialFailure _ _ _ _ _)

theorem flush_fails (queue : List QueuedStatement) : Fails Error.Plain (flush config queue) :=
  (setQueue_fails []).bind fun _ => send_fails [] queue

end Batch

namespace Keys

theorem before_fails (h : config.Raises E) (command : Command) :
    Fails E (before config command) := by
  unfold before
  split
  · exact select_fails h _ _
  · exact .pure _

theorem after_fails (h : config.Raises E) (command : Command) (s : Statement) :
    Fails E (after config command s) := by
  unfold after
  split
  · refine (lift_fails (s.generatedKeys_fails.mono h.plain)).bind fun rows => ?_
    split
    · exact .pure _
    · exact onParameter_fails ((assignRow_fails _ _ _).mono h.plain)
  · exact select_fails h _ _
  · exact .pure _

end Keys

namespace SessionM

theorem ensureOpen_fails : Fails Error.Plain ensureOpen := by
  refine session_fails.bind fun s => ?_
  split
  · exact .throw trivial
  · exact .pure _

theorem clearCache_fails : Fails E clearCache := change_fails _

theorem endQuery_fails : Fails E (endQuery config) := by
  unfold endQuery
  split
  · exact clearCache_fails
  · exact .pure _

theorem invocation_fails (h : config.Raises E) (hc : config.registry.find? id = some command)
    (bounds : RowBounds) : Fails E (invocation command bounds) :=
  parameter_fails.bind fun _ => .ending fun _ he => Invocation.error_of h hc he

theorem execute_fails (h : config.Raises E) (i : Invocation) (s : Statement) :
    Fails E (execute config i s) :=
  (lift_fails ((i.execute_fails s).mono h.plain)).bind fun _ =>
    (lift_fails (.of_ok fun _ => ⟨_, rfl⟩)).bind fun _ =>
      ((i.takeOutputs_fails s).mono h.plain).bind fun _ =>
        (Keys.after_fails h i.command s).bind fun _ => .pure _

theorem mutate_fails (h : config.Raises E) (hc : config.registry.find? id = some command) :
    Fails E (mutate config command) := by
  refine (ensureOpen_fails.mono h.plain).bind fun _ => clearCache_fails.bind fun _ =>
    (Keys.before_fails h command).bind fun _ => (invocation_fails h hc .all).bind fun i =>
      session_fails.bind fun session => ?_
  split
  · exact ((i.freshStatement_fails _).mono h.plain).bind fun s =>
      (execute_fails h i s).thenAlways (lift_fails s.closeQuietly_fails)
  · exact ((Reuse.statement_fails _ _ i).mono h.plain).bind fun s => execute_fails h i s
  · exact ((Batch.enqueue_fails _ _ i).mono h.plain).bind fun _ => .pure _

theorem freshQuery_fails (h : config.Raises E) (hc : config.registry.find? id = some command)
    (bounds : RowBounds) (handler : Option RowHandler) :
    Fails E (freshQuery config command bounds handler) :=
  (invocation_fails h hc bounds).bind fun i =>
    ((i.freshStatement_fails _).mono h.plain).bind fun s =>
      (i.query_fails s h handler).thenAlways (lift_fails s.closeQuietly_fails)

theorem runQuery_fails (h : config.Raises E) (hc : config.registry.find? id = some command)
    (bounds : RowBounds) (handler : Option RowHandler) :
    Fails E (runQuery config command bounds handler) := by
  refine session_fails.bind fun session => ?_
  split
  · exact freshQuery_fails h hc bounds handler
  · exact (invocation_fails h hc bounds).bind fun i =>
      ((Reuse.statement_fails _ _ i).mono h.plain).bind fun s => i.query_fails s h handler
  · exact ((Batch.flush_fails _).mono h.plain).discard.bind fun _ =>
      freshQuery_fails h hc bounds handler

theorem plain_of_cacheKey {bounds : RowBounds} {bound : BoundSql} {p : Parameter} {e : Error}
    (h : CacheKey.of command bounds bound p = .error e) : e.Plain := by
  obtain hinputs | ⟨inputs, -, h⟩ := error_of_except_bind_error h
  · obtain ⟨input, -, hinput⟩ := error_of_except_mapM_error hinputs
    exact Parameter.plain_of_lookup hinput
  · cases h

theorem cachedQuery_fails (h : config.Raises E) (hc : config.registry.find? id = some command)
    (bounds : RowBounds) : Fails E (cachedQuery config command bounds) := by
  refine parameter_fails.bind fun p =>
    (Fails.ending fun e he => h.sources id command p e hc he).bind fun bound =>
      (Fails.ending fun e he => h.plain e (plain_of_cacheKey he)).bind fun key =>
        session_fails.bind fun session => ?_
  split
  · exact .pure _
  · exact (runQuery_fails h hc bounds none).bind fun rows => (change_fails _).bind fun _ =>
      endQuery_fails.bind fun _ => .pure _

theorem query_fails (h : config.Raises E) (hc : config.registry.find? id = some command)
    (bounds : RowBounds) (handler : Option RowHandler) :
    Fails E (query config command bounds handler) := by
  refine (ensureOpen_fails.mono h.plain).bind fun _ => clearCache_fails.ite_bind ?_
  dsimp only
  split
  · exact cachedQuery_fails h hc bounds
  · exact (runQuery_fails h hc bounds handler).bind fun _ => endQuery_fails.bind fun _ => .pure _

theorem freshCursor_fails (h : config.Raises E) (hc : config.registry.find? id = some command)
    (bounds : RowBounds) : Fails E (freshCursor config command bounds) :=
  (invocation_fails h hc bounds).bind fun i =>
    ((i.freshStatement_fails _).mono h.plain).bind fun s =>
      (((i.execute_fails s).mono h.plain).orUndo s.closeQuietly_fails).within.bind fun _ => .pure _

theorem openCursor_fails (h : config.Raises E) (hc : config.registry.find? id = some command)
    (bounds : RowBounds) : Fails E (openCursor config command bounds) := by
  refine (ensureOpen_fails.mono h.plain).bind fun _ => clearCache_fails.ite_bind ?_
  refine session_fails.bind fun session => ?_
  dsimp only
  split
  · exact ((Batch.flush_fails _).mono h.plain).discard.bind fun _ => freshCursor_fails h hc bounds
  · exact freshCursor_fails h hc bounds

theorem flush_fails : Fails Error.Plain (flush config) := by
  refine session_fails.bind fun session => ?_
  split
  · exact .pure _
  · exact (Reuse.closeAll_fails _).bind fun _ => .pure _
  · exact Batch.flush_fails _

end SessionM

namespace Session

theorem wrapped_fails {x : SessionM α} (h : Fails E x) : Fails E (wrapped x) := by
  refine parameter_fails.bind fun p => ?_
  split
  · exact (withParameter_fails _ h).bind fun _ => .pure _
  · exact h

theorem command_bind_fails (h : config.Raises E) {f : Command → SessionM α}
    (hf : ∀ c, config.registry.find? id = some c → Fails E (f c)) :
    Fails E (Session.command config id >>= f) := by
  unfold Session.command Registry.get
  cases hc : config.registry.find? id with
  | none => exact Fails.error_bind (h.plain _ trivial)
  | some c => exact Fails.ok_bind (hf c hc)

theorem mutate_fails (h : config.Raises E) (id : String) : Fails E (mutate config id) :=
  command_bind_fails h fun _ hc => (change_fails _).bind fun _ =>
    wrapped_fails (SessionM.mutate_fails h hc)

theorem query_fails (h : config.Raises E) (id : String) (bounds : RowBounds)
    (handler : Option RowHandler) : Fails E (query config id bounds handler) :=
  command_bind_fails h fun _ hc => wrapped_fails (SessionM.query_fails h hc bounds handler)

theorem selectOne_fails (h : config.Raises E) (id : String) : Fails E (selectOne config id) := by
  refine (query_fails h id .all none).bind fun rows => ?_
  split
  · exact .pure _
  · exact .pure _
  · exact .throw (h.plain _ trivial)

theorem plain_of_addRows {key : String} {g : Grouping} {rows : List Value} {e : Error}
    (h : g.addRows key rows = .error e) : e.Plain := by
  induction rows generalizing g with
  | nil => cases h
  | cons row rows ih =>
    rw [Grouping.addRows] at h
    split at h
    · exact ih h
    · cases h
      trivial

theorem selectMap_fails (h : config.Raises E) (id key : String) (bounds : RowBounds) :
    Fails E (selectMap config id key bounds) :=
  (query_fails h id bounds none).bind fun _ => .ending fun e he => h.plain e (plain_of_addRows he)

theorem selectCursor_fails (h : config.Raises E) (id : String) (bounds : RowBounds) :
    Fails E (selectCursor config id bounds) :=
  command_bind_fails h fun _ hc => wrapped_fails (openCursor_fails h hc bounds)

theorem flushStatements_fails : Fails Error.Plain (flushStatements config) :=
  ensureOpen_fails.bind fun _ => SessionM.flush_fails

end Session

end SqlMapper
