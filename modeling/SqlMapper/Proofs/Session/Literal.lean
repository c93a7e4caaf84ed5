import SqlMapper.Proofs.Session.Operation
import SqlMapper.Proofs.Session.Run

namespace SqlMapper

open Fallible

section Lists

variable {ε α β : Type} {f : α → Except ε β} {l earlier later : List α} {a : α} {e : ε}

theorem except_mapM_ok (h : ∀ a ∈ l, ∃ b, f a = .ok b) : ∃ bs, l.mapM f = .ok bs := by
  obtain ⟨bs, hok, -⟩ | ⟨before, a, after, e, rfl, -, he, -⟩ := except_mapM_cases f l
  · exact ⟨bs, hok⟩
  · obtain ⟨b, hb⟩ := h a (by simp)
    cases hb.symm.trans he

theorem except_mapM_error (h : ∀ a ∈ earlier, ∃ b, f a = .ok b) (he : f a = .error e) :
    (earlier ++ a :: later).mapM f = .error e := by
  obtain ⟨bs, hbs⟩ := except_mapM_ok h
  rw [List.mapM_append, hbs, List.mapM_cons, he]
  rfl

end Lists

variable {α β : Type} {config : Configuration} {command : Command} {bound : BoundSql} {i : Invocation}

namespace SessionM

/-- `x` does not ask for the parameter object, and leaves it as it is. -/
def Ignores (x : SessionM α) : Prop :=
  ∀ u p, x.outcome { u with parameter := p } =
    ((x.outcome u).1, { (x.outcome u).2 with parameter := p })

namespace Ignores

variable {x : SessionM α} {f : α → SessionM β}

theorem pure (a : α) : Ignores (pure a) := fun _ _ => rfl

theorem throw (e : Error) : Ignores (throw e : SessionM α) := fun _ _ => rfl

theorem ending (r : Except Error α) : Ignores (Fallible.ending r) := fun _ _ => rfl

theorem lift (x : DriverM α) : Ignores (liftM x) := fun _ _ => rfl

theorem changeSession (g : Session → Session) : Ignores (changeSession g) := fun _ _ => rfl

theorem session : Ignores session := fun _ _ => rfl

theorem bind (hx : Ignores x) (hf : ∀ a, Ignores (f a)) : Ignores (x >>= f) := by
  intro u p
  rw [outcome_bind, outcome_bind, hx]
  rcases x.outcome u with ⟨e | a, t⟩
  · rfl
  · exact hf a t p

theorem parameter_bind {g : Parameter → SessionM α} (hg : ∀ p, g p = g .absent)
    (habsent : Ignores (g .absent)) : Ignores (parameter >>= g) := by
  intro u p
  rw [outcome_parameter_bind, outcome_parameter_bind, hg, hg u.parameter]
  exact habsent u p

theorem attempt (hx : Ignores x) : Ignores x.attempt := by
  intro u p
  rw [outcome_attempt, outcome_attempt, hx]

theorem discard (hx : Ignores x) : Ignores (discard x) := by
  intro u p
  rw [outcome_discard, outcome_discard, hx]

theorem thenAlways {last : SessionM Unit} (hx : Ignores x) (hlast : Ignores last) :
    Ignores (x.thenAlways last) :=
  hx.attempt.bind fun r => hlast.bind fun _ => .ending r

theorem orUndo {undo : SessionM Unit} (hx : Ignores x) (hundo : Ignores undo) :
    Ignores (x.orUndo undo) := by
  refine hx.attempt.bind fun r => ?_
  cases r with
  | ok a => exact .pure a
  | error e => exact hundo.bind fun _ => .throw e

theorem mapM {g : β → SessionM α} {l : List β} (hg : ∀ b, Ignores (g b)) : Ignores (l.mapM g) := by
  induction l with
  | nil => exact .pure _
  | cons b l ih =>
    rw [List.mapM_cons]
    exact (hg b).bind fun a => ih.bind fun as => .pure _

theorem withParameter (q : Parameter) (x : SessionM α) : Ignores (withParameter q x) := by
  intro u p
  rw [withParameter_outcome, withParameter_outcome]

end Ignores

theorem connection_ignores : Ignores connection :=
  .bind .session fun _ => .bind (.lift _) fun _ => .bind (.changeSession _) fun _ => .pure _

end SessionM

open SessionM

namespace Batch

theorem afterBatch_ignores (config : Configuration) (command : Command) (s : Statement)
    (parameters : List Parameter) (counts : List Int) :
    Ignores (Keys.afterBatch config command s parameters counts) := by
  unfold Keys.afterBatch
  split
  · exact .bind (.lift _) fun rows => .bind (.ending _) fun _ => .pure _
  · exact .mapM fun p => .bind (.withParameter p _) fun _ => .pure _
  · exact .pure _

theorem execute_ignores (config : Configuration) (q : QueuedStatement) :
    Ignores (execute config q) := by
  refine .bind (.lift _) fun r => ?_
  cases r with
  | error e => exact .pure _
  | ok counts =>
    refine .bind (afterBatch_ignores config q.command q.statement q.parameters counts).attempt
      fun r => ?_
    cases r with
    | error e => exact .pure _
    | ok parameters => exact .pure _

theorem send_ignores (config : Configuration) (done : List BatchResult)
    (queue : List QueuedStatement) : Ignores (send config done queue) := by
  induction queue generalizing done with
  | nil => exact .pure _
  | cons q rest ih =>
    refine .bind ((execute_ignores config q).thenAlways (.lift _)) fun r => ?_
    split
    · exact ih _
    · exact .bind (.lift _) fun _ => .throw _

theorem flush_ignores (config : Configuration) (queue : List QueuedStatement) :
    Ignores (flush config queue) :=
  .bind (.changeSession _) fun _ => send_ignores config [] queue

end Batch

namespace Invocation

theorem parameterize_of_statement (h : i.command.statementKind = .statement) (p : Parameter)
    (s : Statement) : i.parameterize p s = pure () := by
  simp only [parameterize, outputs, inputs, h]
  rfl

theorem takeOutputs_ignores (h : i.command.statementKind = .statement) (s : Statement) :
    Ignores (i.takeOutputs s) := by
  simp only [takeOutputs, outputs, h]
  exact .pure _

theorem freshStatement_ignores (h : i.command.statementKind = .statement) (settings : Settings) :
    Ignores (i.freshStatement settings) :=
  .bind .session fun _ => .bind connection_ignores fun _ => .bind (.lift _) fun s =>
    .parameter_bind (fun p => by rw [parameterize_of_statement h, parameterize_of_statement h])
      (.bind (.lift _) fun _ => .pure s)

theorem query_ignores (h : i.command.statementKind = .statement) (mapper : RowMapper)
    (s : Statement) : Ignores (i.query mapper s none) := by
  have hwindow : Ignores (Reading.window s (mapper · i.command.resultType) i.bounds none) := by
    refine .bind (.lift _) fun enough => ?_
    cases enough with
    | false => exact .pure _
    | true => exact .bind (.lift _) fun n => .lift _
  exact .bind (.lift _) fun _ => hwindow.bind fun _ => (takeOutputs_ignores h s).bind fun _ => .pure _

end Invocation

namespace Reuse

theorem create_ignores (h : i.command.statementKind = .statement) (settings : Settings)
    (statements : NameMap Statement) : Ignores (create settings statements i) := by
  refine .bind .session fun w => .parameter_bind (fun p => ?_) ?_
  · simp only [Invocation.parameterize_of_statement h]
  · exact .bind connection_ignores fun c => .bind (.lift _) fun s =>
      .bind (.changeSession _) fun _ => .bind (.lift _) fun _ => .pure s

theorem renew_ignores (h : i.command.statementKind = .statement) (settings : Settings)
    (s : Statement) : Ignores (renew settings i s) := by
  refine .bind .session fun w => .parameter_bind (fun p => ?_) ?_
  · simp only [Invocation.parameterize_of_statement h]
  · exact .bind (.lift _) fun _ => .bind (.lift _) fun _ => .pure s

theorem statement_ignores (h : i.command.statementKind = .statement) (settings : Settings)
    (statements : NameMap Statement) : Ignores (statement settings statements i) := by
  unfold statement
  split
  · refine .bind (.lift _) fun closed => ?_
    split
    · exact .bind (.changeSession _) fun _ => create_ignores h settings _
    · exact renew_ignores h settings _
  · exact create_ignores h settings statements

end Reuse

namespace SessionM

theorem invocation_bind_ignores (hsource : command.source = .template bound) (bounds : RowBounds)
    {f : Invocation → SessionM α} (hf : Ignores (f ⟨command, bound, bounds⟩)) :
    Ignores (invocation command bounds >>= f) := by
  have hof : ∀ p, Invocation.of command p bounds = .ok ⟨command, bound, bounds⟩ := by
    intro p
    rw [Invocation.of, hsource]
    rfl
  intro u p
  rw [invocation_bind_of_ok (hof _), invocation_bind_of_ok (hof _)]
  exact hf u p

theorem runQuery_ignores (config : Configuration) (hkind : command.statementKind = .statement)
    (hsource : command.source = .template bound) (bounds : RowBounds) :
    Ignores (runQuery config command bounds none) := by
  have hfresh : Ignores (freshQuery config command bounds none) :=
    invocation_bind_ignores hsource bounds <|
      .bind (Invocation.freshStatement_ignores hkind _) fun s =>
        (Invocation.query_ignores hkind _ s).thenAlways (.lift _)
  refine .bind .session fun w => ?_
  split
  · exact hfresh
  · exact invocation_bind_ignores hsource bounds <|
      .bind (Reuse.statement_ignores hkind _ _) fun s => Invocation.query_ignores hkind _ s
  · exact .bind (Batch.flush_ignores config _).discard fun _ => hfresh

variable {u : Scope} {bounds : RowBounds}

variable (config) in
theorem cachedQuery_answers {key : CacheKey} (hkey : command.key bounds u.parameter = .ok key)
    (hnone : u.session.cache.find? key = none) :
    ((cachedQuery config command bounds).outcome u).1 =
        ((runQuery config command bounds none).outcome u).1 ∧
      ((cachedQuery config command bounds).outcome u).2.database =
        ((runQuery config command bounds none).outcome u).2.database := by
  rcases hrun : (runQuery config command bounds none).outcome u with ⟨e | rows, t⟩
  · rw [cachedQuery_of_run_error hkey hnone hrun]
    exact ⟨rfl, rfl⟩
  · rw [cachedQuery_of_run_ok hkey hnone hrun]
    exact ⟨rfl, rfl⟩

theorem query_of_literal (hkind : command.statementKind = .statement) (hopen : u.session.closed = false) :
    (query config command bounds none).outcome u =
      (cachedQuery config command bounds).outcome (u.flushedFor command) := by
  have hcached : command.isCached none = true := by
    rw [Command.isCached, hkind]
    rfl
  rw [query_of_open hopen, if_pos hcached]

end SessionM

namespace Command

variable {p : Parameter}

theorem key_of_template (hsource : command.source = .template bound) (bounds : RowBounds)
    (p : Parameter) :
    command.key bounds p =
      (bound.inputs.mapM fun x => p.lookup x.2).map (⟨command.id, bounds, bound.sql, ·⟩) := by
  rw [key, hsource]
  change CacheKey.of command bounds bound p = _
  unfold CacheKey.of
  cases bound.inputs.mapM fun x => p.lookup x.2 <;> rfl

theorem key_ok (hsource : command.source = .template bound) (bounds : RowBounds)
    (h : ∀ x ∈ bound.inputs, ∃ v, p.lookup x.2 = .ok v) :
    ∃ key, command.key bounds p = .ok key := by
  obtain ⟨vs, hvs⟩ := except_mapM_ok h
  rw [key_of_template hsource, hvs]
  exact ⟨_, rfl⟩

theorem key_error {earlier later : List (Nat × String)} {x : Nat × String} {e : Error}
    (hsource : command.source = .template bound) (bounds : RowBounds)
    (hinputs : bound.inputs = earlier ++ x :: later)
    (h : ∀ y ∈ earlier, ∃ v, p.lookup y.2 = .ok v) (he : p.lookup x.2 = .error e) :
    command.key bounds p = .error e := by
  rw [key_of_template hsource, hinputs, except_mapM_error h he]
  rfl

end Command

namespace World

variable {id : String} {bounds : RowBounds}

def freshScope (db : Database) (type : ExecutorType) (t : Transaction) (autoCommit : Bool)
    (p : Parameter) : Scope := ⟨db, .new type t autoCommit, p, []⟩

theorem flushedFor_freshScope (db : Database) (type : ExecutorType) (t : Transaction)
    (autoCommit : Bool) (p : Parameter) :
    (freshScope db type t autoCommit p).flushedFor command = freshScope db type t autoCommit p := by
  rw [Scope.flushedFor_eq]
  cases command.flushesCache <;> rfl

/-- A select of a fresh session comes to what the query makes of the wrapped object. -/
theorem select_of_literal (hfound : config.registry.find? id = some command)
    (hkind : command.statementKind = .statement) (db : Database) (type : ExecutorType)
    (t : Transaction) (autoCommit : Bool) (bounds : RowBounds) (p : Parameter) :
    let turn := (opened db type t autoCommit).turn config (.perform (.selectList id bounds) p)
    let asked := (SessionM.cachedQuery config command bounds).outcome
      (freshScope db type t autoCommit p.wrapCollection)
    turn.result = some (asked.1.map .rows) ∧ turn.after.database = asked.2.database := by
  obtain ⟨p', hq⟩ := Session.query_of_found (s := (opened db type t autoCommit).scope p) hfound
    bounds none
  have hscope : ((opened db type t autoCommit).scope p).wrapped.flushedFor command =
      freshScope db type t autoCommit p.wrapCollection :=
    flushedFor_freshScope db type t autoCommit p.wrapCollection
  rw [SessionM.query_of_literal hkind rfl, hscope] at hq
  have hperform : ((Session.Operation.selectList id bounds).perform config).outcome
      ((opened db type t autoCommit).scope p) = _ :=
    outcome_bind_pure (Session.query config id bounds none) Session.Answer.rows _
  rw [turn_perform, hperform, hq]
  exact ⟨rfl, rfl⟩

theorem select_of_values (hfound : config.registry.find? id = some command)
    (hkind : command.statementKind = .statement) (hsource : command.source = .template bound)
    (db : Database) (type : ExecutorType) (t : Transaction) (autoCommit : Bool) (bounds : RowBounds)
    {p : Parameter} (hvalues : ∀ x ∈ bound.inputs, ∃ v, p.wrapCollection.lookup x.2 = .ok v) :
    let turn := (opened db type t autoCommit).turn config (.perform (.selectList id bounds) p)
    let ran := (SessionM.runQuery config command bounds none).outcome
      (freshScope db type t autoCommit .absent)
    turn.result = some (ran.1.map .rows) ∧ turn.after.database = ran.2.database := by
  intro turn ran
  obtain ⟨key, hkey⟩ := Command.key_ok hsource bounds hvalues
  obtain ⟨hresult, hdatabase⟩ := SessionM.cachedQuery_answers config
    (u := freshScope db type t autoCommit p.wrapCollection) hkey rfl
  have hignores := SessionM.runQuery_ignores config hkind hsource bounds
    (freshScope db type t autoCommit .absent) p.wrapCollection
  change Fallible.outcome _ (freshScope db type t autoCommit p.wrapCollection) = _ at hignores
  rw [hignores] at hresult hdatabase
  have hselect := select_of_literal hfound hkind db type t autoCommit bounds p
  refine ⟨hselect.1.trans ?_, hselect.2.trans hdatabase⟩
  rw [hresult]

/-- Selecting by a command whose text is sent as it is. If the parameter object has values for the
placeholders, it makes no difference, neither to the answer nor to what happens to the database.
But the values are asked for: the first that cannot be had is the error of the query, and nothing is
sent then. -/
theorem literal_select (hfound : config.registry.find? id = some command)
    (hkind : command.statementKind = .statement) (hsource : command.source = .template bound)
    (db : Database) (type : ExecutorType) (t : Transaction) (autoCommit : Bool) (bounds : RowBounds)
    (p : Parameter) :
    let select := fun p =>
      (opened db type t autoCommit).turn config (.perform (.selectList id bounds) p)
    ((∀ x ∈ bound.inputs, ∃ v, p.wrapCollection.lookup x.2 = .ok v) →
      (select p).result = (select .absent).result ∧
        (select p).after.database = (select .absent).after.database) ∧
    ∀ earlier x later e, bound.inputs = earlier ++ x :: later →
      (∀ y ∈ earlier, ∃ v, p.wrapCollection.lookup y.2 = .ok v) →
      p.wrapCollection.lookup x.2 = .error e →
      (select p).result = some (.error e) ∧ (select p).after.database = db := by
  intro select
  refine ⟨fun hvalues => ?_, fun earlier x later e hinputs hearlier he => ?_⟩
  · obtain ⟨hresult, hdatabase⟩ :=
      select_of_values hfound hkind hsource db type t autoCommit bounds hvalues
    obtain ⟨hresult', hdatabase'⟩ :=
      select_of_values hfound hkind hsource db type t autoCommit bounds (p := .absent)
        fun _ _ => ⟨.null, rfl⟩
    exact ⟨hresult.trans hresult'.symm, hdatabase.trans hdatabase'.symm⟩
  · have hkey := Command.key_error hsource bounds hinputs hearlier he
    have herror : (SessionM.cachedQuery config command bounds).outcome
        (freshScope db type t autoCommit p.wrapCollection) = (.error e, _) :=
      SessionM.cachedQuery_of_error hkey
    obtain ⟨hresult, hdatabase⟩ := select_of_literal hfound hkind db type t autoCommit bounds p
    rw [herror] at hresult hdatabase
    exact ⟨hresult, hdatabase⟩

end World

/-- A select whose text is sent as it is, with one placeholder in it. -/
def literalCommand : Command :=
  (Command.ofSource "find" .select (.template ⟨"SELECT ?", [⟨"x", .input⟩]⟩)).withDefaultKind
    .statement

def literalConfig : Configuration where
  settings := .standard
  registry := .insert .empty literalCommand
  collections := .standard
  mapper := .byLabel false

def literalDatabase : Database :=
  .ofScript (Script.empty.respond "SELECT ?" (.ofRows ["n"] [[.int 1]]))

def literalTurn (type : ExecutorType) (p : Parameter) : Turn :=
  (World.opened literalDatabase type (.overSource false none) false).turn literalConfig
    (.perform (.selectList "find" .all) p)

/-- An object that binds the name makes no difference, and one that does not makes the query fail. -/
theorem bound_name_unused :
    literalConfig.registry.find? "find" = some literalCommand ∧
      literalCommand.statementKind = .statement ∧
      literalCommand.source = .template ⟨"SELECT ?", [⟨"x", .input⟩]⟩ ∧
      (literalTurn .reuse (.named [("x", .int 5)])).result = (literalTurn .reuse .absent).result ∧
      (literalTurn .reuse (.named [("x", .int 5)])).after.database =
        (literalTurn .reuse .absent).after.database ∧
      (literalTurn .reuse (.named [("y", .int 5)])).result =
        some (.error (.parameterNotFound "x" ["y"])) := by
  have hfound : literalConfig.registry.find? "find" = some literalCommand := rfl
  have hsource : literalCommand.source = .template ⟨"SELECT ?", [⟨"x", .input⟩]⟩ := rfl
  have hselect := World.literal_select hfound rfl hsource literalDatabase .reuse
    (.overSource false none) false .all
  obtain ⟨hresult, hdatabase⟩ := (hselect (.named [("x", .int 5)])).1 fun x hx => ⟨.int 5, by
    cases List.mem_singleton.mp hx
    rfl⟩
  have herror := ((hselect (.named [("y", .int 5)])).2 [] (1, "x") [] _ rfl nofun rfl).1
  exact ⟨hfound, rfl, hsource, hresult, hdatabase, herror⟩

/-- Without an object the rows are answered; with one that does not bind the name nothing is even
sent. -/
theorem unbound_name_refused :
    (literalTurn .simple .absent).result = some (.ok (.rows [.object [("n", .int 1)]])) ∧
      (literalTurn .simple (.named [("y", .int 1)])).result =
        some (.error (.parameterNotFound "x" ["y"])) ∧
      (literalTurn .simple (.named [("y", .int 1)])).calls = [] ∧
      (literalTurn .simple .absent).calls ≠ [] :=
  ⟨rfl, rfl, rfl, nofun⟩

end SqlMapper
