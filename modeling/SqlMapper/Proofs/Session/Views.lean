import SqlMapper.Proofs.Session.Paired
import SqlMapper.Proofs.Statements.Provenance

namespace SqlMapper

open Fallible Database Scope

/-- What there is to see of a cursor: whether it has a statement, but not which one. -/
def Cursor.shown (c : Cursor) : Cursor := { c with statement := c.statement.map fun _ => ⟨0⟩ }

def Session.Answer.shown : Session.Answer → Session.Answer
  | .cursor c => .cursor c.shown
  | a => a

@[ext]
structure Turn.View where
  /-- How an operation ended. -/
  result : Option (Except Error Session.Answer)
  /-- The parameter object that an operation left. -/
  parameter : Option Parameter
  /-- The calls of the row callback. -/
  handled : List Handling
  /-- What a cursor answered when it was asked for a row. -/
  fetched : Option (Except Error (Option (Except Error Value)))
  events : List Event
  cursors : List Cursor
  closed : Bool
  dirty : Bool

def Turn.left (config : Configuration) (t : Turn) : Option Scope :=
  match t.step with
  | .perform op p => some ((op.perform config).outcome (t.before.scope p)).2
  | _ => none

def Turn.fetched (t : Turn) : Option (Except Error (Option (Except Error Value))) :=
  match t.step with
  | .fetch i => t.before.cursors[i]?.map fun c =>
    (c.next.outcome t.before.database).1.map Prod.fst
  | _ => none

def Turn.view (config : Configuration) (t : Turn) : Turn.View where
  result := t.result.map fun r => r.map Session.Answer.shown
  parameter := (t.left config).map Scope.parameter
  handled := ((t.left config).map Scope.handled).getD []
  fetched := t.fetched
  events := LogEntry.shown t.calls
  cursors := t.after.cursors.map Cursor.shown
  closed := t.after.session.closed
  dirty := t.after.session.dirty

variable {D : Invocation → Prop} {H H' : Statement → Statement → Prop} {m : NameMap Statement}
  {c c' : Cursor} {s s' : Statement} {α : Type}

namespace Cursor

theorem Like.mono (hH : ∀ s s', H s s' → H' s s') (h : Like H c c') : Like H' c c' := by
  cases h with
  | holding hc hs => exact .holding hc (hH _ _ hs)
  | released hc => exact .released hc

theorem Like.shown (h : Like H c c') : c'.shown = c.shown := by
  cases h with
  | holding hc _ => rw [Cursor.shown, Cursor.shown, hc]; rfl
  | released => rfl

theorem held_matches {x y : DriverM α} (hH : Single H) (hs : H s s')
    (h : (∀ e ∈ m, e.2 ≠ s') →
      Matches (Twin D (fun t t' => H t t' ∧ t ≠ s) m "" s s') x y) :
    Matches (Alike D H m) x y := by
  intro db db' hdb
  obtain ⟨htwin, hnew⟩ := hdb.twin hH hs
  exact (h hnew db db' htwin).mono (fun _ _ _ _ h => ⟨h.1, h.2.alike_of hH hs hnew⟩)
    fun _ _ h => h.alike_of hH hs hnew

theorem closeQuietly_matches (hH : Single H) (hs : H s s') :
    Matches (Alike D H m) s.closeQuietly s'.closeQuietly := by
  refine held_matches hH hs fun hnew db db' h => ?_
  rw [closeQuietly_outcome h.alike.fixed, closeQuietly_outcome h.alike.fixed']
  exact .ok ⟨rfl, h.closing hnew⟩

theorem fetch_matches (hH : Single H) (hs : H s s') (c : Cursor) (t : Option Statement) :
    Matches (Alike D H m) (c.fetch s) ({ c with statement := t }.fetch s') := by
  refine held_matches hH hs fun _ => ?_
  have hskip : Matches (Twin D (fun t t' => H t t' ∧ t ≠ s) m "" s s') (c.skipOffset s)
      ({ c with statement := t }.skipOffset s') := by
    unfold skipOffset
    split
    · exact .pure _
    · exact Twin.skipOffset s s' c.bounds
  refine hskip.bind fun enough => ?_
  split
  · split
    · refine (Twin.nextRow s s').bind fun row => ?_
      cases row with
      | none => exact .pure _
      | some row => exact (Matches.ending _).bind fun _ => .pure _
    · exact .pure _
  · exact .pure _

theorem release_agrees (hH : Single H) (h : Like H c c') :
    Agrees (Alike D H m) c.release c'.release
      (fun d d' db db' => d' = d ∧ Alike D H m db db' ∧ d.statement = none) (Alike D H m) := by
  unfold release
  cases h with
  | holding hc hs =>
    rw [hc]
    exact (closeQuietly_matches hH hs).bind_agrees (fun _ _ h => h) fun _ =>
      .pure fun _ _ h => ⟨rfl, h, rfl⟩
  | released hc =>
    rw [hc]
    exact .pure fun _ _ h => ⟨rfl, h, rfl⟩

theorem close_agrees (hH : Single H) (h : Like H c c') :
    Agrees (Alike D H m) c.close c'.close (fun d d' db db' => Like H d d' ∧ Alike D H m db db')
      (Alike D H m) := by
  have hstate : c'.state = c.state := by cases h <;> rfl
  refine (release_agrees hH h).bind_same fun d => .of_fact fun hd => .pure fun _ _ hdb => ⟨?_, hdb⟩
  split
  · exact .released hd
  · exact .released hd

theorem next_agrees (hH : Single H) (h : Like H c c') :
    Agrees (Alike D H m) c.next c'.next
      (fun r r' db db' => (r'.1 = r.1 ∧ Like H r.2 r'.2) ∧ Alike D H m db db') (Alike D H m) := by
  obtain ⟨statement, read, bounds, skipped, index, state⟩ := c
  unfold next
  cases h with
  | holding hc hs =>
    cases hc
    cases state with
    | isOpen =>
      -- only a row leaves the statements with the cursors, the end and an error close them
      refine (fetch_matches hH hs _ _).attempt.bind_agrees (fun _ _ h => h) fun r => ?_
      rcases r with e | _ | value
      · exact (close_agrees hH (.holding rfl hs)).bind fun d d' =>
          .pure fun _ _ h => ⟨⟨rfl, h.1⟩, h.2⟩
      · exact (release_agrees hH (.holding rfl hs)).bind_same fun d => .of_fact fun hd =>
          .pure fun _ _ h => ⟨⟨rfl, .released hd⟩, h⟩
      · exact .pure fun _ _ h => ⟨⟨rfl, .holding rfl hs⟩, h⟩
    | consumed | closed => exact .pure fun _ _ h => ⟨⟨rfl, .holding rfl hs⟩, h⟩
  | released hc =>
    cases hc
    cases state <;> exact .pure fun _ _ h => ⟨⟨rfl, .released rfl⟩, h⟩

end Cursor

namespace Session

inductive Answer.Like (H : Statement → Statement → Prop) : Answer → Answer → Prop where
  | cursor {c c' : Cursor} (h : Cursor.Like H c c') : Like H (.cursor c) (.cursor c')
  | same {a : Answer} (h : a.cursors = []) : Like H a a

theorem Answer.Like.shown {a b : Answer} (h : Answer.Like H a b) : b.shown = a.shown := by
  cases h with
  | cursor h => exact congrArg Answer.cursor h.shown
  | same => rfl

theorem Answer.Like.cursors {a b : Answer} (h : Answer.Like H a b) :
    List.Forall₂ (Cursor.Like H) a.cursors b.cursors := by
  cases h with
  | cursor h => exact .cons h .nil
  | same h =>
    rw [h]
    exact .nil

variable {config : Configuration}

theorem answer_agrees (hH : Single H) {x y : SessionM α} (f : α → Answer)
    (hf : ∀ a, (f a).cursors = []) (h : Matches (Paired D H) x y) :
    Agrees (Paired D H) (do return f (← x)) (do return f (← y))
      (fun a b => Grown D H fun H' => Answer.Like H' a b) (Paired D H) :=
  h.bind_agrees (fun _ _ h => h) fun a =>
    .pure fun _ _ hu => ⟨H, fun _ _ h => h, hH, .same (hf a), hu⟩

/-- An operation answers the same for both sessions. -/
theorem perform_paired (huniform : Invocation.Uniform config.Invokes) (hH : Single H)
    (op : Operation) :
    Agrees (Paired config.Invokes H) (op.perform config) (op.perform config)
      (fun a b => Grown config.Invokes H fun H' => Answer.Like H' a b)
      (Paired config.Invokes H) := by
  cases op with
  | selectOne id => exact answer_agrees hH .row (fun _ => rfl) (selectOne_paired huniform)
  | selectList id bounds => exact answer_agrees hH .rows (fun _ => rfl) (query_paired huniform)
  | selectMap id key bounds =>
    exact answer_agrees hH .groups (fun _ => rfl)
      ((query_paired huniform).bind fun rows => .ending (Grouping.ofRows key rows))
  | selectCursor id bounds =>
    refine (selectCursor_paired hH).bind fun c c' => .pure fun _ _ hu => ?_
    obtain ⟨H', hH', hsingle, hlike, hu⟩ := hu
    exact ⟨H', hH', hsingle, .cursor hlike, hu⟩
  | selectWithHandler id bounds handler =>
    exact answer_agrees hH (fun _ => .done) (fun _ => rfl) (query_paired huniform).discard
  | insert id | update id | delete id =>
    exact answer_agrees hH .count (fun _ => rfl) (mutate_paired huniform)
  | flushStatements =>
    exact answer_agrees hH .batches (fun _ => rfl)
      ((SessionM.paired_matches fun _ => SessionM.ensureOpen_matches).bind fun _ =>
        SessionM.flush_paired)
  | commit force => exact answer_agrees hH (fun _ => .done) (fun _ => rfl) (commit_paired force)
  | rollback force =>
    exact answer_agrees hH (fun _ => .done) (fun _ => rfl) (rollback_paired force)
  | clearCache => exact answer_agrees hH (fun _ => .done) (fun _ => rfl) clearCache_paired
  | close => exact answer_agrees hH (fun _ => .done) (fun _ => rfl) close_paired

end Session

/-- The sessions are at rest, and so are the cursors that they have given out. -/
structure World.Paired (D : Invocation → Prop) (H : Statement → Statement → Prop) (w w' : World) :
    Prop where
  single : Single H
  scopes : ∀ p, Scope.Paired D H (w.scope p) (w'.scope p)
  cursors : List.Forall₂ (Cursor.Like H) w.cursors w'.cursors

namespace World

variable {w w' : World} {config : Configuration} {step : Step}

theorem paired_opened {db : Database} (hdb : db.Fixed) (t : Transaction) (autoCommit : Bool) :
    Paired D (fun _ _ => False) (.opened db .simple t autoCommit)
      (.opened db .reuse t autoCommit) where
  single := nofun
  scopes _ := ⟨[], rfl, rfl, rfl, rfl, nofun, hdb, rfl, rfl, rfl, rfl, nofun, nofun, nofun, nofun,
    nofun⟩
  cursors := .nil

theorem Paired.databases (h : Paired D H w w') : ∃ m, Alike D H m w.database w'.database := by
  obtain ⟨m, h⟩ := h.scopes .absent
  exact ⟨m, h.databases⟩

theorem Paired.shown (h : Paired D H w w') :
    LogEntry.shown w'.database.log = LogEntry.shown w.database.log := by
  obtain ⟨m, h⟩ := h.databases
  exact h.shown

theorem Paired.shown_cursors (h : Paired D H w w') :
    w'.cursors.map Cursor.shown = w.cursors.map Cursor.shown := by
  have hcursors := h.cursors
  generalize w.cursors = l at hcursors
  generalize w'.cursors = l' at hcursors
  induction hcursors with
  | nil => rfl
  | cons hc _ ih => rw [List.map_cons, List.map_cons, hc.shown, ih]

theorem Paired.cursor (h : Paired D H w w') (i : Nat) :
    Option.Rel (Cursor.Like H) w.cursors[i]? w'.cursors[i]? := by
  have hcursors := h.cursors
  generalize w.cursors = l at hcursors
  generalize w'.cursors = l' at hcursors
  induction hcursors generalizing i with
  | nil => exact .none
  | cons hc _ ih =>
    cases i with
    | zero => exact .some hc
    | succ i => exact ih i

theorem Paired.of_scope {u u' : Scope} {l l' : List Cursor} (hH : Single H)
    (hu : Scope.Paired D H u u') (hcursors : List.Forall₂ (Cursor.Like H) l l') :
    Paired D H ⟨u.database, u.session, l⟩ ⟨u'.database, u'.session, l'⟩ :=
  ⟨hH, fun p => hu.again p [], hcursors⟩

theorem forall₂_set {R : α → α → Prop} {l l' : List α} {a b : α} (h : List.Forall₂ R l l')
    (hab : R a b) (i : Nat) : List.Forall₂ R (l.set i a) (l'.set i b) := by
  induction h generalizing i with
  | nil => exact .nil
  | cons hc htail ih =>
    cases i with
    | zero => exact .cons hab htail
    | succ i => exact .cons hc (ih i)

theorem Paired.onCursor (h : Paired D H w w') (i : Nat) {work : Cursor → DriverM Cursor}
    (hwork : ∀ m c c', Cursor.Like H c c' → Agrees (Alike D H m) (work c) (work c')
      (fun d d' db db' => Cursor.Like H d d' ∧ Alike D H m db db') (Alike D H m)) :
    Paired D H (w.onCursor i work) (w'.onCursor i work) := by
  have hcursor := h.cursor i
  obtain ⟨m, hscope⟩ := h.scopes .absent
  unfold World.onCursor
  generalize w.cursors[i]? = c at hcursor
  generalize w'.cursors[i]? = c' at hcursor
  cases hcursor with
  | none => exact h
  | @some c c' hlike =>
    have hends : Ends _ _ ((work c).outcome w.database) ((work c').outcome w'.database) :=
      hwork m c c' hlike _ _ hscope.databases
    dsimp only
    generalize (work c).outcome w.database = r at hends
    generalize (work c').outcome w'.database = r' at hends
    cases hends with
    | ok hd =>
      exact .of_scope h.single ⟨m, hscope.withDatabase hd.2⟩ (forall₂_set h.cursors hd.1 i)
    | error hd => exact .of_scope h.single ⟨m, hscope.withDatabase hd⟩ h.cursors

theorem Paired.following {r r' : Except Error Session.Answer × Scope} (h : Paired D H w w')
    (hends : Ends (fun a b => Grown D H fun H' => Session.Answer.Like H' a b) (Scope.Paired D H)
      r r') :
    (∃ H', Paired D H' (w.following r.1 r.2) (w'.following r'.1 r'.2)) ∧
      r'.1.map Session.Answer.shown = r.1.map Session.Answer.shown ∧
      r'.2.parameter = r.2.parameter ∧ r'.2.handled = r.2.handled := by
  cases hends with
  | ok hu =>
    obtain ⟨H', hH', hsingle, hlike, m, hu⟩ := hu
    refine ⟨⟨H', .of_scope hsingle ⟨m, hu⟩ ?_⟩, congrArg Except.ok hlike.shown, hu.parameter,
      hu.handled⟩
    exact List.rel_append (h.cursors.imp fun _ _ hc => hc.mono hH') hlike.cursors
  | error hu =>
    obtain ⟨m, hu⟩ := hu
    refine ⟨⟨H, .of_scope h.single ⟨m, hu⟩ ?_⟩, rfl, hu.parameter, hu.handled⟩
    exact List.rel_append h.cursors .nil

theorem Paired.fetched (h : Paired D H w w') (step : Step) :
    (w'.turn config step).fetched = (w.turn config step).fetched := by
  cases step with
  | fetch i =>
    have hcursor := h.cursor i
    obtain ⟨m, hm⟩ := h.databases
    change (w'.cursors[i]?.map fun c => (c.next.outcome w'.database).1.map Prod.fst) =
      w.cursors[i]?.map fun c => (c.next.outcome w.database).1.map Prod.fst
    generalize w.cursors[i]? = c at hcursor
    generalize w'.cursors[i]? = c' at hcursor
    cases hcursor with
    | none => rfl
    | @some c c' hlike =>
      have hends := Cursor.next_agrees h.single hlike _ _ hm
      rw [Option.map_some, Option.map_some]
      generalize c.next.outcome w.database = r at hends
      generalize c'.next.outcome w'.database = r' at hends
      cases hends with
      | ok hr => exact congrArg (some ∘ Except.ok) hr.1.1
      | error => rfl
  | _ => rfl

theorem Paired.turn (huniform : Invocation.Uniform config.Invokes)
    (h : Paired config.Invokes H w w')
    (hscript : ∀ script faults, step ≠ .rescript script faults) :
    ∃ H', Paired config.Invokes H' (w.turn config step).after (w'.turn config step).after := by
  cases step with
  | perform op p =>
    exact (h.following (Session.perform_paired huniform h.single op _ _ (h.scopes p))).1
  | fetch i =>
    exact ⟨H, h.onCursor i fun m c c' hlike => (Cursor.next_agrees h.single hlike).bind fun _ _ =>
      .pure fun _ _ hr => ⟨hr.1.2, hr.2⟩⟩
  | closeCursor i =>
    exact ⟨H, h.onCursor i fun m c c' hlike => Cursor.close_agrees h.single hlike⟩
  | rescript script faults => exact absurd rfl (hscript script faults)

theorem Paired.events (h : Paired D H w w')
    (hafter : Paired D H' (w.turn config step).after (w'.turn config step).after) :
    LogEntry.shown (w'.turn config step).calls = LogEntry.shown (w.turn config step).calls := by
  have hlog := hafter.shown
  rw [turn_log, turn_log, LogEntry.shown, LogEntry.shown, List.filterMap_append,
    List.filterMap_append] at hlog
  have hbefore : w'.database.log.filterMap LogEntry.shown? =
      w.database.log.filterMap LogEntry.shown? := h.shown
  rw [hbefore] at hlog
  exact List.append_cancel_left hlog

theorem Paired.view (huniform : Invocation.Uniform config.Invokes)
    (h : Paired config.Invokes H w w')
    (hscript : ∀ script faults, step ≠ .rescript script faults) :
    (w'.turn config step).view config = (w.turn config step).view config := by
  obtain ⟨H', hafter⟩ := h.turn huniform hscript
  have hevents := h.events hafter
  have hcursors := hafter.shown_cursors
  obtain ⟨hclosed, -, hdirty⟩ := (hafter.scopes .absent).flags
  have hfetched : (w'.turn config step).fetched = (w.turn config step).fetched := h.fetched step
  cases step with
  | perform op p =>
    obtain ⟨-, hresult, hparameter, hhandled⟩ :=
      h.following (Session.perform_paired huniform h.single op _ _ (h.scopes p))
    exact Turn.View.ext (congrArg some hresult) (congrArg some hparameter) hhandled hfetched hevents
      hcursors hclosed hdirty
  | _ => exact Turn.View.ext rfl rfl rfl hfetched hevents hcursors hclosed hdirty

end World

variable {config : Configuration} {start start' w w' : World} {past past' : List Turn}

/-- Step by step, as long as the database does not change its mind. -/
theorem Run.paired (huniform : Invocation.Uniform config.Invokes)
    (hstart : World.Paired config.Invokes H start start') (hr : Run config start past w)
    (hr' : Run config start' past' w') (hsteps : past'.map Turn.step = past.map Turn.step)
    (hscript : ∀ t ∈ past, ∀ script faults, t.step ≠ .rescript script faults) :
    (∃ H', World.Paired config.Invokes H' w w') ∧
      past'.map (Turn.view config) = past.map (Turn.view config) := by
  induction hr generalizing past' w' with
  | start =>
    cases hr' with
    | start => exact ⟨⟨H, hstart⟩, rfl⟩
    | turn run step => simp at hsteps
  | @turn past w run step ih =>
    cases hr' with
    | start => simp at hsteps
    | @turn past' w' run' step' =>
      rw [List.map_append, List.map_append] at hsteps
      obtain ⟨hpast, hstep⟩ := List.append_inj' hsteps rfl
      obtain rfl : step' = step := by simpa using hstep
      obtain ⟨⟨H', hpaired⟩, hviews⟩ := ih run' hpast fun t ht => hscript t (by simp [ht])
      have hstep : ∀ script faults, step' ≠ .rescript script faults := by
        simpa using hscript (w.turn config step') (by simp)
      refine ⟨hpaired.turn huniform hstep, ?_⟩
      rw [List.map_append, List.map_append, hviews, List.map_singleton, List.map_singleton,
        hpaired.view huniform hstep]

/-- Where runs with one text are of one kind and the database answers the same at any time, the
strategies with and without kept statements are alike in every turn. -/
theorem Run.views_eq {db : Database} {tr : Transaction} {autoCommit : Bool}
    (huniform : Invocation.Uniform config.Invokes) (hdb : db.Fixed)
    (hr : Run config (.opened db .simple tr autoCommit) past w)
    (hr' : Run config (.opened db .reuse tr autoCommit) past' w')
    (hsteps : past'.map Turn.step = past.map Turn.step)
    (hscript : ∀ t ∈ past, ∀ script faults, t.step ≠ .rescript script faults) :
    past'.map (Turn.view config) = past.map (Turn.view config) :=
  (Run.paired huniform (World.paired_opened hdb tr autoCommit) hr hr' hsteps hscript).2

theorem smallConfig_uniform : Invocation.Uniform smallConfig.Invokes := by
  have hprepared : ∀ i, smallConfig.Invokes i → i.command.statementKind = .prepared := by
    intro i hi
    have hform := smallConfig_form hi
    unfold Invocation.form at hform
    cases hkind : i.command.statementKind <;> rw [hkind] at hform <;> first | rfl | cases hform
  intro i j hi hj _
  rw [hprepared i hi, hprepared j hj]

def simpleWorld : World := .opened smallDatabase .simple (.overSource false none) false

/-- The statement of an insert is closed after it and created again for the next one, or is kept;
the database sees the same inserts. -/
theorem repeated_insert_views :
    ∃ first second first' second', Run smallConfig simpleWorld [first, second] second.after ∧
      Run smallConfig reuseWorld [first', second'] second'.after ∧
      [first, second].map Turn.step = [insertStep "add", insertStep "add"] ∧
      [first', second'].map (Turn.view smallConfig) = [first, second].map (Turn.view smallConfig) ∧
      second.after.database.openStatements = 0 ∧ second'.after.database.openStatements = 1 := by
  have hrun : Run smallConfig simpleWorld _ _ := .turn (.turn .start (insertStep "add"))
    (insertStep "add")
  have hrun' : Run smallConfig reuseWorld _ _ := .turn (.turn .start (insertStep "add"))
    (insertStep "add")
  have hfixed : smallDatabase.Fixed := ⟨fun _ _ => rfl, fun _ _ => rfl⟩
  have hviews := Run.views_eq smallConfig_uniform hfixed hrun hrun' rfl (by simp [insertStep])
  exact ⟨_, _, _, _, hrun, hrun', rfl, hviews, by decide, by decide⟩

end SqlMapper
