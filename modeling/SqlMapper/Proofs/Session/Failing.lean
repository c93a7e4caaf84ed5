import SqlMapper.Proofs.Database.Batch
import SqlMapper.Session.Batch

namespace SqlMapper

open Fallible

/-- Every error that the computation ends with has `E`. -/
def Fallible.Fails {σ α : Type} (E : Error → Prop) (x : Fallible σ α) : Prop :=
  ∀ s e t, x.outcome s = (.error e, t) → E e

namespace Fallible.Fails

variable {σ τ α β : Type} {E : Error → Prop}

theorem of_ok {x : Fallible σ α} (h : ∀ s, ∃ a, (x.outcome s).1 = .ok a) : Fails E x := by
  intro s e t hx
  obtain ⟨a, ha⟩ := h s
  rw [hx] at ha
  cases ha

theorem mono {E' : Error → Prop} {x : Fallible σ α} (h : Fails E x) (hE : ∀ e, E e → E' e) :
    Fails E' x := fun s e t hx => hE e (h s e t hx)

theorem pure (a : α) : Fails E (pure a : Fallible σ α) := of_ok fun _ => ⟨a, rfl⟩

theorem ending {r : Except Error α} (h : ∀ e, r = .error e → E e) :
    Fails E (ending r : Fallible σ α) := fun _ e _ hx => h e (congrArg Prod.fst hx)

theorem throw {e : Error} (h : E e) : Fails E (throw e : Fallible σ α) := by
  intro s e' t hx
  cases hx
  exact h

theorem bind {x : Fallible σ α} {f : α → Fallible σ β} (hx : Fails E x) (hf : ∀ a, Fails E (f a)) :
    Fails E (x >>= f) := by
  intro s e t h
  rcases hr : x.outcome s with ⟨e' | a, u⟩
  · rw [outcome_bind_of_error hr] at h
    cases h
    exact hx s e _ hr
  · rw [outcome_bind_of_ok hr] at h
    exact hf a u e t h

theorem ok_bind {a : α} {f : α → Fallible σ β} (h : Fails E (f a)) :
    Fails E ((Fallible.ending (.ok a) : Fallible σ α) >>= f) := h

theorem error_bind {e : Error} {f : α → Fallible σ β} (h : E e) :
    Fails E ((Fallible.ending (.error e) : Fallible σ α) >>= f) := by
  intro s e' t hx
  cases hx
  exact h

theorem ite_bind {c : Prop} [Decidable c] {x : Fallible σ Unit} {f : Unit → Fallible σ α}
    (hx : Fails E x) (hf : Fails E (f ())) : Fails E (if c then x >>= f else f ()) := by
  split
  · exact hx.bind fun _ => hf
  · exact hf

theorem attempt_bind {x : Fallible σ α} {f : Except Error α → Fallible σ β} (hx : Fails E x)
    (hf : ∀ r, (∀ e, r = .error e → E e) → Fails E (f r)) : Fails E (x.attempt >>= f) := by
  intro s e t h
  have ha : x.attempt.outcome s = (.ok (x.outcome s).1, (x.outcome s).2) := outcome_attempt x s
  rw [outcome_bind_of_ok ha] at h
  exact hf _ (fun e' he => hx s e' _ (Prod.ext he rfl)) _ e t h

theorem thenAlways {x : Fallible σ α} {last : Fallible σ Unit} (hx : Fails E x)
    (hl : Fails E last) : Fails E (x.thenAlways last) :=
  hx.attempt_bind fun _ hr => hl.bind fun _ => .ending hr

theorem orUndo {x : Fallible σ α} {undo : Fallible σ Unit} (hx : Fails E x)
    (hu : Fails E undo) : Fails E (x.orUndo undo) := by
  refine hx.attempt_bind fun r hr => ?_
  cases r with
  | ok a => exact .pure a
  | error e => exact hu.bind fun _ => .throw (hr e rfl)

theorem forM {γ : Type} {f : γ → Fallible σ PUnit} {l : List γ} (h : ∀ c, Fails E (f c)) :
    Fails E (l.forM f) := by
  induction l with
  | nil => exact .pure _
  | cons c l ih => exact (h c).bind fun _ => ih

theorem within {get : τ → σ} {set : σ → τ → τ} {x : Fallible σ α} (h : Fails E x) :
    Fails E (x.within get set) := by
  intro t e u hx
  rw [outcome_within] at hx
  obtain ⟨he, -⟩ := Prod.mk.inj hx
  exact h (get t) e _ (Prod.ext he rfl)

end Fallible.Fails

/-- Not the failure of some entries of a batch. -/
def Error.Whole (e : Error) : Prop := ∀ counts reason, e ≠ .batchUpdate counts reason

/-- Neither the failure of some entries of a batch nor that of a binding. -/
def Error.Plain : Error → Prop
  | batchUpdate _ _ | binding _ => False
  | _ => True

/-- Plain errors have `E`, and so have those of what stands in for the standard parts of a
configuration. -/
structure Configuration.Raises (config : Configuration) (E : Error → Prop) : Prop where
  plain : ∀ e, e.Plain → E e
  mapper : ∀ row type e, config.mapper row type = .error e → E e
  collections : ∀ type e, config.collections.create type = .error e → E e
  sources : ∀ id c p e, config.registry.find? id = some c → c.source.bind p = .error e → E e

namespace Parameter

theorem plain_of_argument {arguments : NameMap Value} {name : String} {e : Error}
    (h : NameMap.argument arguments name = .error e) : e.Plain := by
  unfold NameMap.argument at h
  split at h <;> cases h
  trivial

theorem plain_of_lookup {property : String} {p : Parameter} {e : Error}
    (h : p.lookup property = .error e) : e.Plain := by
  unfold lookup at h
  split at h
  · cases h
  · split at h <;> cases h
    trivial
  · cases h
  · split at h
    · exact plain_of_argument h
    · obtain hv | ⟨value, -, h⟩ := error_of_except_bind_error h
      · exact plain_of_argument hv
      · split at h <;> cases h
        trivial

theorem plain_of_assign {property : String} {x : Value} {p : Parameter} {e : Error}
    (h : p.assign property x = .error e) : e.Plain := by
  unfold assign at h
  split at h
  · cases h
    trivial
  · split at h <;> cases h
    trivial
  · split at h
    · cases h
    · obtain hv | ⟨target, -, h⟩ := error_of_except_bind_error h
      · exact plain_of_argument hv
      · split at h <;> cases h
        trivial

theorem write_fails (property : String) (x : Value) :
    Fails Error.Plain (Parameter.write property x) := by
  intro p e p' h
  cases ha : p.assign property x with
  | ok updated =>
    rw [Fallible.outcome, Parameter.write, ha] at h
    cases h
  | error e' =>
    rw [Fallible.outcome, Parameter.write, ha] at h
    cases h
    exact plain_of_assign ha

end Parameter

namespace Database

variable {α : Type} {db : Database} {e : Error}

theorem plain_of_fault {point : FaultPoint} (h : db.fault point = some e) : e.Plain := by
  obtain ⟨reason, -, rfl⟩ := Option.map_eq_some_iff.mp h
  trivial

theorem plain_of_closedError {s : Statement} (h : db.closedError s = some e) : e.Plain := by
  unfold closedError at h
  split at h <;> cases h
  trivial

theorem perform_fails {E : Error → Prop} {call : Database → Call}
    {refusal : Database → Option Error} {act : Database → Database → Except Error α × Database}
    (hr : ∀ db e, refusal db = some e → E e) (ha : ∀ db e, (act db db).1 = .error e → E e) :
    Fails E (.of fun db => perform (call db) (refusal db) (act db) db) := by
  intro db e db' h
  rw [outcome_of] at h
  unfold perform at h
  split at h
  · next e' he =>
    cases h
    exact hr db e he
  · split at h
    · cases h
    · next hact =>
      cases h
      exact ha db e (congrArg Prod.fst hact)

end Database

open Database

theorem connect_fails : Fails Error.Plain connect := by
  unfold connect Connection.opened
  exact perform_fails (fun _ _ => plain_of_fault) nofun

theorem Connection.autoCommit_fails (c : Connection) : Fails Error.Plain c.autoCommit :=
  perform_fails (fun _ _ => plain_of_fault) nofun

theorem Connection.setAutoCommit_fails (c : Connection) (mode : Bool) :
    Fails Error.Plain (c.setAutoCommit mode) :=
  perform_fails (fun _ _ => plain_of_fault) nofun

theorem Connection.prepare_fails (c : Connection) (form : StatementForm) :
    Fails Error.Plain (c.prepare form) := by
  refine perform_fails (fun db e h => ?_) nofun
  obtain ⟨reason, -, rfl⟩ := Option.map_eq_some_iff.mp h
  trivial

namespace Statement

variable (s : Statement)

theorem setTimeout_fails (seconds : Nat) : Fails Error.Plain (s.setTimeout seconds) :=
  perform_fails (fun _ _ => plain_of_fault) nofun

theorem setFetchSize_fails (rows : Nat) : Fails Error.Plain (s.setFetchSize rows) :=
  perform_fails (fun _ _ => plain_of_fault) nofun

theorem registerOut_fails (index : Nat) : Fails Error.Plain (s.registerOut index) :=
  perform_fails (fun _ _ => plain_of_fault) nofun

theorem generatedKeys_fails : Fails Error.Plain s.generatedKeys :=
  perform_fails (fun _ _ => plain_of_fault) nofun

theorem plain_of_refusal {point : FaultPoint} {db : Database} {e : Error}
    (h : (db.fault point <|> db.closedError s) = some e) : e.Plain := by
  rcases hf : db.fault point with _ | e' <;> rw [hf] at h
  · exact plain_of_closedError h
  · cases h
    exact plain_of_fault hf

theorem bind_fails (index : Nat) (value : Value) : Fails Error.Plain (s.bind index value) :=
  perform_fails (fun _ _ => s.plain_of_refusal) nofun

theorem addBatch_fails (text : Option String) : Fails Error.Plain (s.addBatch text) :=
  perform_fails (fun _ _ => s.plain_of_refusal) nofun

theorem execute_fails (text : Option String) : Fails Error.Plain (s.execute text) := by
  refine perform_fails (fun _ _ => plain_of_closedError) fun db e h => ?_
  dsimp only at h
  split at h <;> cases h
  trivial

theorem nextRow_fails : Fails Error.Plain s.nextRow := by
  refine perform_fails (fun _ _ => plain_of_closedError) fun db e h => ?_
  dsimp only at h
  split at h
  · cases h
    trivial
  · split at h <;> cases h

theorem outParameter_fails (index : Nat) : Fails Error.Plain (s.outParameter index) := by
  refine perform_fails nofun fun db e h => ?_
  split at h <;> cases h
  trivial

theorem closeQuietly_fails {E : Error → Prop} : Fails E s.closeQuietly :=
  .of_ok fun db => ⟨(), s.closeQuietly_ok db⟩

end Statement

namespace SessionM

variable {α : Type} {E : Error → Prop}

theorem lift_fails {x : DriverM α} (h : Fails E x) : Fails E (liftM x : SessionM α) := by
  change Fails E (onDatabase x)
  exact h.within

theorem session_fails : Fails E session := .of_ok fun s => ⟨s.session, rfl⟩

theorem parameter_fails : Fails E parameter := .of_ok fun s => ⟨s.parameter, rfl⟩

theorem change_fails (f : Scope → Scope) : Fails E (Fallible.change f) := .of_ok fun _ => ⟨(), rfl⟩

theorem onParameter_fails {x : Fallible Parameter α} (h : Fails E x) : Fails E (onParameter x) :=
  h.within

theorem withParameter_fails (p : Parameter) {x : SessionM α} (h : Fails E x) :
    Fails E (withParameter p x) :=
  parameter_fails.bind fun _ => (change_fails _).bind fun _ =>
    h.attempt_bind fun _ hr => parameter_fails.bind fun p' =>
      (change_fails _).bind fun _ => (Fails.ending hr).bind fun a => .pure (a, p')

theorem connection_fails : Fails Error.Plain connection := by
  refine session_fails.bind fun s => ?_
  have hopen : Fails Error.Plain s.transaction.openConnection := by
    unfold Transaction.openConnection
    dsimp only
    split
    · exact Fails.error_bind trivial
    · refine connect_fails.bind fun c => c.autoCommit_fails.bind fun mode => ?_
      split
      · exact (c.setAutoCommit_fails _).bind fun _ => .pure _
      · exact .pure _
  have hacquire : Fails Error.Plain s.transaction.acquire := by
    unfold Transaction.acquire
    split
    · exact .pure _
    · exact hopen.bind fun _ => .pure _
  exact (lift_fails hacquire).bind fun r => (change_fails _).bind fun _ => .pure _

end SessionM

open SessionM

namespace Reading

variable {E : Error → Prop} {mapper : Row → Except Error Value}

theorem skip_fails (s : Statement) (n : Nat) : Fails Error.Plain (skip s n) := by
  induction n with
  | zero => exact .pure _
  | succ n ih =>
    refine s.nextRow_fails.bind fun row => ?_
    cases row with
    | none => exact .pure _
    | some row => exact ih

theorem steps_fails (s : Statement) (n : Nat) : Fails E (steps s n) :=
  Fails.bind (.of_ok fun db => ⟨(db.statement s).rows.length, rfl⟩) fun _ => .pure _

theorem collect_fails (s : Statement) (hp : ∀ e, e.Plain → E e)
    (hm : ∀ row e, mapper row = .error e → E e) (n : Nat) : Fails E (collect s mapper n) := by
  induction n with
  | zero => exact .pure _
  | succ n ih =>
    refine (s.nextRow_fails.mono hp).bind fun row => ?_
    cases row with
    | none => exact .pure _
    | some row => exact (Fails.ending (hm row)).bind fun _ => ih.bind fun _ => .pure _

theorem deliver_fails (s : Statement) (hp : ∀ e, e.Plain → E e)
    (hm : ∀ row e, mapper row = .error e → E e) (h : RowHandler) (context : ResultContext)
    (n : Nat) : Fails E (deliver s mapper h context n) := by
  induction n generalizing context with
  | zero => exact .pure _
  | succ n ih =>
    refine (lift_fails (s.nextRow_fails.mono hp)).bind fun row => ?_
    cases row with
    | none => exact .pure _
    | some row =>
      refine (Fails.ending (hm row)).bind fun value => ?_
      refine Fails.bind (.of_ok fun u => ⟨_, rfl⟩) fun left => ?_
      split
      · exact .pure _
      · exact ih left

theorem window_fails (s : Statement) (hp : ∀ e, e.Plain → E e)
    (hm : ∀ row e, mapper row = .error e → E e) (bounds : RowBounds)
    (handler : Option RowHandler) : Fails E (window s mapper bounds handler) := by
  refine (lift_fails ((steps_fails s _).bind fun n => (skip_fails s n).mono hp)).bind
    fun enough => ?_
  cases enough with
  | false => exact .pure _
  | true =>
    refine (lift_fails (steps_fails s _)).bind fun n => ?_
    cases handler with
    | none => exact lift_fails (collect_fails s hp hm n)
    | some h => exact (deliver_fails s hp hm h _ n).bind fun _ => .pure _

end Reading

namespace Invocation

variable {E : Error → Prop} {config : Configuration} (i : Invocation) (s : Statement)

theorem applySettings_fails (settings : Settings) (timeout : Option Nat) :
    Fails Error.Plain (i.applySettings settings timeout s) := by
  unfold applySettings
  dsimp only
  split
  · refine (s.setTimeout_fails _).bind fun _ => ?_
    split
    · exact s.setFetchSize_fails _
    · exact .pure _
  · split
    · exact s.setFetchSize_fails _
    · exact .pure _

theorem prepare_fails (settings : Settings) (timeout : Option Nat) (c : Connection) :
    Fails Error.Plain (i.prepare settings timeout c) :=
  (c.prepare_fails i.form).bind fun s =>
    ((i.applySettings_fails s settings timeout).orUndo s.closeQuietly_fails).bind fun _ => .pure _

theorem parameterize_fails (p : Parameter) : Fails Error.Plain (i.parameterize p s) := by
  refine (Fails.forM fun c => s.registerOut_fails _).bind fun _ => .forM fun c => ?_
  exact (Fails.ending fun _ => Parameter.plain_of_lookup).bind fun value => s.bind_fails _ value

theorem freshStatement_fails (settings : Settings) :
    Fails Error.Plain (i.freshStatement settings) :=
  session_fails.bind fun _ => connection_fails.bind fun c =>
    (lift_fails (i.prepare_fails settings _ c)).bind fun s => parameter_fails.bind fun p =>
      (lift_fails ((i.parameterize_fails s p).orUndo s.closeQuietly_fails)).bind fun _ => .pure _

theorem execute_fails : Fails Error.Plain (i.execute s) :=
  (s.execute_fails i.text).bind fun _ => .pure _

theorem takeOutputs_fails : Fails Error.Plain (i.takeOutputs s) := .forM fun c =>
  (lift_fails (s.outParameter_fails c.1)).bind fun value =>
    onParameter_fails (Parameter.write_fails c.2 value)

theorem query_fails (h : config.Raises E) (handler : Option RowHandler) :
    Fails E (i.query config.mapper s handler) :=
  (lift_fails ((i.execute_fails s).mono h.plain)).bind fun _ =>
    (Reading.window_fails s h.plain (fun row => h.mapper row _) i.bounds handler).bind fun _ =>
      ((i.takeOutputs_fails s).mono h.plain).bind fun _ => .pure _

theorem error_of (h : config.Raises E) {id : String} {command : Command} {p : Parameter}
    {bounds : RowBounds} {e : Error} (hc : config.registry.find? id = some command)
    (he : Invocation.of command p bounds = .error e) : E e := by
  rcases hb : command.source.bind p with e' | bound <;> rw [Invocation.of, hb] at he <;> cases he
  exact h.sources id command p e hc hb

end Invocation

namespace Keys

variable {E : Error → Prop} {config : Configuration}

theorem run_fails (h : config.Raises E) (id : String) : Fails E (run config id) := by
  unfold run Registry.get
  cases hc : config.registry.find? id with
  | none => exact Fails.error_bind (h.plain _ trivial)
  | some command =>
    refine Fails.ok_bind (parameter_fails.bind fun p => ?_)
    refine (Fails.ending fun e he => Invocation.error_of h hc he).bind fun i =>
      ((i.freshStatement_fails config.settings).mono h.plain).bind fun s => ?_
    exact ((withParameter_fails p (i.query_fails s h none)).thenAlways
      (lift_fails s.closeQuietly_fails)).bind fun _ => .pure _

theorem select_fails (h : config.Raises E) (id property : String) :
    Fails E (select config id property) := by
  refine (run_fails h id).bind fun keys => ?_
  split
  · exact .throw (h.plain _ trivial)
  · exact onParameter_fails ((Parameter.write_fails _ _).mono h.plain)
  · exact .throw (h.plain _ trivial)

theorem assignRow_fails (command : String) (properties : List String) (row : Row) :
    Fails Error.Plain (assignRow command properties row) := by
  unfold assignRow
  dsimp only
  split
  · exact Fails.error_bind trivial
  · exact .forM fun c => Parameter.write_fails _ _

end Keys

end SqlMapper
