import SqlMapper.Proofs.Batch.State
import SqlMapper.Proofs.Session.Balance

namespace SqlMapper

open Fallible

/-- The connection that a call is made on, or the one it is to open. -/
def Call.connection? : Call → Option Connection
  | connect c | readAutoCommit c | setAutoCommit c _ | commit c | rollback c | closeConnection c
  | prepare c _ _ => some c
  | _ => none

/-- The entry is about the connection. A connection that is refused does not exist. -/
def LogEntry.concerns (e : LogEntry) (c : Connection) : Bool :=
  e.call.connection? = some c ∧ e ≠ ⟨.connect c, .refused⟩

namespace Connection

def history (c : Connection) (calls : List LogEntry) : List LogEntry :=
  calls.filter (LogEntry.concerns · c)

/-- The connection has been opened, and then it could not be found out which mode it is in, or it
could not be put into another. -/
inductive HalfOpen (c : Connection) : List LogEntry → Prop where
  | unread : HalfOpen c [⟨.connect c, .succeeded⟩, ⟨.readAutoCommit c, .refused⟩]
  | unset (mode : Bool) : HalfOpen c [⟨.connect c, .succeeded⟩, ⟨.readAutoCommit c, .succeeded⟩,
      ⟨.setAutoCommit c mode, .refused⟩]

/-- What has become of a connection, where `held?` is the one that the transaction has. -/
inductive Fate (c : Connection) (held? : Option Connection) (calls : List LogEntry) : Prop where
  | held (h : held? = some c) (long : 2 ≤ (c.history calls).length)
    (whole : ¬ c.HalfOpen (c.history calls))
  | closed (hnot : held? ≠ some c) {o : CallOutcome} (h : ⟨.closeConnection c, o⟩ ∈ calls)
  | halfOpen (hnot : held? ≠ some c) (h : c.HalfOpen (c.history calls))

variable {c : Connection} {calls : List LogEntry} {e : LogEntry}

theorem history_concerned (h : e.concerns c = true) :
    c.history (calls ++ [e]) = c.history calls ++ [e] := by
  simp [history, h]

theorem history_unconcerned (h : e.concerns c = false) :
    c.history (calls ++ [e]) = c.history calls := by
  simp [history, h]

theorem HalfOpen.not_snoc {l : List LogEntry} (hlong : 2 ≤ l.length)
    (hset : ∀ mode, e.call ≠ .setAutoCommit c mode) : ¬ c.HalfOpen (l ++ [e]) := by
  intro h
  generalize hl : l ++ [e] = l' at h
  cases h with
  | unread =>
    have hlength := congrArg List.length hl
    simp only [List.length_append, List.length_cons, List.length_nil] at hlength
    omega
  | unset mode =>
    have hlast : l ++ [e] = [⟨.connect c, .succeeded⟩, ⟨.readAutoCommit c, .succeeded⟩] ++
        [⟨.setAutoCommit c mode, .refused⟩] := hl
    have he := List.singleton_inj.mp (List.append_inj' hlast rfl).2
    exact hset mode (congrArg LogEntry.call he)

theorem not_halfOpen_of_closed {o : CallOutcome} (h : ⟨.closeConnection c, o⟩ ∈ calls) :
    ¬ c.HalfOpen (c.history calls) := by
  intro hhalf
  have hmem : ⟨.closeConnection c, o⟩ ∈ c.history calls :=
    List.mem_filter.mpr ⟨h, by simp [LogEntry.concerns, Call.connection?]⟩
  generalize c.history calls = l at hmem hhalf
  cases hhalf <;> simp at hmem

theorem Fate.unconcerned {held? : Option Connection} (h : c.Fate held? calls)
    (he : e.concerns c = false) : c.Fate held? (calls ++ [e]) := by
  cases h with
  | held h long whole =>
    refine .held h ?_ ?_ <;> rw [history_unconcerned he]
    · exact long
    · exact whole
  | closed hnot h => exact .closed hnot (List.mem_append_left _ h)
  | halfOpen hnot h =>
    refine .halfOpen hnot ?_
    rwa [history_unconcerned he]

end Connection

/-- Since `base`, `calls` have been made, and it is known what has become of all connections that
were opened, except for the one that is being opened. -/
structure Traced (base : Database) (calls : List LogEntry) (tr : Transaction)
    (opening : Option Connection) (db : Database) : Prop where
  log : db.log = base.log ++ calls
  known : ∀ c : Connection, c.history calls ≠ [] → c.index < db.connections.length
  holds : ∀ c : Connection, tr.connection? = some c ∨ opening = some c →
    c.index < db.connections.length
  fate : ∀ c : Connection, ⟨.connect c, .succeeded⟩ ∈ calls → opening ≠ some c →
    c.Fate tr.connection? calls

namespace Traced

variable {base db db' : Database} {calls : List LogEntry} {tr : Transaction}
  {opening : Option Connection} {c : Connection} {e : LogEntry} {o : CallOutcome}

theorem start (hheld : ∀ c, tr.connection? = some c → c.index < db.connections.length) :
    Traced db [] tr none db where
  log := (List.append_nil _).symm
  known := fun _ hne => absurd rfl hne
  holds := fun c hc => hheld c (hc.resolve_right nofun)
  fate := nofun

theorem snoc (h : Traced base calls tr opening db) (hlog : db'.log = db.log ++ [e])
    (hlength : db'.connections.length = db.connections.length)
    (hconnect : ∀ c, e ≠ ⟨.connect c, .succeeded⟩)
    (hconcerns : ∀ c, e.concerns c = true → tr.connection? = some c ∨ opening = some c)
    (hset : ∀ c mode, tr.connection? = some c → e.call ≠ .setAutoCommit c mode) :
    Traced base (calls ++ [e]) tr opening db' where
  log := by rw [hlog, h.log, List.append_assoc]
  known := by
    intro c hc
    rw [hlength]
    cases he : e.concerns c with
    | true => exact h.holds c (hconcerns c he)
    | false =>
      rw [Connection.history_unconcerned he] at hc
      exact h.known c hc
  holds := by
    intro c hc
    rw [hlength]
    exact h.holds c hc
  fate := by
    intro c hc hother
    have hold : ⟨.connect c, .succeeded⟩ ∈ calls := by
      refine (List.mem_append.mp hc).resolve_right fun hlast => ?_
      exact hconnect c (List.mem_singleton.mp hlast).symm
    cases he : e.concerns c with
    | false => exact (h.fate c hold hother).unconcerned he
    | true =>
      have hheld := (hconcerns c he).resolve_right hother
      cases h.fate c hold hother with
      | held _ long whole =>
        refine .held hheld ?_ ?_ <;> rw [Connection.history_concerned he]
        · rw [List.length_append]
          exact Nat.le_add_right_of_le long
        · exact Connection.HalfOpen.not_snoc long fun mode => hset c mode hheld
      | closed hnot | halfOpen hnot => exact absurd hheld hnot

theorem snoc_statement (h : Traced base calls tr opening db) (hlog : db'.log = db.log ++ [e])
    (hsame : db'.connections = db.connections) (hnone : e.call.connection? = none) :
    Traced base (calls ++ [e]) tr opening db' := by
  refine h.snoc hlog (congrArg List.length hsame) (fun c he => ?_) (fun c hc => ?_)
    fun c mode _ he => ?_
  · rw [he] at hnone
    cases hnone
  · simp [LogEntry.concerns, hnone] at hc
  · rw [he] at hnone
    cases hnone

theorem snoc_connection {call : Call} (h : Traced base calls tr opening db)
    (hlog : db'.log = db.log ++ [⟨call, o⟩]) (hsame : db'.connections = db.connections)
    (hc : tr.connection? = some c) (hon : call.connection? = some c)
    (hconnect : ∀ c, call ≠ .connect c) (hset : ∀ c mode, call ≠ .setAutoCommit c mode) :
    Traced base (calls ++ [⟨call, o⟩]) tr opening db' := by
  refine h.snoc hlog (congrArg List.length hsame) (fun c he => ?_) (fun c' hc' => .inl ?_)
    fun c mode _ => hset c mode
  · exact hconnect c (congrArg LogEntry.call he)
  · have hsome : call.connection? = some c' := (of_decide_eq_true hc').1
    rw [hc, ← hon, hsome]

theorem released (h : Traced base calls tr none db) (hc : tr.connection? = some c)
    (hlog : db'.log = db.log ++ [⟨.closeConnection c, o⟩])
    (hsame : db'.connections = db.connections) :
    Traced base (calls ++ [⟨.closeConnection c, o⟩]) tr.released none db' := by
  have hnext := h.snoc_connection hlog hsame hc rfl (fun _ => nofun) fun _ _ => nofun
  refine ⟨hnext.log, hnext.known, fun c' hc' => ?_, fun c' hc' hother => ?_⟩
  · obtain hc' | hc' := hc' <;> cases hc'
  · obtain rfl | hne := Decidable.em (c' = c)
    · exact .closed nofun (List.mem_append_right _ List.mem_cons_self)
    · cases hnext.fate c' hc' hother with
      | held hheld => exact absurd (Option.some.inj (hheld.symm.trans hc)) hne
      | closed _ hclosed => exact .closed nofun hclosed
      | halfOpen _ hhalf => exact .halfOpen nofun hhalf

theorem connected (h : Traced base calls tr none db) (hnone : tr.connection? = none)
    (hc : c = ⟨db.connections.length⟩) (hlog : db'.log = db.log ++ [⟨.connect c, .succeeded⟩])
    (hlength : db'.connections.length = db.connections.length + 1) :
    Traced base (calls ++ [⟨.connect c, .succeeded⟩]) tr (some c) db' ∧
      c.history (calls ++ [⟨.connect c, .succeeded⟩]) = [⟨.connect c, .succeeded⟩] := by
  have hnew : c.history calls = [] := by
    refine Decidable.byContradiction fun hne => ?_
    have hlt := h.known c hne
    rw [hc] at hlt
    exact Nat.lt_irrefl _ hlt
  have hlt : c.index < db'.connections.length := by
    rw [hc, hlength]
    exact Nat.lt_succ_self _
  have hother : ∀ c', c' ≠ c →
      LogEntry.concerns ⟨.connect c, .succeeded⟩ c' = false := by
    intro c' hne
    simp [LogEntry.concerns, Call.connection?, Ne.symm hne]
  refine ⟨⟨?_, fun c' hc' => ?_, fun c' hc' => ?_, fun c' hc' hopening => ?_⟩, ?_⟩
  · rw [hlog, h.log, List.append_assoc]
  · obtain rfl | hne := Decidable.em (c' = c)
    · exact hlt
    · rw [Connection.history_unconcerned (hother c' hne)] at hc'
      rw [hlength]
      exact Nat.lt_succ_of_lt (h.known c' hc')
  · rw [hnone] at hc'
    cases hc'.resolve_left nofun
    exact hlt
  · have hne : c' ≠ c := fun he => hopening (congrArg some he.symm)
    refine (h.fate c' ((List.mem_append.mp hc').resolve_right fun hlast => ?_) nofun).unconcerned
      (hother c' hne)
    cases List.mem_singleton.mp hlast
    exact hne rfl
  · rw [Connection.history_concerned, hnew]
    · rfl
    · simp [LogEntry.concerns, Call.connection?]

theorem settled {tr' : Transaction} (h : Traced base calls tr (some c) db)
    (hnone : tr.connection? = none) (hfate : c.Fate tr'.connection? calls)
    (hheld : ∀ c', tr'.connection? = some c' → c' = c) : Traced base calls tr' none db := by
  refine ⟨h.log, h.known, fun c' hc' => h.holds c' (.inr ?_), fun c' hc' _ => ?_⟩
  · rw [hheld c' (hc'.resolve_right nofun)]
  · obtain rfl | hne := Decidable.em (c' = c)
    · exact hfate
    · have hnot : tr'.connection? ≠ some c' := fun hc' => hne (hheld c' hc')
      cases h.fate c' hc' fun he => hne (Option.some.inj he).symm with
      | held hheld =>
        rw [hnone] at hheld
        cases hheld
      | closed _ hclosed => exact .closed hnot hclosed
      | halfOpen _ hhalf => exact .halfOpen hnot hhalf

theorem snoc_opening (h : Traced base calls tr (some c) db) (hnone : tr.connection? = none)
    (hlog : db'.log = db.log ++ [e]) (hlength : db'.connections.length = db.connections.length)
    (hon : e.call.connection? = some c) (hconnect : ∀ c, e.call ≠ .connect c) :
    Traced base (calls ++ [e]) tr (some c) db' ∧
      c.history (calls ++ [e]) = c.history calls ++ [e] := by
  refine ⟨h.snoc hlog hlength (fun c' he => ?_) (fun c' hc' => .inr ?_) fun c' _ hc' => ?_,
    Connection.history_concerned ?_⟩
  · exact hconnect c' (congrArg LogEntry.call he)
  · exact hon.symm.trans (of_decide_eq_true hc').1
  · rw [hnone] at hc'
    cases hc'
  · exact decide_eq_true ⟨hon, fun he => hconnect c (congrArg LogEntry.call he)⟩

end Traced

def Traces (base : Database) (tr : Transaction) (db : Database) : Prop :=
  ∃ calls, Traced base calls tr none db

def Opening (base : Database) (tr : Transaction) (c : Connection) (history : List LogEntry)
    (db : Database) : Prop :=
  ∃ calls, Traced base calls tr (some c) db ∧ c.history calls = history

namespace Traces

variable {base : Database} {tr : Transaction} {c : Connection}

theorem connect (hnone : tr.connection? = none) :
    Leads (Traces base tr) connect (fun c => Opening base tr c [⟨.connect c, .succeeded⟩])
      (Traces base tr) := by
  unfold SqlMapper.connect Connection.opened
  refine Leads.perform (fun db h _ => ?_) (fun db e db' _ hr => ?_) fun db c db' h hr => ?_
  · obtain ⟨calls, h⟩ := h
    refine ⟨_, h.snoc rfl rfl nofun (fun c hc => ?_) fun c _ hc => ?_⟩
    · have hcall : some _ = some c := (of_decide_eq_true hc).1
      cases hcall
      exact absurd rfl (of_decide_eq_true hc).2
    · rw [hnone] at hc
      cases hc
  · cases hr
  · cases hr
    obtain ⟨calls, h⟩ := h
    exact ⟨_, h.connected hnone rfl rfl (by simp [Database.record])⟩

/-- What is done on the way to an open connection, and how it ends if it is refused. -/
theorem step (hnone : tr.connection? = none) {α : Type} {history : List LogEntry} {call : Call}
    {refusal : Database → Option Error} {act : Database → Except Error α × Database}
    (hon : call.connection? = some c) (hconnect : ∀ c, call ≠ .connect c)
    (hact : ∀ db, (∃ a, (act db).1 = .ok a) ∧ (act db).2.log = db.log ∧
      (act db).2.connections.length = db.connections.length)
    (hhalf : c.HalfOpen (history ++ [⟨call, .refused⟩])) :
    Leads (Opening base tr c history)
      (.of fun db => Database.perform call (refusal db) act db)
      (fun _ => Opening base tr c (history ++ [⟨call, .succeeded⟩])) (Traces base tr) := by
  refine Leads.perform (fun db h _ => ?_) (fun db e db' _ hr => ?_) fun db a db' h hr => ?_
  · obtain ⟨calls, h, rfl⟩ := h
    have hlog : (db.record call .refused).log = db.log ++ [⟨call, .refused⟩] := rfl
    obtain ⟨hnext, hhistory⟩ := h.snoc_opening hnone hlog rfl hon hconnect
    refine ⟨_, hnext.settled hnone (.halfOpen ?_ ?_) fun c' hc' => ?_⟩
    · rw [hnone]
      nofun
    · rwa [hhistory]
    · rw [hnone] at hc'
      cases hc'
  · obtain ⟨a, ha⟩ := (hact db).1
    rw [hr] at ha
    cases ha
  · obtain ⟨calls, h, rfl⟩ := h
    obtain ⟨-, hlog, hlength⟩ := hact db
    rw [hr] at hlog hlength
    exact ⟨_, h.snoc_opening hnone (congrArg (· ++ _) hlog) hlength hon hconnect⟩

theorem opened (hnone : tr.connection? = none) :
    Leads (Traces base tr) tr.openConnection
      (fun c => Traces base { tr with connection? := some c }) (Traces base tr) := by
  have hread : ∀ c : Connection, Leads (Opening base tr c [⟨.connect c, .succeeded⟩]) c.autoCommit
      (fun _ => Opening base tr c [⟨.connect c, .succeeded⟩, ⟨.readAutoCommit c, .succeeded⟩])
      (Traces base tr) := fun c =>
    step hnone rfl (fun _ => nofun) (fun db => ⟨⟨_, rfl⟩, rfl, rfl⟩) .unread
  have hset : ∀ (c : Connection) (mode : Bool), Leads
      (Opening base tr c [⟨.connect c, .succeeded⟩, ⟨.readAutoCommit c, .succeeded⟩])
      (c.setAutoCommit mode) (fun _ => Opening base tr c [⟨.connect c, .succeeded⟩,
        ⟨.readAutoCommit c, .succeeded⟩, ⟨.setAutoCommit c mode, .succeeded⟩]) (Traces base tr) :=
    fun c mode => step hnone rfl (fun _ => nofun) (fun db => ⟨⟨_, rfl⟩, rfl, by simp⟩) (.unset mode)
  have hheld : ∀ (c : Connection) (history : List LogEntry) db, 2 ≤ history.length →
      ¬ c.HalfOpen history → Opening base tr c history db →
        Traces base { tr with connection? := some c } db := by
    rintro c history db hlong hwhole ⟨calls, h, rfl⟩
    exact ⟨calls, h.settled hnone (.held rfl hlong hwhole) fun c' hc' => (Option.some.inj hc').symm⟩
  unfold Transaction.openConnection
  dsimp only
  split
  · exact (Leads.throw fun _ h => h).bind (Q := fun _ _ => False) fun _ => fun _ hf => hf.elim
  · refine (connect hnone).bind fun c => (hread c).bind fun mode => ?_
    -- the mode is set only where it is not the transaction's already
    split
    · refine (hset c tr.autoCommit).bind fun _ => .pure fun db h => hheld c _ db ?_ ?_ h
      · exact Nat.le_succ 2
      · nofun
    · refine .pure fun db h => hheld c _ db ?_ ?_ h
      · exact Nat.le_refl 2
      · nofun

theorem lasting (base : Database) : Lasting fun tr _ => Traces base tr where
  perm := fun _ h => h
  used := by
    rintro tr held db s call o f - hcall - - ⟨calls, h⟩
    refine ⟨_, h.snoc_statement rfl rfl ?_⟩
    have hon := hcall.on
    cases call <;> first | rfl | cases hon
  created := fun hc form ⟨_, h⟩ =>
    ⟨_, h.snoc_connection rfl rfl hc rfl (fun _ => nofun) fun _ _ => nofun⟩
  uncreated := fun hc s form ⟨_, h⟩ =>
    ⟨_, h.snoc_connection rfl rfl hc rfl (fun _ => nofun) fun _ _ => nofun⟩
  closed := fun _ sql ⟨_, h⟩ => ⟨_, h.snoc_statement rfl rfl rfl⟩
  unclosed := fun _ sql ⟨_, h⟩ => ⟨_, h.snoc_statement rfl rfl rfl⟩
  opened := fun hnone _ => opened hnone
  decided := by
    rintro tr held db c call hc hcall o ⟨calls, h⟩
    cases hcall with
    | read | commit | rollback =>
      exact ⟨_, h.snoc_connection rfl rfl hc rfl (fun _ => nofun) fun _ _ => nofun⟩
  released := fun hc _ ⟨_, h⟩ => ⟨_, h.released hc rfl rfl⟩
  rescripted := fun _ _ ⟨calls, h⟩ => ⟨calls, h.log, h.known, h.holds, h.fate⟩

end Traces

theorem World.unconnected_turn (config : Configuration) {w : World}
    (h : w.session.closed = true → w.session.transaction.connection? = none) (step : Step)
    (hclosed : (w.turn config step).after.session.closed = true) :
    (w.turn config step).after.session.transaction.connection? = none := by
  by_cases hp : ∃ op p, step = .perform op p
  · obtain ⟨op, p, rfl⟩ := hp
    cases hopen : w.session.closed with
    | true =>
      obtain ⟨d, hsession, -⟩ := w.turn_of_closed config op p hopen
      rw [hsession]
      exact h hopen
    | false =>
      obtain rfl | hop := Classical.em (op = .close)
      · have hperform := congrArg Prod.snd (Session.perform_close config (w.scope p))
        rw [Session.close_of_open (s := w.scope p) hopen] at hperform
        exact congrArg (fun s => s.session.transaction.connection?) hperform
      · have hkeep := Session.perform_closed config (s := w.scope p) hopen hop
        cases hkeep.symm.trans hclosed
  · have hsame := turn_session config (w := w) fun op p he => hp ⟨op, p, he⟩
    rw [hsame] at hclosed ⊢
    exact h hclosed

namespace Run

variable {config : Configuration} {db : Database} {type : ExecutorType} {tr : Transaction}
  {autoCommit : Bool} {past : List Turn} {w : World}

theorem unconnected (hr : Run config (.opened db type tr autoCommit) past w)
    (hclosed : w.session.closed = true) : w.session.transaction.connection? = none := by
  induction hr with
  | start => cases hclosed
  | turn _ step ih => exact World.unconnected_turn config ih step hclosed

/-- A connection that has been opened in the run is the transaction's or has been closed, unless
opening it went no further than to read its mode, or to read and to set it. Once the session is
closed the transaction has no connection. -/
theorem connections_accounted
    (hheld : ∀ c, tr.connection? = some c → c.index < db.connections.length)
    (hr : Run config (.opened db type tr autoCommit) past w) :
    (∀ c : Connection, ⟨.connect c, .succeeded⟩ ∈ past.flatMap Turn.calls →
      ((w.session.transaction.connection? = some c ∨
          ∃ o, ⟨.closeConnection c, o⟩ ∈ past.flatMap Turn.calls) ↔
        ¬ c.HalfOpen (c.history (past.flatMap Turn.calls)))) ∧
    (w.session.closed = true → w.session.transaction.connection? = none) := by
  refine ⟨fun c hc => ?_, hr.unconnected⟩
  obtain ⟨calls, h⟩ := (hr.balanced (Traces.lasting db)
    (.opened ⟨_, .start hheld⟩ type autoCommit)).tends.holding.holds
  obtain rfl := hr.calls_eq h.log
  cases h.fate c hc nofun with
  | held hheld _ whole => exact iff_of_true (.inl hheld) whole
  | closed _ hclosed =>
    exact iff_of_true (.inr ⟨_, hclosed⟩) (Connection.not_halfOpen_of_closed hclosed)
  | halfOpen hnot hhalf =>
    refine iff_of_false ?_ (absurd hhalf)
    rintro (hheld | ⟨o, hclosed⟩)
    · exact hnot hheld
    · exact Connection.not_halfOpen_of_closed hclosed hhalf

end Run

def selectStep : Step := .perform (.selectList "all" .all) .absent

/-- The connection that has been opened for a query is open and the transaction's. -/
theorem queried_connection_held :
    ⟨.connect ⟨0⟩, .succeeded⟩ ∈ [smallWorld.turn smallConfig selectStep].flatMap Turn.calls ∧
      ((smallWorld.turn smallConfig selectStep).after.session.transaction.connection? = some ⟨0⟩ ∨
        ∃ o, ⟨.closeConnection ⟨0⟩, o⟩ ∈
          [smallWorld.turn smallConfig selectStep].flatMap Turn.calls) := by
  have hrun : Run smallConfig smallWorld [smallWorld.turn smallConfig selectStep]
      (smallWorld.turn smallConfig selectStep).after := .turn .start selectStep
  have hconnect : ⟨.connect ⟨0⟩, .succeeded⟩ ∈
      [smallWorld.turn smallConfig selectStep].flatMap Turn.calls := by decide
  have hhistory : Connection.history ⟨0⟩
      ([smallWorld.turn smallConfig selectStep].flatMap Turn.calls) =
        [⟨.connect ⟨0⟩, .succeeded⟩, ⟨.readAutoCommit ⟨0⟩, .succeeded⟩,
          ⟨.setAutoCommit ⟨0⟩ false, .succeeded⟩,
          ⟨.prepare ⟨0⟩ ⟨0⟩ (.prepared "SELECT 1" false), .succeeded⟩] := by decide
  have hheld : ∀ c, (Transaction.overSource false none).connection? = some c →
      c.index < smallDatabase.connections.length := nofun
  refine ⟨hconnect, ((Run.connections_accounted hheld hrun).1 _ hconnect).mpr ?_⟩
  rw [hhistory]
  nofun

/-- A database that does not let connections be put into another mode. -/
def stubbornWorld : World :=
  .opened { Database.ofScript .empty with faults := .ofReasons [("set_auto_commit", "no")] none }
    .simple (.overSource false none) false

/-- A connection that was opened for a query is neither the transaction's nor closed after the session
has been closed. -/
theorem half_open_connection_leaks : ∃ past w, Run smallConfig stubbornWorld past w ∧
    w.session.closed = true ∧ ⟨.connect ⟨0⟩, .succeeded⟩ ∈ past.flatMap Turn.calls ∧
    w.session.transaction.connection? ≠ some ⟨0⟩ ∧
    ∀ o, ⟨.closeConnection ⟨0⟩, o⟩ ∉ past.flatMap Turn.calls := by
  refine ⟨_, _, .turn (.turn .start selectStep) (.perform .close .absent), rfl, by decide,
    by decide, fun o => ?_⟩
  cases o <;> decide

end SqlMapper
