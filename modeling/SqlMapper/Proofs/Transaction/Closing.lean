import SqlMapper.Proofs.Database.Batch
import SqlMapper.Proofs.Session.Balance

namespace SqlMapper

open Fallible

theorem Database.perform_still {α : Type} (call : Call) (refusal : Option Error)
    (r : Database → Except Error α) (db : Database) :
    ∃ o, (perform call refusal (fun db => (r db, db)) db).2 = db.record call o := by
  cases refusal with
  | some e => exact ⟨.refused, rfl⟩
  | none =>
    unfold perform
    dsimp only
    cases r db with
    | ok a => exact ⟨.succeeded, rfl⟩
    | error e => exact ⟨.failed, rfl⟩

/-- Closing these statements one after the other, under the texts they have. -/
def Statement.closings (db : Database) (statements : List Statement) : List Call :=
  statements.map fun s => .closeStatement s (db.statement s).sql

namespace Statement

variable {s : Statement} {db : Database}

theorem closeQuietly_of_open (h : (db.statement s).closed = false) :
    ∃ f o, s.closeQuietly.outcome db =
      (.ok (), (db.change s f).record (.closeStatement s (db.statement s).sql) o) := by
  have hclosed : s.isClosed.outcome db = (.ok (db.statement s).closed, db) := rfl
  rw [closeQuietly, outcome_bind_of_ok hclosed, h]
  change ∃ f o, (quietly s.close).outcome db = _
  rw [outcome_quietly, close, outcome_of]
  dsimp only
  split
  · rw [h]
    exact ⟨_, _, rfl⟩
  · exact ⟨id, _, by rw [db.change_id]; rfl⟩

theorem closeEach_log {α : Type} (f : α → Statement) (l : List α) (h : db.InHand (l.map f)) :
    ∃ calls, ((l.forM fun x => (f x).closeQuietly : DriverM Unit).outcome db).2.log =
        db.log ++ calls ∧
      calls.map LogEntry.call = closings db (l.map f) := by
  induction l generalizing db with
  | nil => exact ⟨[], (List.append_nil _).symm, rfl⟩
  | cons x l ih =>
    obtain ⟨g, o, hx⟩ := closeQuietly_of_open (h.isOpen (f x) List.mem_cons_self)
    have hne : ∀ t ∈ l.map f, t ≠ f x := fun t ht he => h.not_mem (he ▸ ht)
    -- the statements that come after are as they were
    have hsame : ∀ t ∈ l.map f, ((db.change (f x) g).record
        (.closeStatement (f x) (db.statement (f x)).sql) o).statement t = db.statement t :=
      fun t ht => Database.statement_change_of_ne (hne t ht) g
    obtain ⟨calls, hlog, hcalls⟩ := ih ⟨h.tail.nodup, fun t ht => by
      rw [hsame t ht]
      exact h.tail.isOpen t ht⟩
    refine ⟨⟨.closeStatement (f x) (db.statement (f x)).sql, o⟩ :: calls, ?_, ?_⟩
    · change (((f x).closeQuietly >>= fun _ => l.forM fun x => (f x).closeQuietly).outcome db).2.log = _
      rw [outcome_bind_of_ok hx, hlog]
      exact List.append_assoc _ _ _
    · have htail : closings ((db.change (f x) g).record
          (.closeStatement (f x) (db.statement (f x)).sql) o) (l.map f) = closings db (l.map f) :=
        List.map_congr_left fun t ht => by rw [hsame t ht]
      rw [List.map_cons, hcalls, htail]
      rfl

end Statement

theorem SessionM.abandon_log {u : Scope} (h : u.database.InHand u.session.strategy.statements) :
    ∃ calls, (abandon.outcome u).2.database.log = u.database.log ++ calls ∧
      calls.map LogEntry.call = Statement.closings u.database u.session.strategy.statements ∧
      (abandon.outcome u).2.session.transaction = u.session.transaction := by
  rw [abandon, outcome_session_bind]
  cases hst : u.session.strategy with
  | simple => exact ⟨[], (List.append_nil _).symm, rfl, rfl⟩
  | reuse m =>
    rw [hst] at h
    obtain ⟨calls, hlog, hcalls⟩ := Statement.closeEach_log Prod.snd m h
    exact ⟨calls, hlog, hcalls, rfl⟩
  | batch queue =>
    rw [hst] at h
    obtain ⟨calls, hlog, hcalls⟩ := Statement.closeEach_log QueuedStatement.statement queue h
    exact ⟨calls, hlog, hcalls, rfl⟩

namespace Transaction

/-- What is called to roll back: the connection says whether it commits by itself, and unless it does
it is to roll back. -/
inductive RollsBack (tr : Transaction) : List LogEntry → Prop where
  | unconnected (h : tr.connection? = none) : RollsBack tr []
  | unread {c : Connection} (h : tr.connection? = some c) (o : CallOutcome) :
      RollsBack tr [⟨.readAutoCommit c, o⟩]
  | attempted {c : Connection} (h : tr.connection? = some c) (o : CallOutcome) :
      RollsBack tr [⟨.readAutoCommit c, .succeeded⟩, ⟨.rollback c, o⟩]

variable (tr : Transaction) (db : Database)

theorem rollback_log :
    ∃ calls, (tr.rollback.outcome db).2.log = db.log ++ calls ∧ tr.RollsBack calls := by
  rw [rollback, finishWith]
  cases hc : tr.connection? with
  | none => exact ⟨[], (List.append_nil _).symm, .unconnected hc⟩
  | some c =>
    have hread : c.autoCommit.outcome db = Database.perform (.readAutoCommit c)
      (db.fault .readAutoCommit) (fun db => (.ok (db.autoCommit c), db)) db := rfl
    dsimp only
    cases hfault : db.fault .readAutoCommit with
    | some e =>
      rw [hfault] at hread
      rw [outcome_bind_of_error hread]
      exact ⟨_, rfl, .unread hc _⟩
    | none =>
      rw [hfault] at hread
      rw [outcome_bind_of_ok hread]
      cases db.autoCommit c with
      | true => exact ⟨_, rfl, .unread hc _⟩
      | false =>
        have hlast : ∃ o, (c.rollback.outcome (db.record (.readAutoCommit c) .succeeded)).2 =
            (db.record (.readAutoCommit c) .succeeded).record (.rollback c) o :=
          Database.perform_still _ _ (fun _ => .ok ()) _
        obtain ⟨o, hlast⟩ := hlast
        refine ⟨_, ?_, .attempted hc o⟩
        rw [if_neg Bool.false_ne_true, hlast]
        exact List.append_assoc _ _ _

theorem closeConnection_calls :
    ∃ calls, (tr.closeConnection.outcome db).2.log = db.log ++ calls ∧
      calls.map LogEntry.call = tr.connection?.toList.map Call.closeConnection := by
  unfold closeConnection
  cases tr.connection? with
  | none => exact ⟨[], (List.append_nil _).symm, rfl⟩
  | some c =>
    have hlast : ∃ o, (c.close.outcome db).2 = db.record (.closeConnection c) o :=
      Database.perform_still _ _ (fun _ => .ok ()) _
    obtain ⟨o, hlast⟩ := hlast
    refine ⟨[⟨.closeConnection c, o⟩], ?_, rfl⟩
    dsimp only
    rw [hlast]
    rfl

end Transaction

/-- How often closing the connection has been attempted. -/
def Connection.closings (c : Connection) (calls : List LogEntry) : Nat :=
  (calls.map LogEntry.call).count (.closeConnection c)

/-- Since `base`, `calls` have been made, which close no connection twice. One that has been closed
existed, and one that is held exists and has not been closed. -/
structure ClosesOnce (base : Database) (calls : List LogEntry) (held? : Option Connection)
    (db : Database) : Prop where
  log : db.log = base.log ++ calls
  once : ∀ c : Connection, c.closings calls ≤ 1
  known : ∀ c : Connection, c.closings calls ≠ 0 → c.index < db.connections.length
  held : ∀ c, held? = some c → c.index < db.connections.length ∧ c.closings calls = 0

namespace ClosesOnce

variable {base db db' : Database} {calls : List LogEntry} {held? : Option Connection}
  {c : Connection} {e : LogEntry} {o : CallOutcome}

theorem start (h : ∀ c, held? = some c → c.index < db.connections.length) :
    ClosesOnce db [] held? db where
  log := (List.append_nil _).symm
  once := fun _ => Nat.zero_le 1
  known := fun _ hne => absurd rfl hne
  held := fun c hc => ⟨h c hc, rfl⟩

theorem closings_snoc (c : Connection) (calls : List LogEntry) (e : LogEntry) :
    c.closings (calls ++ [e]) = c.closings calls + if e.call = .closeConnection c then 1 else 0 := by
  rw [Connection.closings, List.map_append, List.count_append, List.map_singleton,
    List.count_singleton]
  simp only [beq_iff_eq, Connection.closings]

theorem snoc (h : ClosesOnce base calls held? db) (hlog : db'.log = db.log ++ [e])
    (hlength : db.connections.length ≤ db'.connections.length)
    (he : ∀ c, e.call ≠ .closeConnection c) : ClosesOnce base (calls ++ [e]) held? db' := by
  have hsame : ∀ c : Connection, c.closings (calls ++ [e]) = c.closings calls := by
    intro c
    rw [closings_snoc, if_neg (he c), Nat.add_zero]
  refine ⟨?_, fun c => ?_, fun c hc => ?_, fun c hc => ?_⟩
  · rw [hlog, h.log, List.append_assoc]
  · rw [hsame]
    exact h.once c
  · rw [hsame] at hc
    exact Nat.lt_of_lt_of_le (h.known c hc) hlength
  · rw [hsame]
    exact ⟨Nat.lt_of_lt_of_le (h.held c hc).1 hlength, (h.held c hc).2⟩

theorem forget (h : ClosesOnce base calls held? db) : ClosesOnce base calls none db :=
  ⟨h.log, h.once, h.known, nofun⟩

theorem released (h : ClosesOnce base calls (some c) db)
    (hlog : db'.log = db.log ++ [⟨.closeConnection c, o⟩])
    (hsame : db'.connections = db.connections) :
    ClosesOnce base (calls ++ [⟨.closeConnection c, o⟩]) none db' := by
  obtain ⟨hindex, hzero⟩ := h.held c rfl
  refine ⟨?_, fun d => ?_, fun d hd => ?_, nofun⟩
  · rw [hlog, h.log, List.append_assoc]
  · rw [closings_snoc]
    split
    · next hcall =>
      cases hcall
      omega
    · exact h.once d
  · rw [hsame]
    rw [closings_snoc] at hd
    split at hd
    · next hcall =>
      cases hcall
      exact hindex
    · exact h.known d hd

theorem connected (h : ClosesOnce base calls none db) (hc : c = ⟨db.connections.length⟩)
    (hlog : db'.log = db.log ++ [⟨.connect c, .succeeded⟩])
    (hlength : db'.connections.length = db.connections.length + 1) :
    ClosesOnce base (calls ++ [⟨.connect c, .succeeded⟩]) (some c) db' := by
  have hnext := h.snoc hlog (hlength ▸ Nat.le_succ _) fun _ => nofun
  refine ⟨hnext.log, hnext.once, hnext.known, ?_⟩
  rintro _ ⟨⟩
  have hzero : c.closings calls = 0 := by
    refine Decidable.byContradiction fun hne => ?_
    have hlt := h.known c hne
    rw [hc] at hlt
    exact Nat.lt_irrefl _ hlt
  refine ⟨?_, ?_⟩
  · rw [hc, hlength]
    exact Nat.lt_succ_self _
  · rw [closings_snoc, hzero]
    rfl

theorem maintains {α : Type} {call : Call} {refusal : Database → Option Error}
    {act : Database → Except Error α × Database} (hcall : ∀ c, call ≠ .closeConnection c)
    (hact : ∀ db, (act db).2.log = db.log ∧
      db.connections.length ≤ (act db).2.connections.length) :
    Maintains (fun db => ∃ calls, ClosesOnce base calls held? db)
      (.of fun db => Database.perform call (refusal db) act db) fun _ => True := by
  refine Leads.maintains (Leads.perform (fun db h _ => ?_) (fun db e db' h hr => ?_)
    fun db a db' h hr => ?_) <;> obtain ⟨calls, h⟩ := h
  · exact ⟨_, h.snoc rfl Nat.le.refl hcall⟩
  · obtain ⟨hlog, hlength⟩ := hact db
    rw [hr] at hlog hlength
    exact ⟨_, h.snoc (congrArg (· ++ _) hlog) hlength hcall⟩
  · obtain ⟨hlog, hlength⟩ := hact db
    rw [hr] at hlog hlength
    exact ⟨_, h.snoc (congrArg (· ++ _) hlog) hlength hcall⟩

theorem connect :
    Leads (fun db => ∃ calls, ClosesOnce base calls none db) connect
      (fun c db => ∃ calls, ClosesOnce base calls (some c) db)
      (fun db => ∃ calls, ClosesOnce base calls none db) := by
  unfold SqlMapper.connect Connection.opened
  refine Leads.perform (fun db h _ => ?_) (fun db e db' _ hr => ?_) fun db c db' h hr => ?_
  · obtain ⟨calls, h⟩ := h
    exact ⟨_, h.snoc rfl Nat.le.refl fun _ => nofun⟩
  · cases hr
  · cases hr
    obtain ⟨calls, h⟩ := h
    exact ⟨_, h.connected rfl rfl (by simp [Database.record])⟩

theorem opened (tr : Transaction) :
    Leads (fun db => ∃ calls, ClosesOnce base calls none db) tr.openConnection
      (fun c db => ∃ calls, ClosesOnce base calls (some c) db)
      (fun db => ∃ calls, ClosesOnce base calls none db) := by
  have hforget : ∀ (c : Connection) db, (∃ calls, ClosesOnce base calls (some c) db) →
      ∃ calls, ClosesOnce base calls none db := fun _ _ ⟨calls, h⟩ => ⟨calls, h.forget⟩
  have hread : ∀ c : Connection, Maintains (fun db => ∃ calls, ClosesOnce base calls (some c) db)
      c.autoCommit fun _ => True := fun c =>
    maintains (fun _ => nofun) fun _ => ⟨rfl, Nat.le.refl⟩
  have hset : ∀ (c : Connection) (mode : Bool),
      Maintains (fun db => ∃ calls, ClosesOnce base calls (some c) db)
        (c.setAutoCommit mode) fun _ => True := fun c mode =>
    maintains (fun _ => nofun) fun db => ⟨rfl, by simp⟩
  unfold Transaction.openConnection
  dsimp only
  split
  · exact (Leads.throw fun _ h => h).bind (Q := fun _ _ => False) fun _ => fun _ hf => hf.elim
  · refine connect.bind fun c => (hread c).bind_leads (hforget c) fun mode _ => ?_
    split
    · exact ((hset c _).leads.weaken_error (hforget c)).bind fun _ => .pure fun _ h => h
    · exact .pure fun _ h => h

theorem lasting (base : Database) :
    Lasting fun tr _ db => ∃ calls, ClosesOnce base calls tr.connection? db where
  perm := fun _ h => h
  used := by
    rintro tr held db s call o f - hcall - - ⟨calls, h⟩
    refine ⟨_, h.snoc rfl Nat.le.refl fun c he => ?_⟩
    have hon := hcall.on
    rw [show call = .closeConnection c from he] at hon
    cases hon
  created := fun _ _ ⟨_, h⟩ => ⟨_, h.snoc rfl Nat.le.refl fun _ => nofun⟩
  uncreated := fun _ _ _ ⟨_, h⟩ => ⟨_, h.snoc rfl Nat.le.refl fun _ => nofun⟩
  closed := fun _ _ ⟨_, h⟩ => ⟨_, h.snoc rfl Nat.le.refl fun _ => nofun⟩
  unclosed := fun _ _ ⟨_, h⟩ => ⟨_, h.snoc rfl Nat.le.refl fun _ => nofun⟩
  opened := fun {tr} hnone _ => by
    rw [hnone]
    exact opened tr
  decided := by
    rintro tr held db c call - hcall o ⟨calls, h⟩
    exact ⟨_, h.snoc rfl Nat.le.refl fun c he => by cases hcall <;> cases he⟩
  released := by
    rintro tr held db c hc o ⟨calls, h⟩
    rw [hc] at h
    exact ⟨_, h.released rfl rfl⟩
  rescripted := fun _ _ ⟨calls, h⟩ => ⟨calls, h.log, h.once, h.known, h.held⟩

end ClosesOnce

end SqlMapper
