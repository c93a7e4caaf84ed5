import SqlMapper.Proofs.Session.Keeping

namespace SqlMapper

open Fallible

namespace Event

/-- The event may have changed something in the database. -/
def executes : Event → Bool
  | executed _ | batchExecuted _ _ => true
  | _ => false

/-- What becomes of the changes is decided. -/
def decides : Event → Bool
  | committed | rolledBack => true
  | _ => false

/-- There is nothing to be decided any more, or nobody to decide it. -/
def ends : Event → Bool
  | committed | rolledBack | connectionClosed => true
  | _ => false

end Event

def LogEntry.events (calls : List LogEntry) : List Event := calls.filterMap event?

@[simp] theorem LogEntry.events_append (a b : List LogEntry) :
    events (a ++ b) = events a ++ events b := List.filterMap_append

theorem LogEntry.mem_events_snoc {calls : List LogEntry} {e : LogEntry} {ev : Event}
    (h : ev ∈ events (calls ++ [e])) : ev ∈ events calls ∨ e.event? = some ev := by
  rw [events_append] at h
  refine (List.mem_append.mp h).imp_right fun hev => ?_
  obtain ⟨e', he', hevent⟩ := List.mem_filterMap.mp hev
  obtain rfl := List.mem_singleton.mp he'
  exact hevent

theorem LogEntry.events_decision {call : Call} {d : Event} (h : call.event? = some d)
    (c : Connection) :
    events [⟨.readAutoCommit c, .succeeded⟩, ⟨call, .succeeded⟩] = [d] := by
  have hevent : LogEntry.event? ⟨call, .succeeded⟩ = some d := h
  rw [events, List.filterMap_cons_none rfl, List.filterMap_cons_some hevent]
  rfl

/-- A call that reads the mode of a connection or decides a transaction, and is refused. -/
def LogEntry.falters : LogEntry → Bool
  | ⟨.readAutoCommit _, .refused⟩ | ⟨.commit _, .refused⟩ | ⟨.rollback _, .refused⟩ => true
  | _ => false

namespace Transaction

/-- Nothing is committed unless someone says so. -/
structure Manual (tr : Transaction) (db : Database) : Prop where
  mode : tr.autoCommit = false
  connection : ∀ c, tr.connection? = some c → db.autoCommit c = false

theorem Manual.of_connections {tr : Transaction} {db db' : Database} (h : tr.Manual db)
    (hsame : db'.connections = db.connections) : tr.Manual db' := by
  refine ⟨h.mode, fun c hc => ?_⟩
  rw [Database.autoCommit, hsame]
  exact h.connection c hc

theorem Manual.overSource (timeout : Option Nat) (db : Database) :
    (Transaction.overSource false timeout).Manual db := ⟨rfl, nofun⟩

theorem Manual.overConnection {c : Connection} {tr : Transaction} {db db' : Database}
    (h : (Transaction.overConnection c).outcome db = (.ok tr, db')) (hmode : tr.autoCommit = false) :
    tr.Manual db' := by
  have hread : Leads (fun _ => True) c.autoCommit (fun mode db => db.autoCommit c = mode)
      fun _ => True := by
    refine Leads.perform (fun _ _ _ => trivial) (fun _ _ _ _ _ => trivial) fun _ mode _ _ hr => ?_
    cases hr
    rfl
  have hleads : Leads (fun _ => True) (Transaction.overConnection c)
      (fun tr db => tr.autoCommit = false → tr.Manual db) fun _ => True := by
    refine (hread.orUndo fun _ _ => ⟨fun _ _ _ => trivial, fun _ _ _ => trivial⟩).bind fun mode =>
      .pure fun db hconnection hfalse => ⟨hfalse, fun c' hc' => ?_⟩
    cases hc'
    exact hconnection.trans hfalse
  exact hleads.ok h trivial hmode

/-- How the attempt to decide ends: there is no connection, a call is refused, or the connection
does it. -/
inductive Decision (tr : Transaction) (call : Connection → Call) (db : Database) :
    Except Error Unit × Database → Prop where
  | idle (none : tr.connection? = none) : Decision tr call db (.ok (), db)
  | falters {e : Error} {calls : List LogEntry} {db' : Database} (log : db'.log = db.log ++ calls)
    (connections : db'.connections = db.connections) (h : ∃ x ∈ calls, x.falters = true) :
    Decision tr call db (.error e, db')
  | decides {c : Connection} {db' : Database} (hc : tr.connection? = some c)
    (log : db'.log = db.log ++ [⟨.readAutoCommit c, .succeeded⟩, ⟨call c, .succeeded⟩])
    (connections : db'.connections = db.connections) : Decision tr call db (.ok (), db')

variable {tr : Transaction} {db : Database}

theorem finishWith_decision {finish : Connection → DriverM Unit} {call : Connection → Call}
    {refusal : Database → Option Error}
    (hfinish : ∀ c db, (finish c).outcome db =
      Database.perform (call c) (refusal db) (fun db => (.ok (), db)) db)
    (hcall : ∀ c, LogEntry.falters ⟨call c, .refused⟩ = true) (h : tr.Manual db) :
    tr.Decision call db ((tr.finishWith finish).outcome db) := by
  unfold finishWith
  split
  · next hnone => exact .idle hnone
  · next c hc =>
    cases hf : db.fault .readAutoCommit with
    | some e =>
      have hread : c.autoCommit.outcome db = (.error e, db.record (.readAutoCommit c) .refused) := by
        rw [Connection.autoCommit, outcome_of, hf]
        rfl
      rw [outcome_bind_of_error hread]
      exact .falters rfl rfl ⟨_, List.mem_singleton_self _, rfl⟩
    | none =>
      have hread : c.autoCommit.outcome db =
          (.ok false, db.record (.readAutoCommit c) .succeeded) := by
        rw [Connection.autoCommit, outcome_of, hf, ← h.connection c hc]
        rfl
      rw [outcome_bind_of_ok hread]
      change tr.Decision call db ((finish c).outcome _)
      rw [hfinish]
      unfold Database.perform
      split
      · have hlog : ((db.record (.readAutoCommit c) .succeeded).record (call c) .refused).log =
            db.log ++ [⟨.readAutoCommit c, .succeeded⟩, ⟨call c, .refused⟩] := by
          simp [Database.record]
        exact .falters hlog rfl ⟨_, by simp, hcall c⟩
      · refine .decides hc ?_ rfl
        simp [Database.record]

theorem commit_decision (h : tr.Manual db) : tr.Decision .commit db (tr.commit.outcome db) :=
  finishWith_decision (fun _ _ => rfl) (fun _ => rfl) h

theorem rollback_decision (h : tr.Manual db) : tr.Decision .rollback db (tr.rollback.outcome db) :=
  finishWith_decision (fun _ _ => rfl) (fun _ => rfl) h

end Transaction

/-- Since `base`, where the transaction was `start`, `calls` have decided nothing. Who has statements
or has had something executed has a connection. -/
structure Working (base : Database) (start : Transaction) (calls : List LogEntry)
    (tr : Transaction) (held : List Statement) (db : Database) : Prop where
  log : db.log = base.log ++ calls
  undecided : ∀ ev ∈ LogEntry.events calls, ev.ends = false
  manual : tr.Manual db
  connected : (held ≠ [] ∨ ∃ ev ∈ LogEntry.events calls, ev.executes = true) →
    tr.connection? ≠ none
  stays : start.connection? ≠ none → tr.connection? ≠ none

def AtWork (base : Database) (start : Transaction) (tr : Transaction) (held : List Statement)
    (db : Database) : Prop := ∃ calls, Working base start calls tr held db

theorem Call.not_ends_of_on {call : Call} {s : Statement} (h : call.on? = some s) {ev : Event}
    (hev : call.event? = some ev) : ev.ends = false := by
  cases call <;> cases h <;> cases hev <;> rfl

theorem LogEntry.event_of_event? {e : LogEntry} {ev : Event} (h : e.event? = some ev) :
    e.call.event? = some ev := by
  unfold event? at h
  split at h
  · cases h
  · exact h

namespace Working

variable {base db : Database} {start tr : Transaction} {calls : List LogEntry}
  {held held' : List Statement}

theorem refl (h : tr.Manual db) (hheld : held ≠ [] → tr.connection? ≠ none) :
    Working db tr [] tr held db where
  log := (List.append_nil _).symm
  undecided := fun ev hev => absurd hev List.not_mem_nil
  manual := h
  connected := by
    rintro (hne | ⟨ev, hev, -⟩)
    · exact hheld hne
    · exact absurd hev List.not_mem_nil
  stays := id

theorem snoc {db' : Database} {e : LogEntry} (h : Working base start calls tr held db)
    (hconnected : tr.connection? ≠ none) (hlog : db'.log = db.log ++ [e]) (hmanual : tr.Manual db')
    (hends : ∀ ev, e.event? = some ev → ev.ends = false) :
    Working base start (calls ++ [e]) tr held' db' where
  log := by rw [hlog, h.log, List.append_assoc]
  undecided := by
    intro ev hev
    obtain hev | hevent := LogEntry.mem_events_snoc hev
    · exact h.undecided ev hev
    · exact hends ev hevent
  manual := hmanual
  connected := fun _ => hconnected
  stays := fun _ => hconnected

theorem snoc_quiet {db' : Database} {e : LogEntry} (h : Working base start calls tr held db)
    (hlog : db'.log = db.log ++ [e]) (hmanual : tr.Manual db')
    (hquiet : ∀ ev, e.event? = some ev → ev.ends = false ∧ ev.executes = false) :
    Working base start (calls ++ [e]) tr held db' where
  log := by rw [hlog, h.log, List.append_assoc]
  undecided := by
    intro ev hev
    obtain hev | hevent := LogEntry.mem_events_snoc hev
    · exact h.undecided ev hev
    · exact (hquiet ev hevent).1
  manual := hmanual
  connected := by
    rintro (hne | ⟨ev, hev, hx⟩)
    · exact h.connected (.inl hne)
    · obtain hev | hevent := LogEntry.mem_events_snoc hev
      · exact h.connected (.inr ⟨ev, hev, hx⟩)
      · rw [(hquiet ev hevent).2] at hx
        cases hx
  stays := h.stays

theorem join (h : Working base start calls tr held db) {c : Connection}
    (hmode : db.autoCommit c = false) :
    Working base start calls { tr with connection? := some c } held db where
  log := h.log
  undecided := h.undecided
  manual := ⟨h.manual.mode, fun c' hc' => by
    cases hc'
    exact hmode⟩
  connected := nofun
  stays := nofun

end Working

namespace AtWork

variable {base db db' : Database} {start tr : Transaction} {held : List Statement} {call : Call}
  {o : CallOutcome}

theorem join {c : Connection} (h : AtWork base start tr held db)
    (hmode : db.autoCommit c = tr.autoCommit) :
    AtWork base start { tr with connection? := some c } held db := by
  obtain ⟨calls, h⟩ := h
  exact ⟨calls, h.join (hmode.trans h.manual.mode)⟩

section

variable (hnone : tr.connection? = none)
include hnone

theorem record_quiet (h : AtWork base start tr held db) (hlog : db'.log = db.log)
    (hquiet : ∀ ev, LogEntry.event? ⟨call, o⟩ = some ev → ev.ends = false ∧ ev.executes = false) :
    AtWork base start tr held (db'.record call o) := by
  obtain ⟨calls, h⟩ := h
  refine ⟨_, h.snoc_quiet (congrArg (· ++ _) hlog) ⟨h.manual.mode, fun c hc => ?_⟩ hquiet⟩
  rw [hnone] at hc
  cases hc

theorem record_silent (h : AtWork base start tr held db) (hlog : db'.log = db.log)
    (hsilent : LogEntry.event? ⟨call, o⟩ = none) :
    AtWork base start tr held (db'.record call o) := by
  refine record_quiet hnone h hlog fun ev hev => ?_
  rw [hsilent] at hev
  cases hev

theorem connecting : Leads (AtWork base start tr held) connect
    (fun c db => AtWork base start tr held db ∧ c.index < db.connections.length)
    (AtWork base start tr held) := by
  unfold connect Connection.opened
  refine Leads.perform (fun db h _ => record_silent hnone h rfl rfl) (fun db e db' _ hr => ?_)
    fun db c db' h hr => ?_
  · cases hr
  · cases hr
    refine ⟨record_quiet hnone h rfl fun ev hev => ?_, by simp [Database.record]⟩
    cases hev
    exact ⟨rfl, rfl⟩

theorem reading (c : Connection) :
    Leads (fun db => AtWork base start tr held db ∧ c.index < db.connections.length) c.autoCommit
      (fun mode db => AtWork base start tr held db ∧ c.index < db.connections.length ∧
        db.autoCommit c = mode)
      (AtWork base start tr held) := by
  refine Leads.perform (fun db h _ => record_silent hnone h.1 rfl rfl) (fun db e db' _ hr => ?_)
    fun db mode db' h hr => ?_
  · cases hr
  · cases hr
    exact ⟨record_silent hnone h.1 rfl rfl, h.2, rfl⟩

theorem setting (c : Connection) (mode : Bool) :
    Leads (fun db => AtWork base start tr held db ∧ c.index < db.connections.length)
      (c.setAutoCommit mode) (fun _ db => AtWork base start tr held db ∧ db.autoCommit c = mode)
      (AtWork base start tr held) := by
  refine Leads.perform (fun db h _ => record_silent hnone h.1 rfl rfl) (fun db e db' _ hr => ?_)
    fun db _ db' h hr => ?_
  · cases hr
  · cases hr
    refine ⟨record_quiet hnone h.1 rfl fun ev hev => ?_, ?_⟩
    · cases hev
      exact ⟨rfl, rfl⟩
    · simp [Database.record, Database.autoCommit, h.2]

theorem opened : Leads (AtWork base start tr held) tr.openConnection
    (fun c => AtWork base start { tr with connection? := some c } held)
    (AtWork base start tr held) := by
  unfold Transaction.openConnection
  dsimp only
  split
  · exact (Leads.throw fun _ h => h).bind (Q := fun _ _ => False) fun _ => fun _ hf => hf.elim
  · refine (connecting hnone).bind fun c => (reading hnone c).bind fun mode => ?_
    split
    · exact ((setting hnone c tr.autoCommit).weaken_pre fun _ h => ⟨h.1, h.2.1⟩).bind fun _ =>
        .pure fun db h => h.1.join h.2
    · next hmode =>
      refine .pure fun db h => h.1.join ?_
      rw [h.2.2]
      simpa using hmode

end

end AtWork

namespace Working

theorem custody (base : Database) (start : Transaction) : Custody (AtWork base start) where
  perm := by
    rintro tr held held' db hperm ⟨calls, h⟩
    refine ⟨calls, h.log, h.undecided, h.manual, fun hc => h.connected (hc.imp_left ?_), h.stays⟩
    rintro hne rfl
    exact hne (List.perm_nil.mp hperm.symm)
  used := by
    rintro tr held db s call o f hs hcall - - ⟨calls, h⟩
    refine ⟨_, h.snoc (h.connected (.inl (List.ne_nil_of_mem hs))) rfl
      (h.manual.of_connections rfl) fun ev hev => ?_⟩
    exact Call.not_ends_of_on hcall.on (LogEntry.event_of_event? hev)
  created := by
    rintro tr held db c hc form ⟨calls, h⟩
    refine ⟨_, h.snoc (by simp [hc]) rfl (h.manual.of_connections rfl) fun ev hev => ?_⟩
    cases hev
    rfl
  uncreated := by
    rintro tr held db c - s form ⟨calls, h⟩
    exact ⟨_, h.snoc_quiet rfl (h.manual.of_connections rfl) nofun⟩
  closed := by
    rintro tr held db s - sql ⟨calls, h⟩
    refine ⟨_, h.snoc (h.connected (.inl (List.cons_ne_nil _ _))) rfl
      (h.manual.of_connections rfl) fun ev hev => ?_⟩
    cases hev
    rfl
  unclosed := by
    rintro tr held db s - sql ⟨calls, h⟩
    exact ⟨_, h.snoc (h.connected (.inl (List.cons_ne_nil _ _))) rfl
      (h.manual.of_connections rfl) nofun⟩
  opened := fun hnone held => AtWork.opened hnone

end Working

end SqlMapper
