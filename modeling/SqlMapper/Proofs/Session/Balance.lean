import SqlMapper.Proofs.Session.Keeping
import SqlMapper.Proofs.Statements.Cursor

namespace SqlMapper

open Fallible

/-- The calls that decide a transaction on its connection, or find out whether they have to. -/
inductive Call.Decides (c : Connection) : Call → Prop where
  | read : Decides c (.readAutoCommit c)
  | commit : Decides c (.commit c)
  | rollback : Decides c (.rollback c)

/-- What `H` says also goes on to hold when the transaction is decided, when it gives back its
connection, and when the database is going to answer and to refuse other things. -/
structure Lasting (H : Transaction → List Statement → Database → Prop) : Prop extends
    Custody H where
  decided {tr : Transaction} {held : List Statement} {db : Database} {c : Connection} {call : Call}
    (hc : tr.connection? = some c) (hcall : call.Decides c) (o : CallOutcome) (h : H tr held db) :
    H tr held (db.record call o)
  released {tr : Transaction} {held : List Statement} {db : Database} {c : Connection}
    (hc : tr.connection? = some c) (o : CallOutcome) (h : H tr held db) :
    H tr.released held (db.record (.closeConnection c) o)
  rescripted {tr : Transaction} {held : List Statement} {db : Database} (script : Script)
    (faults : FaultPlan) (h : H tr held db) :
    H tr held { db with script := script, faults := faults }

variable {α : Type} {config : Configuration}
  {H : Transaction → List Statement → Database → Prop} {tr : Transaction}
  {held extra : List Statement} {type : ExecutorType}

namespace Transaction

theorem decided_holding (hH : Lasting H) {c : Connection} (hc : tr.connection? = some c)
    {call : Call} (hcall : call.Decides c) {refusal : Database → Option Error}
    {r : Database → Except Error α} :
    Maintains (Holding H tr held)
      (.of fun db => Database.perform call (refusal db) (fun db => (r db, db)) db) fun _ => True := by
  have hrecord : ∀ o db, Holding H tr held db → Holding H tr held (db.record call o) :=
    fun o db h => ⟨h.inHand.record call o, hH.decided hc hcall o h.holds⟩
  refine Leads.maintains (Leads.perform (fun db h _ => hrecord _ db h) (fun db e db' h hr => ?_)
    fun db a db' h hr => ?_) <;> obtain ⟨-, rfl⟩ := Prod.mk.inj hr
  · exact hrecord _ _ h
  · exact hrecord _ _ h

theorem commit_holding (hH : Lasting H) :
    Maintains (Holding H tr held) tr.commit fun _ => True :=
  tr.finishWith_maintains (fun _ hc => decided_holding hH hc .read)
    fun _ hc => decided_holding hH hc .commit

theorem rollback_holding (hH : Lasting H) :
    Maintains (Holding H tr held) tr.rollback fun _ => True :=
  tr.finishWith_maintains (fun _ hc => decided_holding hH hc .read)
    fun _ hc => decided_holding hH hc .rollback

theorem closeConnection_holding (hH : Lasting H) {db : Database} (h : Holding H tr held db) :
    Holding H tr.released held (tr.closeConnection.outcome db).2 := by
  unfold closeConnection
  split
  · next hnone =>
    have hsame : tr.released = tr := by
      rw [released, ← hnone]
    rw [hsame]
    exact h
  · next c hc =>
    rw [Connection.close, outcome_of]
    unfold Database.perform
    split
    · exact ⟨h.inHand.record _ _, hH.released hc _ h.holds⟩
    · exact ⟨h.inHand.record _ _, hH.released hc _ h.holds⟩

end Transaction

namespace Session

variable {u : Scope}

theorem finishing_spare {finish : Transaction → DriverM Unit}
    (hfinish : ∀ tr held, Maintains (Holding H tr held) (finish tr) fun _ => True)
    (must : Bool) {x : Except Error α × Scope} (hx : x.2.Spare H type extra) :
    (finishing must finish x).2.Spare H type extra := by
  refine finishing_blind Scope.Spare.blind (fun u hu => ?_) must hx
  exact ⟨⟨hu.tends.kind, hu.tends.sorted, (hfinish _ _ _ hu.tends.holding).1⟩, hu.none⟩

theorem flushStatements_spare (hH : Custody H) (hopen : u.session.closed = false)
    (h : u.Tends H type extra) : ((flushStatements config).outcome u).2.Spare H type extra := by
  rw [flushStatements_of_open hopen]
  exact (SessionM.flush_spare config hH).state h

theorem commit_spare (hH : Lasting H) (force : Bool) (hopen : u.session.closed = false)
    (h : u.Tends H type extra) : ((commit config force).outcome u).2.Spare H type extra := by
  rw [commit_of_open hopen]
  exact finishing_spare (fun _ _ => Transaction.commit_holding hH) _
    ((SessionM.flush_spare config hH.toCustody).state (h.same rfl rfl rfl))

theorem rollback_spare (hH : Lasting H) (force : Bool) (hopen : u.session.closed = false)
    (h : u.Tends H type extra) : ((rollback force).outcome u).2.Spare H type extra := by
  rw [rollback_of_open hopen]
  exact finishing_spare (fun _ _ => Transaction.rollback_holding hH) _
    ((SessionM.abandon_spare hH.toCustody).state (h.same rfl rfl rfl))

theorem close_spare (hH : Lasting H) (hopen : u.session.closed = false)
    (h : u.Tends H type extra) : (close.outcome u).2.Spare H type extra := by
  rw [close_of_open hopen]
  have hback := rollback_spare hH false hopen h
  exact ⟨⟨hback.tends.kind, hback.tends.sorted,
    Transaction.closeConnection_holding hH hback.tends.holding⟩, hback.none⟩

/-- Operations after which the strategy keeps no statement. -/
def Operation.Empties : Operation → Prop
  | .flushStatements | .commit _ | .rollback _ | .close => True
  | _ => False

variable (config) in
theorem perform_spare (hH : Lasting H) {op : Operation} (hop : op.Empties)
    (hopen : u.session.closed = false) (h : u.Tends H type extra) :
    ((op.perform config).outcome u).2.Spare H type extra := by
  cases op with
  | flushStatements =>
    rw [perform_flushStatements]
    exact flushStatements_spare hH.toCustody hopen h
  | commit force =>
    rw [perform_commit]
    exact commit_spare hH force hopen h
  | rollback force =>
    rw [perform_rollback]
    exact rollback_spare hH force hopen h
  | close =>
    rw [perform_close]
    exact close_spare hH hopen h
  | _ => exact hop.elim

theorem Operation.Decides.empties {op : Operation} (h : op.Decides) : op.Empties := by
  cases op <;> first | exact trivial | exact h.elim

theorem perform_holding (hH : Lasting H) {op : Operation} (h : u.Tends H type extra)
    {r : Except Error Answer} {v : Scope} (hx : (op.perform config).outcome u = (r, v)) :
    (∀ a, r = .ok a → (∀ c ∈ a.cursors, ∃ s, c.Owns s) ∧
      v.Tends H type (a.cursors.filterMap Cursor.statement ++ extra)) ∧
      ∀ e, r = .error e → v.Tends H type extra := by
  by_cases hop : op.Decides
  · have htends : v.Tends H type extra := by
      have hv : ((op.perform config).outcome u).2 = v := by rw [hx]
      rw [← hv]
      cases hc : u.session.closed with
      | false => exact (perform_spare config hH hop.empties hc h).tends
      | true =>
        obtain ⟨d, p, hsame⟩ := perform_of_closed config hc op
        rw [hsame]
        exact h.same rfl rfl rfl
    refine ⟨fun a ha => ?_, fun _ _ => htends⟩
    subst ha
    rw [cursors_of_perform (fun id bounds he => by rw [he] at hop; exact hop) hx]
    exact ⟨nofun, htends⟩
  · have hleads : Leads (Scope.Tends H type extra) (op.perform config)
        (fun a v => (∀ c ∈ a.cursors, ∃ s, c.Owns s) ∧
          v.Tends H type (a.cursors.filterMap Cursor.statement ++ extra))
        (Scope.Tends H type extra) := perform_tends hH.toCustody hop
    refine ⟨fun a ha => ?_, fun e he => ?_⟩
    · subst ha
      exact hleads.ok hx h
    · subst he
      exact hleads.error hx h

end Session

namespace World

variable {w : World}

def cursorStatements (w : World) : List Statement := w.cursors.filterMap Cursor.statement

structure Balanced (H : Transaction → List Statement → Database → Prop) (type : ExecutorType)
    (w : World) : Prop where
  sound : ∀ c ∈ w.cursors, c.Sound
  tends : (w.scope .absent).Tends H type w.cursorStatements

namespace Balanced

theorem opened {db : Database} (h : H tr [] db) (type : ExecutorType) (autoCommit : Bool) :
    (opened db type tr autoCommit).Balanced H type := by
  refine ⟨nofun, ?_⟩
  cases type
  · exact ⟨rfl, trivial, ⟨.nil, nofun⟩, h⟩
  · exact ⟨rfl, .nil, ⟨.nil, nofun⟩, h⟩
  · exact ⟨rfl, trivial, ⟨.nil, nofun⟩, h⟩

theorem perform (config : Configuration) (hH : Lasting H) (h : w.Balanced H type)
    (op : Session.Operation) (p : Parameter) :
    (w.turn config (.perform op p)).after.Balanced H type := by
  obtain ⟨⟨r, v⟩, hx⟩ : ∃ x, (op.perform config).outcome (w.scope p) = x := ⟨_, rfl⟩
  obtain ⟨hok, herror⟩ := Session.perform_holding hH (h.tends.same (v := w.scope p) rfl rfl rfl) hx
  rw [turn_perform, hx]
  rcases r with e | a
  · refine ⟨fun c hc => h.sound c (by simpa [following] using hc), ?_⟩
    have hsame : (w.following (.error e) v).cursorStatements = w.cursorStatements := by
      simp [following, cursorStatements]
    rw [hsame]
    exact (herror e rfl).same rfl rfl rfl
  · obtain ⟨howns, htends⟩ := hok a rfl
    refine ⟨fun c hc => ?_, ?_⟩
    · obtain hold | hnew := List.mem_append.mp hc
      · exact h.sound c hold
      · obtain ⟨s, hs⟩ := howns c hnew
        exact hs.sound
    · have hperm : (w.following (.ok a) v).cursorStatements.Perm
          (a.cursors.filterMap Cursor.statement ++ w.cursorStatements) := by
        rw [cursorStatements, following, List.filterMap_append]
        exact List.perm_append_comm
      exact ⟨htends.kind, htends.sorted, htends.holding.perm hH.toCustody
        (hperm.symm.append_left _)⟩

theorem onCursor (hH : Lasting H) (h : w.Balanced H type) (i : Nat) {work : Cursor → DriverM Cursor}
    (hwork : ∀ c : Cursor, c.Sound → ∀ tr held,
      Leads (Holding H tr (c.statement.toList ++ held)) (work c)
        (fun c' db => c'.Sound ∧
          Holding H tr (c'.statement.toList ++ held) db) fun _ => False) :
    (w.onCursor i work).Balanced H type := by
  unfold World.onCursor
  split
  · exact h
  · next c hget =>
    obtain ⟨hlt, hc⟩ := List.getElem?_eq_some_iff.mp hget
    -- what is in hand, with the statement of this cursor in front
    have hperm : ∀ c' : Cursor, (w.session.strategy.statements ++
        (w.cursors.set i c').filterMap Cursor.statement).Perm (c'.statement.toList ++
          (w.session.strategy.statements ++ ((w.cursors.take i).filterMap Cursor.statement ++
            (w.cursors.drop (i + 1)).filterMap Cursor.statement))) := by
      intro c'
      have hfront : (c' :: w.cursors.drop (i + 1)).filterMap Cursor.statement =
          c'.statement.toList ++ (w.cursors.drop (i + 1)).filterMap Cursor.statement := by
        rw [List.filterMap_cons]
        cases c'.statement <;> rfl
      rw [List.set_eq_take_append_cons_drop, if_pos hlt, List.filterMap_append, hfront]
      exact ((List.perm_append_comm_assoc _ _ _).append_left _).trans
        (List.perm_append_comm_assoc _ _ _)
    have hleads := hwork c (h.sound c (List.mem_of_getElem? hget)) w.session.transaction
      (w.session.strategy.statements ++ ((w.cursors.take i).filterMap Cursor.statement ++
        (w.cursors.drop (i + 1)).filterMap Cursor.statement))
    have hbefore := hperm c
    rw [← hc, List.set_getElem_self, hc] at hbefore
    have hhold := h.tends.holding.perm hH.toCustody hbefore
    rcases hx : (work c).outcome w.database with ⟨e | c', db⟩
    · exact (hleads.error hx hhold).elim
    · obtain ⟨hsound, hafter⟩ := hleads.ok hx hhold
      refine ⟨fun d hd => ?_, h.tends.kind, h.tends.sorted,
        hafter.perm hH.toCustody (hperm c').symm⟩
      obtain hd | rfl := List.mem_or_eq_of_mem_set hd
      · exact h.sound d hd
      · exact hsound

theorem turn (config : Configuration) (hH : Lasting H) (h : w.Balanced H type) (step : Step) :
    (w.turn config step).after.Balanced H type := by
  cases step with
  | perform op p => exact h.perform config hH op p
  | fetch i =>
    exact h.onCursor hH i fun c hc tr held =>
      (c.next_holding hH.toCustody hc held _).bind fun r => .pure fun _ hr => hr
  | closeCursor i =>
    refine h.onCursor hH i fun c _ tr held => (c.close_holding hH.toCustody held _).weaken
      (fun _ hd => hd) (fun c' db hd => ?_) fun _ hd => hd
    obtain ⟨hnone, hstate, hold⟩ := hd
    refine ⟨⟨fun ho => absurd ho hstate, fun hs => absurd hnone hs⟩, ?_⟩
    rw [hnone]
    exact hold
  | rescript script faults =>
    obtain ⟨hin, hholds⟩ := h.tends.holding
    exact ⟨h.sound, h.tends.kind, h.tends.sorted, ⟨hin.nodup, hin.isOpen⟩,
      hH.rescripted script faults hholds⟩

/-- An open session that has been flushed, committed, rolled back or closed keeps no statement,
whether or not that went well. -/
theorem spare (config : Configuration) (hH : Lasting H) (h : w.Balanced H type)
    (hopen : w.session.closed = false) {op : Session.Operation} (hop : op.Empties) (p : Parameter) :
    (w.turn config (.perform op p)).after.session.strategy.statements = [] :=
  (Session.perform_spare config hH hop (u := w.scope p) hopen (h.tends.same rfl rfl rfl)).none

end Balanced

end World

theorem Run.balanced (hH : Lasting H) {start w : World} {past : List Turn}
    (hstart : start.Balanced H type) (hr : Run config start past w) : w.Balanced H type := by
  induction hr with
  | start => exact hstart
  | turn _ step ih => exact ih.turn config hH step

end SqlMapper
