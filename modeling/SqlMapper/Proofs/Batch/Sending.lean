import SqlMapper.Proofs.Session.Failing
import SqlMapper.Proofs.Session.Command

namespace SqlMapper

open Fallible

namespace Batch

def closing (q : QueuedStatement) (s : Scope) : Scope :=
  { s with database := (q.statement.closeQuietly.outcome s.database).2 }

/-- How a queued statement is executed and closed: the database refuses its entries, or their keys
are not to be had, or it has a result. -/
inductive Sending (config : Configuration) (q : QueuedStatement) (s : Scope) :
    Except (Error × List Int) BatchResult → Scope → Prop where
  | refused {e : Error} {db : Database}
    (hx : q.statement.executeBatch.outcome s.database = (.error e, db)) :
    Sending config q s (.error (e, [])) (closing q { s with database := db })
  | keyless {counts : List Int} {db : Database} {e : Error} {t : Scope}
    (hx : q.statement.executeBatch.outcome s.database = (.ok counts, db))
    (hk : (Keys.afterBatch config q.command q.statement q.parameters counts).outcome
      { s with database := db } = (.error e, t)) :
    Sending config q s (.error (e, counts)) (closing q t)
  | done {counts : List Int} {db : Database} {parameters : List Parameter} {t : Scope}
    (hx : q.statement.executeBatch.outcome s.database = (.ok counts, db))
    (hk : (Keys.afterBatch config q.command q.statement q.parameters counts).outcome
      { s with database := db } = (.ok parameters, t)) :
    Sending config q s (.ok ⟨q.command.id, q.sql, parameters, counts⟩) (closing q t)

inductive Sends (config : Configuration) :
    Scope → List QueuedStatement → List BatchResult → Scope → Prop where
  | nil (s : Scope) : Sends config s [] [] s
  | cons {s t u : Scope} {q : QueuedStatement} {rest : List QueuedStatement} {r : BatchResult}
    {results : List BatchResult} (hq : Sending config q s (.ok r) t)
    (hrest : Sends config t rest results u) : Sends config s (q :: rest) (r :: results) u

variable {config : Configuration} {q : QueuedStatement} {s t u : Scope}

theorem closing_outcome (q : QueuedStatement) (s : Scope) :
    (liftM q.statement.closeQuietly : SessionM Unit).outcome s = (.ok (), closing q s) := by
  rw [SessionM.outcome_lift, Statement.closeQuietly_ok]
  rfl

theorem exists_sending (config : Configuration) (q : QueuedStatement) (s : Scope) :
    ∃ r t, ((execute config q).thenAlways (liftM q.statement.closeQuietly)).outcome s = (.ok r, t) ∧
      Sending config q s r t := by
  suffices h : ∃ r t, (execute config q).outcome s = (.ok r, t) ∧
      Sending config q s r (closing q t) by
    obtain ⟨r, t, hx, hs⟩ := h
    exact ⟨r, closing q t, outcome_thenAlways_of_ok hx (closing_outcome q t), hs⟩
  rw [execute, SessionM.outcome_lift_bind, outcome_attempt]
  rcases hx : q.statement.executeBatch.outcome s.database with ⟨e | counts, db⟩
  · exact ⟨_, _, rfl, .refused hx⟩
  · dsimp only
    rw [SessionM.outcome_attempt_bind]
    rcases hk : (Keys.afterBatch config q.command q.statement q.parameters counts).outcome
      { s with database := db } with ⟨e | parameters, t⟩
    · exact ⟨_, _, rfl, .keyless hx hk⟩
    · exact ⟨_, _, rfl, .done hx hk⟩

theorem Sending.unique {r r' : Except (Error × List Int) BatchResult}
    (h : Sending config q s r t) (h' : Sending config q s r' u) : r = r' ∧ t = u := by
  cases h with
  | refused hx =>
    cases h' with
    | refused hx' =>
      cases hx.symm.trans hx'
      exact ⟨rfl, rfl⟩
    | keyless hx' => cases hx.symm.trans hx'
    | done hx' => cases hx.symm.trans hx'
  | keyless hx hk =>
    cases h' with
    | refused hx' => cases hx.symm.trans hx'
    | keyless hx' hk' =>
      cases hx.symm.trans hx'
      cases hk.symm.trans hk'
      exact ⟨rfl, rfl⟩
    | done hx' hk' =>
      cases hx.symm.trans hx'
      cases hk.symm.trans hk'
  | done hx hk =>
    cases h' with
    | refused hx' => cases hx.symm.trans hx'
    | keyless hx' hk' =>
      cases hx.symm.trans hx'
      cases hk.symm.trans hk'
    | done hx' hk' =>
      cases hx.symm.trans hx'
      cases hk.symm.trans hk'
      exact ⟨rfl, rfl⟩

theorem Sending.failure {e : Error} {counts : List Int} {u : Scope}
    (h : Sending config q s (.error (e, counts)) u) :
    (∃ db, q.statement.executeBatch.outcome s.database = (.error e, db) ∧ counts = []) ∨
    ∃ db v, q.statement.executeBatch.outcome s.database = (.ok counts, db) ∧
      (Keys.afterBatch config q.command q.statement q.parameters counts).outcome
        { s with database := db } = (.error e, v) := by
  cases h with
  | refused hx => exact .inl ⟨_, hx, rfl⟩
  | keyless hx hk => exact .inr ⟨_, _, hx, hk⟩

theorem outcome_of_sending {r : Except (Error × List Int) BatchResult}
    (h : Sending config q s r t) :
    ((execute config q).thenAlways (liftM q.statement.closeQuietly)).outcome s = (.ok r, t) := by
  obtain ⟨r', t', hx, h'⟩ := exists_sending config q s
  obtain ⟨rfl, rfl⟩ := h.unique h'
  exact hx

def closed (queue : List QueuedStatement) (s : Scope) : Scope :=
  { s with database := ((closeAll queue).outcome s.database).2 }

theorem closeAll_ok (queue : List QueuedStatement) (db : Database) :
    ((closeAll queue).outcome db).1 = .ok () := by
  induction queue generalizing db with
  | nil => rfl
  | cons q rest ih =>
    change ((q.statement.closeQuietly >>= fun _ => closeAll rest).outcome db).1 = _
    rw [outcome_bind_of_ok (Prod.ext (q.statement.closeQuietly_ok db) rfl)]
    exact ih _

variable {queue rest done : List QueuedStatement} {results : List BatchResult}

theorem send_of_sends (rest : List QueuedStatement) (successful : List BatchResult)
    (h : Sends config s done results t) :
    (send config successful (done ++ rest)).outcome s =
      (send config (successful ++ results) rest).outcome t := by
  induction h generalizing successful with
  | nil => simp
  | @cons s t u q done r results hq _ ih =>
    rw [List.cons_append, send, outcome_bind_of_ok (outcome_of_sending hq)]
    simp only
    rw [ih, List.append_assoc, List.singleton_append]

theorem send_of_failed (successful : List BatchResult) {e : Error} {counts : List Int}
    (h : Sends config s done results t) (hq : Sending config q t (.error (e, counts)) u) :
    (send config successful (done ++ q :: rest)).outcome s =
      (.error (partialFailure (successful ++ results).length q counts (successful ++ results) e),
        closed rest u) := by
  rw [send_of_sends _ successful h, send, outcome_bind_of_ok (outcome_of_sending hq)]
  simp only
  rw [SessionM.outcome_lift_bind]
  rcases hc : (closeAll rest).outcome u.database with ⟨_ | _, db⟩
  · have := closeAll_ok rest u.database
    rw [hc] at this
    cases this
  · rw [closed, hc]
    rfl

theorem sends_cases (config : Configuration) (queue : List QueuedStatement) (s : Scope) :
    (∃ results t, Sends config s queue results t) ∨
    ∃ done q rest results t e counts u, queue = done ++ q :: rest ∧
      Sends config s done results t ∧ Sending config q t (.error (e, counts)) u := by
  induction queue generalizing s with
  | nil => exact .inl ⟨_, _, .nil s⟩
  | cons q rest ih =>
    obtain ⟨⟨e, counts⟩ | r, t, -, hq⟩ := exists_sending config q s
    · exact .inr ⟨[], q, rest, [], s, e, counts, t, rfl, .nil s, hq⟩
    · rcases ih t with
        ⟨results, u, hrest⟩ | ⟨done, q', rest', results, u, e, counts, v, rfl, hd, hf⟩
      · exact .inl ⟨_, _, .cons hq hrest⟩
      · exact .inr ⟨q :: done, q', rest', r :: results, u, e, counts, v, rfl, .cons hq hd, hf⟩

/-- The counts of a failure are the database's where it says how far it got. -/
theorem partialFailure_eq (index : Nat) (q : QueuedStatement) (counts : List Int)
    (successful : List BatchResult) (e : Error) :
    ∃ found reason, partialFailure index q counts successful e =
        .partialBatch ⟨index, q.command.id, q.sql, found, successful, reason⟩ ∧
      (e.Whole → found = counts) ∧ ∀ some reason, e = .batchUpdate some reason → found = some := by
  cases e with
  | batchUpdate some reason =>
    refine ⟨some, reason, rfl, fun h => absurd rfl (h some reason), fun _ _ he => ?_⟩
    cases he
    rfl
  | _ => exact ⟨counts, _, rfl, fun _ => rfl, nofun⟩

theorem results_of_sends (h : Sends config s done results t) :
    results.map (fun r => (r.command, r.sql)) = done.map fun q => (q.command.id, q.sql) := by
  induction h with
  | nil => rfl
  | cons hq _ ih =>
    cases hq with
    | done => simpa using ih

def emptied (s : Scope) : Scope :=
  { s with session := { s.session with strategy := .batch [] } }

inductive Flushes (config : Configuration) (queue : List QueuedStatement) (s : Scope) :
    Except Error (List BatchResult) → Scope → Prop where
  | sent {results : List BatchResult} {t : Scope} (h : Sends config (emptied s) queue results t) :
    Flushes config queue s (.ok results) t
  | broken {done rest : List QueuedStatement} {q : QueuedStatement} {results : List BatchResult}
    {t u : Scope} {e : Error} {counts : List Int} (hqueue : queue = done ++ q :: rest)
    (h : Sends config (emptied s) done results t) (hq : Sending config q t (.error (e, counts)) u) :
    Flushes config queue s (.error (partialFailure results.length q counts results e))
      (closed rest u)

theorem outcome_of_flushes {r : Except Error (List BatchResult)}
    (h : Flushes config queue s r t) : (flush config queue).outcome s = (r, t) := by
  rw [flush, setQueue, SessionM.outcome_changeSession_bind]
  cases h with
  | sent h =>
    have hsend := send_of_sends [] [] h
    rw [List.append_nil] at hsend
    exact hsend
  | broken hqueue h hq =>
    subst hqueue
    exact send_of_failed [] h hq

theorem exists_flushes (config : Configuration) (queue : List QueuedStatement) (s : Scope) :
    ∃ r t, (flush config queue).outcome s = (r, t) ∧ Flushes config queue s r t := by
  rcases sends_cases config queue (emptied s) with
    ⟨results, t, h⟩ | ⟨done, q, rest, results, t, e, counts, u, hqueue, h, hq⟩
  · exact ⟨_, _, outcome_of_flushes (.sent h), .sent h⟩
  · exact ⟨_, _, outcome_of_flushes (.broken hqueue h hq), .broken hqueue h hq⟩

end Batch

end SqlMapper
