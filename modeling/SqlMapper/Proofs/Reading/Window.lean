import SqlMapper.Proofs.Reading.Pulling

namespace SqlMapper

open Fallible Database

/-- What asking for rows comes to, one time after the other: all the rows, or those up to where
reading fails and then the failure. -/
def StatementState.offers (t : StatementState) : List (Except Error Row) :=
  match t.readFailure with
  | none => t.rows.map .ok
  | some (n, reason) =>
    if t.rowsRead ≤ n ∧ n ≤ t.rowsRead + t.rows.length then
      (t.rows.take (n - t.rowsRead)).map .ok ++ [.error (.statement reason)]
    else t.rows.map .ok

def failures {α : Type} (items : List (Except Error α)) : List Error :=
  items.filterMap fun
    | .ok _ => none
    | .error e => some e

def Collected.upToFailure : List (Except Error Value) → Collected
  | [] => ⟨[], none⟩
  | .ok value :: rest => (upToFailure rest).cons value
  | .error e :: _ => ⟨[], some e⟩

/-- How the reading ends when its values go to a callback: well once that has stopped, and else with
the failure if there is one. -/
def Collected.ending (c : Collected) (calls : List Handling) : Except Error Unit :=
  if calls.any (·.left.stopped) then .ok () else c.answer.map fun _ => ()

/-- The mapped rows of the window: the first `offset` rows are dropped and at most `limit` kept. A
row that is dropped counts only if it cannot be read. -/
def Reading.inWindow (read : Row → Except Error Value) (bounds : RowBounds)
    (items : List (Except Error Row)) : List (Except Error Value) :=
  (failures (items.take bounds.offset)).map .error ++
    ((items.drop bounds.offset).take bounds.limit).map (· >>= read)

def Reading.found (s : Statement) (read : Row → Except Error Value) (bounds : RowBounds)
    (db : Database) : Collected :=
  .upToFailure (inWindow read bounds (db.statement s).offers)

namespace RowHandler

/-- The calls of the callback for these values, of which `count` have gone before. -/
def handlings (h : RowHandler) (past : List Handling) (count : Nat) : List Value → List Handling
  | [] => []
  | value :: rest =>
    let handling := h.handle past ⟨value, count + 1, false⟩
    if handling.left.stopped then [handling]
    else handling :: h.handlings (past ++ [handling]) (count + 1) rest

/-- The callback has been handed the first of the values, as many as there are calls: each with its
number, after the calls before it. Only the last call may stop, and if it does not, there are no
more values. -/
structure Handed (h : RowHandler) (past : List Handling) (count : Nat) (values : List Value)
    (calls : List Handling) : Prop where
  given : calls.map (·.given) =
    ((values.take calls.length).zipIdx (count + 1)).map fun (v, n) => ⟨v, n, false⟩
  reacts : ∀ k x, calls[k]? = some x → x = h.handle (past ++ calls.take k) x.given
  stops : ∀ k x, calls[k]? = some x → x.left.stopped = true → calls.length = k + 1
  all : (∀ x ∈ calls, x.left.stopped = false) → calls.length = values.length

theorem given_handle (h : RowHandler) (past : List Handling) (c : ResultContext) :
    (h.handle past c).given = c := rfl

theorem left_handle_count (h : RowHandler) (past : List Handling) (c : ResultContext) :
    (h.handle past c).left.count = c.count := by
  simp only [handle]
  split <;> split <;> rfl

theorem handlings_of_stop {h : RowHandler} {past : List Handling} {count : Nat} {value : Value}
    {rest : List Value} (hstop : (h.handle past ⟨value, count + 1, false⟩).left.stopped = true) :
    h.handlings past count (value :: rest) = [h.handle past ⟨value, count + 1, false⟩] := by
  rw [handlings, if_pos hstop]

theorem handlings_of_more {h : RowHandler} {past : List Handling} {count : Nat} {value : Value}
    {rest : List Value} (hmore : (h.handle past ⟨value, count + 1, false⟩).left.stopped = false) :
    h.handlings past count (value :: rest) = h.handle past ⟨value, count + 1, false⟩ ::
      h.handlings (past ++ [h.handle past ⟨value, count + 1, false⟩]) (count + 1) rest := by
  rw [handlings, if_neg (by rw [hmore]; nofun)]

theorem Handed.nothing (h : RowHandler) (past : List Handling) (count : Nat) :
    h.Handed past count [] [] := by
  refine ⟨rfl, fun k x hx => ?_, fun k x hx => ?_, fun _ => rfl⟩
  · cases hx
  · cases hx

theorem Handed.stop {h : RowHandler} {past : List Handling} {count : Nat} {value : Value}
    (hstop : (h.handle past ⟨value, count + 1, false⟩).left.stopped = true) (rest : List Value) :
    h.Handed past count (value :: rest) [h.handle past ⟨value, count + 1, false⟩] := by
  refine ⟨rfl, fun k x hx => ?_, fun k x hx _ => ?_, fun hall => ?_⟩
  · cases k with
    | zero =>
      cases hx
      rw [List.take_zero, List.append_nil, given_handle]
    | succ k => cases hx
  · cases k with
    | zero => rfl
    | succ k => cases hx
  · have := hall _ (List.mem_singleton_self _)
    rw [hstop] at this
    cases this

theorem Handed.more {h : RowHandler} {past : List Handling} {count : Nat} {value : Value}
    {rest : List Value} {calls : List Handling}
    (hmore : (h.handle past ⟨value, count + 1, false⟩).left.stopped = false)
    (hrest : h.Handed (past ++ [h.handle past ⟨value, count + 1, false⟩]) (count + 1) rest calls) :
    h.Handed past count (value :: rest) (h.handle past ⟨value, count + 1, false⟩ :: calls) := by
  refine ⟨?_, fun k x hx => ?_, fun k x hx hx' => ?_, fun hall => ?_⟩
  · rw [List.map_cons, hrest.given, given_handle]
    rfl
  · cases k with
    | zero =>
      cases hx
      rw [List.take_zero, List.append_nil, given_handle]
    | succ k =>
      have := hrest.reacts k x hx
      rwa [List.append_assoc, List.singleton_append] at this
  · cases k with
    | zero =>
      cases hx
      cases hmore.symm.trans hx'
    | succ k => exact congrArg (· + 1) (hrest.stops k x hx hx')
  · exact congrArg (· + 1) (hrest.all fun x hx => hall x (List.mem_cons_of_mem _ hx))

theorem handed_handlings (h : RowHandler) (past : List Handling) (count : Nat)
    (values : List Value) : h.Handed past count values (h.handlings past count values) := by
  induction values generalizing past count with
  | nil => exact .nothing h past count
  | cons value rest ih =>
    by_cases hstop : (h.handle past ⟨value, count + 1, false⟩).left.stopped = true
    · rw [handlings_of_stop hstop]
      exact .stop hstop rest
    · have hmore : (h.handle past ⟨value, count + 1, false⟩).left.stopped = false := by
        simpa using hstop
      rw [handlings_of_more hmore]
      exact .more hmore (ih _ (count + 1))

end RowHandler

namespace Collected

theorem answer_cons (value : Value) (c : Collected) :
    (c.cons value).answer = c.answer.map (value :: ·) := by
  cases hf : c.failure <;> simp [answer, cons, hf, Except.map]

theorem ending_cons {c : Collected} {value : Value} {calls : List Handling} {x : Handling}
    (h : x.left.stopped = false) : (c.cons value).ending (x :: calls) = c.ending calls := by
  rw [ending, ending, List.any_cons, h, Bool.false_or, answer_cons]
  cases c.answer <;> rfl

end Collected

namespace StatementState

variable {t : StatementState} {row : Row} {rest : List Row} {n : Nat} {reason : String}

theorem offers_length_le (t : StatementState) : t.offers.length ≤ t.rows.length + 1 := by
  unfold offers
  split
  · simp
  · split
    · rw [List.length_append, List.length_map, List.length_take]
      exact Nat.succ_le_succ (Nat.min_le_right _ _)
    · simp

theorem length_le_of_no_failures (h : failures t.offers = []) :
    t.offers.length ≤ t.rows.length := by
  cases hf : t.readFailure with
  | none => simp [offers, hf]
  | some failure =>
    by_cases hwithin : t.rowsRead ≤ failure.1 ∧ failure.1 ≤ t.rowsRead + t.rows.length
    · simp [offers, hf, hwithin, failures] at h
    · simp [offers, hf, hwithin]

theorem offers_of_failing (h : t.readFailure.filter (·.1 = t.rowsRead) = some (n, reason)) :
    t.offers = [.error (.statement reason)] := by
  obtain ⟨hf, hn⟩ := Option.filter_eq_some_iff.mp h
  obtain rfl : n = t.rowsRead := by simpa using hn
  simp [offers, hf]

theorem offers_of_end (h : t.readFailure.filter (·.1 = t.rowsRead) = none) (hrows : t.rows = []) :
    t.offers = [] := by
  cases hf : t.readFailure with
  | none => simp [offers, hf, hrows]
  | some failure =>
    have hne : failure.1 ≠ t.rowsRead := by simpa [hf] using h
    simp only [offers, hf, hrows]
    rw [if_neg (by simp; omega)]
    rfl

theorem offers_of_row (h : t.readFailure.filter (·.1 = t.rowsRead) = none)
    (hrows : t.rows = row :: rest) :
    t.offers = .ok row :: offers { t with rows := rest, rowsRead := t.rowsRead + 1 } := by
  cases hf : t.readFailure with
  | none => simp [offers, hf, hrows]
  | some failure =>
    have hne : failure.1 ≠ t.rowsRead := by simpa [hf] using h
    by_cases hwithin : t.rowsRead < failure.1 ∧ failure.1 ≤ t.rowsRead + (rest.length + 1)
    · obtain ⟨k, hk⟩ : ∃ k, failure.1 - t.rowsRead = k + 1 :=
        ⟨failure.1 - t.rowsRead - 1, by omega⟩
      have hk' : failure.1 - (t.rowsRead + 1) = k := by omega
      simp only [offers, hf, hrows, hk, hk']
      rw [if_pos (by simp; omega), if_pos (by omega)]
      rfl
    · simp only [offers, hf, hrows]
      rw [if_neg (by simp; omega), if_neg (by omega)]
      rfl

end StatementState

def firstOf {α : Type} : List (Except Error α) → Except Error (Option α)
  | [] => .ok none
  | item :: _ => item.map some

/-- An open statement that has these items to give and has been asked `n` times. -/
structure Database.Offers (s : Statement) (items : List (Except Error Row)) (n : Nat)
    (db : Database) : Prop where
  isOpen : (db.statement s).closed = false
  items : (db.statement s).offers = items
  asked : db.asked s = n

variable {s : Statement} {items : List (Except Error Row)} {m n : Nat} {db : Database}

theorem Statement.nextRow_offers (h : db.Offers s items n) :
    ∃ db', s.nextRow.outcome db = (firstOf items, db') ∧ db'.asked s = n + 1 ∧
      ∀ row, items.head? = some (.ok row) → db'.Offers s items.tail (n + 1) := by
  obtain ⟨hopen, rfl, hasked⟩ := h
  rw [nextRow, outcome_of, closedError, hopen, if_neg (by simp), perform_none]
  cases hfilter : (db.statement s).readFailure.filter (·.1 = (db.statement s).rowsRead) with
  | some failure =>
    rw [StatementState.offers_of_failing hfilter]
    dsimp only
    rw [hfilter]
    exact ⟨_, rfl, by simp [hasked], by simp⟩
  | none =>
    cases hrows : (db.statement s).rows with
    | nil =>
      rw [StatementState.offers_of_end hfilter hrows]
      dsimp only
      rw [hfilter, hrows]
      exact ⟨_, rfl, by simp [hasked], by simp⟩
    | cons row rest =>
      rw [StatementState.offers_of_row hfilter hrows]
      dsimp only
      rw [hfilter, hrows]
      have hself := statement_change_self (index_lt_of_open hopen)
        fun t => { t with rows := rest, rowsRead := (db.statement s).rowsRead + 1 }
      refine ⟨_, rfl, by simp [hasked], fun _ _ => ⟨?_, ?_, by simp [hasked]⟩⟩
      · exact (congrArg StatementState.closed hself).trans hopen
      · exact congrArg StatementState.offers hself

namespace Reading

variable {read : Row → Except Error Value}

inductive Skipped (s : Statement) (items : List (Except Error Row)) (m n : Nat) :
    Except Error Bool → Database → Prop where
  | failed {e : Error} {more : List Error} {db : Database}
    (failing : failures (items.take n) = e :: more) : Skipped s items m n (.error e) db
  | short {db : Database} (fine : failures (items.take n) = []) (short : items.length < n) :
    Skipped s items m n (.ok false) db
  | passed {db : Database} (fine : failures (items.take n) = []) (enough : n ≤ items.length)
    (offers : db.Offers s (items.drop n) (m + n)) : Skipped s items m n (.ok true) db

theorem skip_offers (n : Nat) (h : db.Offers s items m) :
    ∃ r db', (skip s n).outcome db = (r, db') ∧ db'.asked s ≤ m + n ∧ Skipped s items m n r db' := by
  induction n generalizing items m db with
  | zero => exact ⟨_, _, rfl, Nat.le_of_eq h.asked, .passed rfl (Nat.zero_le _) h⟩
  | succ n ih =>
    obtain ⟨db₁, hnext, hasked, hbehind⟩ := Statement.nextRow_offers h
    cases items with
    | nil => exact ⟨.ok false, db₁, outcome_bind_of_ok hnext, by omega, .short rfl (Nat.succ_pos n)⟩
    | cons item rest =>
      cases item with
      | error e => exact ⟨.error e, db₁, outcome_bind_of_error hnext, by omega, .failed rfl⟩
      | ok row =>
        obtain ⟨r, db₂, hskip, hasked₂, hskipped⟩ := ih (hbehind row rfl)
        refine ⟨r, db₂, (outcome_bind_of_ok hnext).trans hskip, by omega, ?_⟩
        cases hskipped with
        | failed failing => exact .failed failing
        | short fine short => exact .short fine (Nat.succ_lt_succ short)
        | passed fine enough offers =>
          refine .passed fine (Nat.succ_le_succ enough) ?_
          rw [show m + (n + 1) = m + 1 + n by omega]
          exact offers

/-- The number of steps is bounded by the rows that are left, which takes nothing away. -/
theorem take_steps (n : Nat) (h : db.Offers s items m) :
    items.take (min n ((db.statement s).rows.length + 1)) = items.take n := by
  have hlength := (db.statement s).offers_length_le
  rw [h.items] at hlength
  rw [← List.take_take, List.take_of_length_le hlength]

/-- Without a failure there are only the rows, so the bound was not what ended the passing over. -/
theorem offset_le {offset : Nat} (h : db.Offers s items m) (fine : failures (items.take offset) = [])
    (enough : min offset ((db.statement s).rows.length + 1) ≤ items.length) :
    offset ≤ (db.statement s).rows.length + 1 := by
  apply Nat.le_of_not_lt
  intro hlt
  rw [Nat.min_eq_right (Nat.le_of_lt hlt)] at enough
  have hlength := (db.statement s).offers_length_le
  rw [h.items] at hlength
  rw [List.take_of_length_le (by omega), ← h.items] at fine
  have := StatementState.length_le_of_no_failures fine
  rw [h.items] at this
  omega

theorem skipOffset_offers (bounds : RowBounds) (h : db.Offers s items m) :
    ∃ r db', (skipOffset s bounds).outcome db = (r, db') ∧ db'.asked s ≤ m + bounds.offset ∧
      Skipped s items m bounds.offset r db' := by
  obtain ⟨r, db', hskip, hasked, hskipped⟩ :=
    skip_offers (min bounds.offset ((db.statement s).rows.length + 1)) h
  refine ⟨r, db', (outcome_bind_of_ok (steps_outcome s _ db)).trans hskip, by omega, ?_⟩
  cases hskipped with
  | failed failing => exact .failed ((take_steps _ h) ▸ failing)
  | short fine short => exact .short ((take_steps _ h) ▸ fine) (by omega)
  | passed fine enough offers =>
    rw [take_steps _ h] at fine
    have hle : bounds.offset ≤ (db.statement s).rows.length + 1 := offset_le h fine enough
    rw [Nat.min_eq_left hle] at enough offers
    exact .passed fine enough offers

theorem taking_offers (read : Row → Except Error Value) (h : db.Offers s items m) :
    ∃ db', (taking s read).outcome db = (firstOf (items.map (· >>= read)), db') ∧
      db'.asked s = m + 1 ∧
      ∀ value rest, items.map (· >>= read) = .ok value :: rest → db'.Offers s items.tail (m + 1) := by
  obtain ⟨db₁, hnext, hasked, hbehind⟩ := Statement.nextRow_offers h
  rcases items with _ | ⟨e | row, rest⟩
  · exact ⟨db₁, outcome_bind_of_ok hnext, hasked, nofun⟩
  · exact ⟨db₁, outcome_bind_of_error hnext, hasked, nofun⟩
  · exact ⟨db₁, (outcome_bind_of_ok hnext).trans (outcome_bind_pure _ _ _), hasked,
      fun _ _ _ => hbehind row rfl⟩

theorem collect_offers (read : Row → Except Error Value) (n : Nat) (h : db.Offers s items m) :
    ∃ db', (collect s read n).outcome db =
        ((Collected.upToFailure ((items.take n).map (· >>= read))).answer, db') ∧
      db'.asked s ≤ m + n := by
  induction n generalizing items m db with
  | zero => exact ⟨db, rfl, Nat.le_of_eq h.asked⟩
  | succ n ih =>
    obtain ⟨db₁, htake, hasked, hbehind⟩ := taking_offers read h
    rw [List.map_take]
    rcases hitems : items.map (· >>= read) with _ | ⟨e | value, rest⟩
    · rw [hitems] at htake
      refine ⟨db₁, ?_, by omega⟩
      rw [collect_succ, outcome_bind_of_ok htake]
      rfl
    · rw [hitems] at htake
      refine ⟨db₁, ?_, by omega⟩
      rw [collect_succ, outcome_bind_of_error htake]
      rfl
    · rw [hitems] at htake
      obtain ⟨db₂, hcollect, hasked₂⟩ := ih (hbehind value rest hitems)
      refine ⟨db₂, ?_, by omega⟩
      rw [collect_of_value htake, hcollect, List.map_take, List.map_tail, hitems]
      exact Prod.ext (Collected.answer_cons value _).symm rfl

theorem deliver_succ (read : Row → Except Error Value) (h : RowHandler) (context : ResultContext)
    (n : Nat) (u : Scope) :
    (deliver s read h context (n + 1)).outcome u =
      match (taking s read).outcome u.database with
      | (.error e, db) => (.error e, { u with database := db })
      | (.ok none, db) => (.ok (), { u with database := db })
      | (.ok (some value), db) =>
        let x := h.handle u.handled (context.next value)
        (if x.left.stopped then pure () else deliver s read h x.left n).outcome
          { u with database := db, handled := u.handled ++ [x] } := by
  rw [deliver, SessionM.outcome_lift_bind, taking, outcome_bind]
  rcases s.nextRow.outcome u.database with ⟨e | _ | row, db⟩
  · rfl
  · rfl
  · dsimp only
    cases read row <;> rfl

theorem next_of_going {context : ResultContext} (h : context.stopped = false) (value : Value) :
    context.next value = ⟨value, context.count + 1, false⟩ := by
  rw [ResultContext.next, h]

/-- The calls of a callback for these values. The statement had been asked `m` times and may be asked
`n` times more. -/
structure Delivery (s : Statement) (h : RowHandler) (past : List Handling) (count : Nat)
    (values : List Value) (m n : Nat) (calls : List Handling) (db : Database) : Prop where
  handed : calls = h.handlings past count values
  asked : db.asked s ≤ m + n
  stopped : calls.any (·.left.stopped) = true → db.asked s = m + calls.length

namespace Delivery

variable {h : RowHandler} {past : List Handling} {count : Nat} {value : Value}
  {values : List Value} {calls : List Handling}

theorem nothing (hasked : db.asked s ≤ m + n) : Delivery s h past count [] m n [] db :=
  ⟨rfl, hasked, by simp⟩

theorem stop (hstop : (h.handle past ⟨value, count + 1, false⟩).left.stopped = true)
    (hasked : db.asked s = m + 1) :
    Delivery s h past count (value :: values) m (n + 1)
      [h.handle past ⟨value, count + 1, false⟩] db :=
  ⟨(RowHandler.handlings_of_stop hstop).symm, by omega, fun _ => hasked⟩

theorem more (hmore : (h.handle past ⟨value, count + 1, false⟩).left.stopped = false)
    (hrest : Delivery s h (past ++ [h.handle past ⟨value, count + 1, false⟩])
      (h.handle past ⟨value, count + 1, false⟩).left.count values (m + 1) n calls db) :
    Delivery s h past count (value :: values) m (n + 1)
      (h.handle past ⟨value, count + 1, false⟩ :: calls) db := by
  obtain ⟨hcalls, hasked, hstopped⟩ := hrest
  rw [RowHandler.left_handle_count] at hcalls
  refine ⟨?_, by omega, ?_⟩
  · rw [RowHandler.handlings_of_more hmore, ← hcalls]
  · rw [List.any_cons, hmore, Bool.false_or, List.length_cons]
    intro hany
    have := hstopped hany
    omega

end Delivery

theorem deliver_offers (read : Row → Except Error Value) (h : RowHandler) (context : ResultContext)
    (hgoing : context.stopped = false) (n : Nat) {u : Scope} (ho : u.database.Offers s items m) :
    ∃ calls db',
      (deliver s read h context n).outcome u =
        ((Collected.upToFailure ((items.take n).map (· >>= read))).ending calls,
          { u with database := db', handled := u.handled ++ calls }) ∧
      Delivery s h u.handled context.count
        (Collected.upToFailure ((items.take n).map (· >>= read))).values m n calls db' := by
  induction n generalizing items m context u with
  | zero =>
    refine ⟨[], u.database, ?_, .nothing (Nat.le_of_eq ho.asked)⟩
    rw [List.append_nil]
    rfl
  | succ n ih =>
    obtain ⟨db₁, htake, hasked, hbehind⟩ := taking_offers read ho
    rw [List.map_take, deliver_succ, htake]
    rcases hitems : items.map (· >>= read) with _ | ⟨e | value, rest⟩
    · refine ⟨[], db₁, ?_, .nothing (by omega)⟩
      rw [List.append_nil]
      rfl
    · refine ⟨[], db₁, ?_, .nothing (by omega)⟩
      rw [List.append_nil]
      rfl
    · dsimp only [firstOf, Except.map]
      rw [next_of_going hgoing]
      by_cases hstop : (h.handle u.handled ⟨value, context.count + 1, false⟩).left.stopped = true
      · refine ⟨_, db₁, ?_, .stop hstop hasked⟩
        rw [if_pos hstop, Collected.ending, if_pos (by simpa using hstop)]
        rfl
      · have hmore : (h.handle u.handled ⟨value, context.count + 1, false⟩).left.stopped = false := by
          simpa using hstop
        obtain ⟨calls, db₂, hdeliver, hrest⟩ :=
          ih _ hmore (u := { u with
            database := db₁
            handled := u.handled ++ [h.handle u.handled ⟨value, context.count + 1, false⟩] })
            (hbehind value rest hitems)
        rw [List.map_take, List.map_tail, hitems] at hdeliver hrest
        refine ⟨_, db₂, ?_, .more hmore hrest⟩
        rw [if_neg hstop, hdeliver, List.append_assoc]
        exact Prod.ext (Collected.ending_cons hmore).symm rfl

theorem found_of_failed {e : Error} {more : List Error} {bounds : RowBounds}
    (h : failures ((db.statement s).offers.take bounds.offset) = e :: more) :
    found s read bounds db = ⟨[], some e⟩ := by
  rw [found, inWindow, h]
  rfl

theorem found_of_short {bounds : RowBounds}
    (fine : failures ((db.statement s).offers.take bounds.offset) = [])
    (short : (db.statement s).offers.length < bounds.offset) :
    found s read bounds db = ⟨[], none⟩ := by
  rw [found, inWindow, fine, List.drop_of_length_le (Nat.le_of_lt short), List.take_nil]
  rfl

theorem found_of_passed {bounds : RowBounds}
    (fine : failures ((db.statement s).offers.take bounds.offset) = []) :
    found s read bounds db = .upToFailure
      ((((db.statement s).offers.drop bounds.offset).take bounds.limit).map (· >>= read)) := by
  rw [found, inWindow, fine]
  rfl

theorem window_of_error {bounds : RowBounds} {u : Scope} {db₁ : Database} {e : Error}
    (h : (skipOffset s bounds).outcome u.database = (.error e, db₁)) (handler : Option RowHandler) :
    (window s read bounds handler).outcome u = (.error e, { u with database := db₁ }) := by
  rw [window, SessionM.outcome_lift_bind, h]

theorem window_of_short {bounds : RowBounds} {u : Scope} {db₁ : Database}
    (h : (skipOffset s bounds).outcome u.database = (.ok false, db₁)) (handler : Option RowHandler) :
    (window s read bounds handler).outcome u = (.ok [], { u with database := db₁ }) := by
  rw [window, SessionM.outcome_lift_bind, h]
  rfl

/-- What follows the passing over. The window's own end is reached before the bound on the steps. -/
theorem window_of_enough {bounds : RowBounds} {u : Scope} {db₁ : Database}
    (h : (skipOffset s bounds).outcome u.database = (.ok true, db₁)) (handler : Option RowHandler) :
    (window s read bounds handler).outcome u =
      (match handler with
        | none => liftM (collect s read (min bounds.limit ((db₁.statement s).rows.length + 1)))
        | some h => do
          deliver s read h .initial (min bounds.limit ((db₁.statement s).rows.length + 1))
          return []).outcome { u with database := db₁ } := by
  rw [window, SessionM.outcome_lift_bind, h]
  rfl

/-- Reading the window of an open statement answers the values found there, or the first failure met
in it or before it. A callback is handed the same values and nothing is answered then: it gets them
in order, numbered from 1, up to the one at which it stops, and if it stops there is no failure. The
statement is asked for no rows beyond the window, and for none after the one at which the callback
stops. -/
theorem window_answers {u : Scope} (hopen : (u.database.statement s).closed = false)
    (read : Row → Except Error Value) (bounds : RowBounds) :
    (∃ db, (window s read bounds none).outcome u =
        ((found s read bounds u.database).answer, { u with database := db }) ∧
      db.asked s ≤ u.database.asked s + bounds.offset + bounds.limit) ∧
    ∀ h : RowHandler, ∃ calls db,
      (window s read bounds (some h)).outcome u =
        (((found s read bounds u.database).ending calls).map fun _ => [],
          { u with database := db, handled := u.handled ++ calls }) ∧
      h.Handed u.handled 0 (found s read bounds u.database).values calls ∧
      db.asked s ≤ u.database.asked s + bounds.offset + bounds.limit ∧
      (calls.any (·.left.stopped) = true →
        db.asked s = u.database.asked s + bounds.offset + calls.length) := by
  obtain ⟨r, db₁, hskip, hasked, hskipped⟩ := skipOffset_offers bounds ⟨hopen, rfl, rfl⟩
  cases hskipped with
  | failed failing =>
    rw [found_of_failed failing]
    refine ⟨⟨db₁, window_of_error hskip none, by omega⟩, fun h =>
      ⟨[], db₁, ?_, h.handed_handlings _ _ _, by omega, nofun⟩⟩
    rw [window_of_error hskip, List.append_nil]
    rfl
  | short fine short =>
    rw [found_of_short fine short]
    refine ⟨⟨db₁, window_of_short hskip none, by omega⟩, fun h =>
      ⟨[], db₁, ?_, h.handed_handlings _ _ _, by omega, nofun⟩⟩
    rw [window_of_short hskip, List.append_nil]
    rfl
  | passed fine enough offers =>
    rw [found_of_passed fine, ← take_steps bounds.limit offers]
    refine ⟨?_, fun h => ?_⟩
    · obtain ⟨db₂, hcollect, hasked₂⟩ := collect_offers read
        (min bounds.limit ((db₁.statement s).rows.length + 1)) offers
      refine ⟨db₂, ?_, by omega⟩
      rw [window_of_enough hskip, SessionM.outcome_lift, hcollect]
    · obtain ⟨calls, db₂, hdeliver, hcalls, hasked₂, hstopped⟩ :=
        deliver_offers read h .initial rfl (u := { u with database := db₁ })
          (min bounds.limit ((db₁.statement s).rows.length + 1)) offers
      refine ⟨calls, db₂, ?_, ?_, by omega, hstopped⟩
      · rw [window_of_enough hskip]
        refine (outcome_bind_pure _ _ _).trans ?_
        rw [hdeliver]
      · rw [hcalls]
        exact h.handed_handlings _ _ _

end Reading

def RowHandler.stopsAtSecond : RowHandler := ⟨fun past _ => ⟨false, past.length = 1⟩⟩

/-- Without a callback the third row's failure is met; a callback that stops before sees none of it. -/
theorem stopped_before_failure :
    (answeredScope.database.statement ⟨0⟩).closed = false ∧
      ((Reading.window ⟨0⟩ (fun row => .ok (row.values.headD .null)) ⟨0, 5⟩ none).outcome
        answeredScope).1 = .error (.statement "gone") ∧
      ∃ calls db, (Reading.window ⟨0⟩ (fun row => .ok (row.values.headD .null)) ⟨0, 5⟩
          (some .stopsAtSecond)).outcome answeredScope =
        (.ok [], { answeredScope with database := db, handled := calls }) ∧
        calls.map (·.given) = [⟨.int 1, 1, false⟩, ⟨.int 2, 2, false⟩] ∧ db.asked ⟨0⟩ = 2 := by
  have hopen : (answeredScope.database.statement ⟨0⟩).closed = false := rfl
  obtain ⟨⟨db₀, hnone, -⟩, hsome⟩ :=
    Reading.window_answers hopen (fun row => .ok (row.values.headD .null)) ⟨0, 5⟩
  obtain ⟨calls, db, hwindow, -, -, hasked⟩ := hsome .stopsAtSecond
  have hcalls : calls = [⟨⟨.int 1, 1, false⟩, ⟨.int 1, 1, false⟩⟩,
      ⟨⟨.int 2, 2, false⟩, ⟨.int 2, 2, true⟩⟩] :=
    (congrArg (·.2.handled) hwindow).symm
  subst hcalls
  exact ⟨hopen, congrArg Prod.fst hnone, _, db, hwindow, rfl, hasked rfl⟩

end SqlMapper
