import SqlMapper.Cursor
import SqlMapper.Proofs.Reading.Collecting

namespace SqlMapper

open Fallible Database

namespace Cursor

/-- What comes of `k` steps: their answers, and the cursor after them. -/
def pulls (c : Cursor) : Nat → DriverM (List (Option (Except Error Value)) × Cursor)
  | 0 => return ([], c)
  | k + 1 => do
    let (items, c') ← c.pulls k
    let (item, c'') ← c'.next
    return (items ++ [item], c'')

def rest (c : Cursor) (s : Statement) : DriverM Collected := do
  match ← (c.skipOffset s).attempt with
  | .ok true => Reading.collecting s c.read (← Reading.steps s (c.bounds.limit - c.index))
  | .ok false => return ⟨[], none⟩
  | .error e => return ⟨[], some e⟩

def ahead (c : Cursor) : Nat := if c.skipped then 0 else c.bounds.offset

structure Hands (c : Cursor) (s : Statement) (left : Collected) (db : Database) : Prop where
  state : c.state = .isOpen
  statement : c.statement = some s
  isOpen : (db.statement s).closed = false
  left : ∃ db', (c.rest s).outcome db = (.ok left, db')

/-- The cursor has come to an end and let go of its statement, which is closed unless that was
refused. -/
structure Done (c : Cursor) (s : Statement) (failure : Option Error) (db : Database) : Prop where
  state : c.state = if failure.isNone then .consumed else .closed
  statement : c.statement = none
  closed : (∀ time, db.faults.reason time .closeStatement = none) →
    (db.statement s).closed = true

def advanced (c : Cursor) : Cursor := { c with skipped := true, index := c.index + 1 }

inductive Fetches (c : Cursor) (s : Statement) (db : Database) :
    Collected → Except Error (Option Value) → Prop where
  | value {v : Value} {left : Collected} (hands : c.advanced.Hands s left db) :
    Fetches c s db (left.cons v) (.ok (some v))
  | done : Fetches c s db ⟨[], none⟩ (.ok none)
  | failed {e : Error} : Fetches c s db ⟨[], some e⟩ (.error e)

variable {c : Cursor} {s : Statement} {left : Collected} {failure : Option Error} {db db' : Database}

theorem skipOffset_asks (h : (db.statement s).closed = false) :
    ∃ r db', (c.skipOffset s).outcome db = (r, db') ∧ Asks s c.ahead db db' := by
  unfold skipOffset ahead
  split
  · exact ⟨_, _, rfl, .refl s db⟩
  · exact Reading.skipOffset_asks c.bounds h

theorem fetch_of_enough (h : (c.skipOffset s).outcome db = (.ok true, db')) :
    (c.fetch s).outcome db =
      (if c.index < c.bounds.limit then Reading.taking s c.read else pure none).outcome db' := by
  rw [fetch, outcome_bind_of_ok h, if_pos rfl]
  rfl

theorem rest_of_enough (h : (c.skipOffset s).outcome db = (.ok true, db')) :
    (c.rest s).outcome db = (Reading.collecting s c.read
      (min (c.bounds.limit - c.index) ((db'.statement s).rows.length + 1))).outcome db' := by
  rw [rest, outcome_bind, outcome_attempt, h]
  rfl

theorem fetch_hands (h : c.Hands s left db) :
    ∃ r db', (c.fetch s).outcome db = (r, db') ∧ Asks s (c.ahead + 1) db db' ∧
      c.Fetches s db' left r := by
  obtain ⟨d, hrest⟩ := h.left
  obtain ⟨enough, db₁, hskip, hasks⟩ := skipOffset_asks (c := c) h.isOpen
  rcases enough with e | _ | _
  · rw [rest, outcome_bind, outcome_attempt, hskip] at hrest
    cases hrest
    exact ⟨_, _, outcome_bind_of_error hskip, hasks.mono (Nat.le_succ _), .failed⟩
  · rw [rest, outcome_bind, outcome_attempt, hskip] at hrest
    cases hrest
    exact ⟨_, _, outcome_bind_of_ok hskip, hasks.mono (Nat.le_succ _), .done⟩
  · rw [rest_of_enough hskip] at hrest
    by_cases hlt : c.index < c.bounds.limit
    · obtain ⟨r, db₂, htake, hasks', hrows⟩ :=
        Reading.taking_asks c.read (hasks.closed.trans h.isOpen)
      refine ⟨r, db₂, ?_, hasks.trans hasks', ?_⟩
      · rw [fetch_of_enough hskip, if_pos hlt, htake]
      obtain ⟨n, hn⟩ : ∃ n, min (c.bounds.limit - c.index) ((db₁.statement s).rows.length + 1) = n + 1 :=
        ⟨_, (Nat.succ_pred (by omega)).symm⟩
      rw [hn] at hrest
      rcases r with e | _ | v
      · rw [Reading.collecting_of_error htake] at hrest
        cases hrest
        exact .failed
      · rw [Reading.collecting_of_end htake] at hrest
        cases hrest
        exact .done
      · obtain ⟨left', d', hleft, -⟩ := Reading.exists_collecting s c.read n db₂
        rw [Reading.collecting_of_value htake, hleft] at hrest
        cases hrest
        refine .value ⟨h.state, h.statement, hasks'.closed.trans (hasks.closed.trans h.isOpen), d', ?_⟩
        have hn' : n = min (c.bounds.limit - (c.index + 1)) ((db₂.statement s).rows.length + 1) := by
          have := hrows v rfl
          omega
        rw [← hleft, hn']
        exact rest_of_enough (c := c.advanced) rfl
    · have hnone : min (c.bounds.limit - c.index) ((db₁.statement s).rows.length + 1) = 0 := by omega
      rw [hnone] at hrest
      cases hrest
      exact ⟨_, _, by rw [fetch_of_enough hskip, if_neg hlt]; rfl, hasks.mono (Nat.le_succ _), .done⟩

theorem release_outcome (hs : c.statement = some s) (hopen : (db.statement s).closed = false) :
    ∃ db', c.release.outcome db = (.ok { c with statement := none }, db') ∧
      db'.asked s = db.asked s ∧ db'.faults = db.faults ∧
      ((∀ time, db'.faults.reason time .closeStatement = none) → (db'.statement s).closed = true) := by
  have hclose : s.closeQuietly.outcome db = (.ok (), (s.closeQuietly.outcome db).2) :=
    Prod.ext (s.closeQuietly_ok db) rfl
  have hfaults := s.closeQuietly_faults db
  refine ⟨_, ?_, s.closeQuietly_asked db, hfaults, fun hnever => ?_⟩
  · unfold release
    split
    · next t ht =>
      cases ht.symm.trans hs
      exact outcome_bind_of_ok hclose
    · next hnone => exact absurd hs (hnone s)
  · rw [hfaults] at hnever
    exact Statement.closeQuietly_closed hopen (by rw [Database.fault, hnever]; rfl)

theorem next_of_open (hstate : c.state = .isOpen) (hs : c.statement = some s) :
    c.next = (do
      match ← (c.fetch s).attempt with
      | .ok (some value) => return (some (.ok value), c.advanced)
      | .ok none => return (none, { ← c.release with state := .consumed })
      | .error e => return (some (.error e), ← c.close)) := by
  unfold next
  split
  · next t _ ht =>
    cases ht.symm.trans hs
    rfl
  · next hnone => exact absurd (hnone.symm.trans hs) nofun
  · next hsome _ => exact (hsome s hstate hs).elim

/-- A step of an open cursor hands out the first of what is left. There are rows after it, or the
cursor is done. -/
theorem next_hands (h : c.Hands s left db) :
    ∃ c' db', c.next.outcome db = (.ok (left.items.head?, c'), db') ∧
      db'.asked s ≤ db.asked s + (c.ahead + 1) ∧ db'.faults = db.faults ∧
      ((∃ v left', left = left'.cons v ∧ c' = c.advanced ∧ c'.Hands s left' db') ∨
        left.values = [] ∧ c'.index = c.index ∧ c'.Done s left.failure db') := by
  obtain ⟨r, db₁, hfetch, hasks, hfetched⟩ := fetch_hands h
  have hopen := hasks.closed.trans h.isOpen
  obtain ⟨db₂, hrelease, hasked, hfaults, hclosed⟩ := release_outcome h.statement hopen
  rw [next_of_open h.state h.statement, outcome_bind_of_ok (outcome_attempt _ db), hfetch]
  cases hfetched with
  | value hands =>
    exact ⟨_, _, rfl, hasks.asked, hasks.faults, .inl ⟨_, _, rfl, rfl, hands⟩⟩
  | done =>
    refine ⟨_, db₂, (outcome_bind_of_ok hrelease).trans rfl, by rw [hasked]; exact hasks.asked,
      hfaults.trans hasks.faults, .inr ⟨rfl, rfl, rfl, rfl, hclosed⟩⟩
  | failed =>
    have hclose : c.close.outcome db₁ =
        (.ok { c with statement := none, state := .closed }, db₂) := by
      rw [close, outcome_bind_of_ok hrelease]
      dsimp only
      rw [if_pos h.state]
      rfl
    refine ⟨_, db₂, (outcome_bind_of_ok hclose).trans rfl, by rw [hasked]; exact hasks.asked,
      hfaults.trans hasks.faults, .inr ⟨rfl, rfl, rfl, rfl, hclosed⟩⟩

theorem next_done (h : c.Done s failure db) : c.next.outcome db = (.ok (none, c), db) := by
  have hstate : c.state ≠ .isOpen := by
    rw [h.state]
    split <;> nofun
  unfold next
  split
  · next hopen _ => exact absurd hopen hstate
  · next hopen _ => exact absurd hopen hstate
  · rfl

/-- Where a cursor is after `k` steps that has `found` to hand out in all. Its statement has been asked
for at most `most + k` rows; those that are still to be passed over count as asked for. -/
inductive Stage (found : Collected) (s : Statement) (most k : Nat) (c : Cursor) (db : Database) :
    Prop where
  | handing (within : k ≤ found.values.length) (index : c.index = k)
    (hands : c.Hands s ⟨found.values.drop k, found.failure⟩ db)
    (asked : db.asked s + c.ahead ≤ most + k) : Stage found s most k c db
  | done (beyond : found.values.length < k) (index : c.index = found.values.length)
    (done : c.Done s found.failure db) (asked : db.asked s ≤ most + k) : Stage found s most k c db

theorem Stage.next {found : Collected} {most k : Nat} (h : Stage found s most k c db) :
    ∃ c' db', c.next.outcome db = (.ok (found.items[k]?, c'), db') ∧ db'.faults = db.faults ∧
      Stage found s most (k + 1) c' db' := by
  cases h with
  | handing within index hands asked =>
    obtain ⟨c', db', hnext, hasked, hfaults, hcase⟩ := next_hands hands
    rw [Collected.items_drop within, List.head?_drop] at hnext
    refine ⟨c', db', hnext, hfaults, ?_⟩
    obtain ⟨v, left, hleft, rfl, hands'⟩ | ⟨hnil, hindex, hdone⟩ := hcase
    · obtain ⟨hvalues, hfailure⟩ := Collected.mk.inj hleft
      have hlt : k < found.values.length := by
        have := congrArg List.length hvalues
        simp at this
        omega
      have hrest : left.values = found.values.drop (k + 1) := by
        rw [← List.tail_drop, hvalues]
        rfl
      refine .handing hlt (congrArg (· + 1) index) ?_ ?_
      · rw [hfailure, ← hrest]
        exact hands'
      · change db'.asked s + 0 ≤ _
        omega
    · have hlength : found.values.length ≤ k := List.drop_eq_nil_iff.mp hnil
      exact .done (by omega) (hindex.trans (by omega)) hdone (by omega)
  | done beyond index done asked =>
    have hnone : found.items[k]? = none := by
      have := found.items_length_le
      exact List.getElem?_eq_none (by omega)
    rw [hnone]
    exact ⟨c, db, next_done done, rfl, .done (by omega) index done (by omega)⟩

theorem Stage.pulls {found : Collected} {most : Nat} (h : Stage found s most 0 c db) (k : Nat) :
    ∃ c' db', (c.pulls k).outcome db =
        (.ok ((List.range k).map (found.items[·]?), c'), db') ∧ db'.faults = db.faults ∧
      Stage found s most k c' db' := by
  induction k with
  | zero => exact ⟨c, db, rfl, rfl, h⟩
  | succ k ih =>
    obtain ⟨c₁, db₁, hpulls, hfaults, hstage⟩ := ih
    obtain ⟨c₂, db₂, hnext, hfaults', hstage'⟩ := hstage.next
    refine ⟨c₂, db₂, ?_, hfaults'.trans hfaults, hstage'⟩
    rw [Cursor.pulls, outcome_bind_of_ok hpulls, outcome_bind_of_ok hnext, List.range_succ, List.map_append]
    rfl

/-- Reading an open statement's rows all at once answers the values it collects, or the error that
ends the reading. A cursor on the statement hands out just these values, one with each step, then
the error if there is one, and nothing from then on. Up to then it is open and so is its statement.
Afterwards it has let go of its statement, which is closed unless the database refuses to, and it
counts as consumed if there was no error. After `k` steps it has counted the values handed out, and
has asked for `k` rows at most besides those to be passed over. -/
theorem pulls_collected {u : Scope} (hopen : (u.database.statement s).closed = false)
    (read : Row → Except Error Value) (bounds : RowBounds) :
    ∃ found db, (Reading.collected s read bounds).outcome u.database = (.ok found, db) ∧
      (Reading.window s read bounds none).outcome u =
        (found.answer, { u with database := db }) ∧
      ∀ k, ∃ c db',
        ((ofStatement s read bounds).pulls k).outcome u.database =
          (.ok ((List.range k).map (found.items[·]?), c), db') ∧
        c.index = min k found.values.length ∧
        (c.state = .consumed ↔ found.values.length < k ∧ found.failure = none) ∧
        (k ≤ found.values.length →
          c.state = .isOpen ∧ c.statement = some s ∧ (db'.statement s).closed = false) ∧
        (found.values.length < k →
          c.state ≠ .isOpen ∧ c.statement = none ∧
          ((∀ time, u.database.faults.reason time .closeStatement = none) →
            (db'.statement s).closed = true)) ∧
        db'.asked s ≤ u.database.asked s + bounds.offset + k := by
  obtain ⟨found, db, hfound, hwindow⟩ := Reading.exists_collected s read bounds u
  refine ⟨found, db, hfound, hwindow, fun k => ?_⟩
  have hstart : Stage found s (u.database.asked s + bounds.offset) 0 (ofStatement s read bounds)
      u.database :=
    .handing (Nat.zero_le _) rfl ⟨rfl, rfl, hopen, db, hfound⟩ (Nat.le_refl _)
  obtain ⟨c, db', hpulls, hfaults, hstage⟩ := hstart.pulls k
  refine ⟨c, db', hpulls, ?_⟩
  cases hstage with
  | handing within index hands asked =>
    refine ⟨by omega, ?_, fun _ => ⟨hands.state, hands.statement, hands.isOpen⟩,
      fun hlt => absurd within (by omega), by omega⟩
    rw [hands.state]
    exact ⟨nofun, fun h => absurd within (by omega)⟩
  | done beyond index done asked =>
    refine ⟨by omega, ?_, fun hle => absurd beyond (by omega), fun _ => ⟨?_, done.statement, ?_⟩,
      asked⟩
    · rw [done.state]
      cases hf : found.failure <;> simp [beyond]
    · rw [done.state]
      split <;> nofun
    · rw [← hfaults]
      exact done.closed

end Cursor

/-- A statement has been executed that yields three rows, of which the last cannot be read. -/
def answeredScope : Scope where
  database :=
    { Database.ofScript .empty with
      statements := [(StatementState.created "SELECT n FROM t").answered
        { Response.ofRows ["n"] [[.int 1], [.int 2], [.int 3]] with
          readFailure := some (2, "gone") }] }
  session := .new .simple (.overSource false none) false
  parameter := .absent
  handled := []

/-- Behind the first row there is the second and then the failure. -/
theorem second_row_pulled :
    (answeredScope.database.statement ⟨0⟩).closed = false ∧
      ((Reading.window ⟨0⟩ (fun row => .ok (row.values.headD .null)) ⟨1, 5⟩ none).outcome
        answeredScope).1 = .error (.statement "gone") ∧
      ∃ c db, ((Cursor.ofStatement ⟨0⟩ (fun row => .ok (row.values.headD .null)) ⟨1, 5⟩).pulls
          3).outcome answeredScope.database =
        (.ok ([some (.ok (.int 2)), some (.error (.statement "gone")), none], c), db) ∧
        c.index = 1 ∧ (db.statement ⟨0⟩).closed = true := by
  have hopen : (answeredScope.database.statement ⟨0⟩).closed = false := rfl
  obtain ⟨found, db, hfound, hwindow, hpulls⟩ :=
    Cursor.pulls_collected hopen (fun row => .ok (row.values.headD .null)) ⟨1, 5⟩
  have hvalue : found = ⟨[.int 2], some (.statement "gone")⟩ :=
    (Except.ok.inj (congrArg Prod.fst hfound)).symm
  subst hvalue
  obtain ⟨c, db', hitems, hindex, -, -, hdone, -⟩ := hpulls 3
  exact ⟨hopen, congrArg Prod.fst hwindow, c, db', hitems, hindex, (hdone (by decide)).2.2 fun _ => rfl⟩

end SqlMapper
