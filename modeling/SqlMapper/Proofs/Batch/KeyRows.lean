import SqlMapper.Proofs.Session.Assigning

namespace SqlMapper

open Fallible

namespace Keys

/-- The positions of the entries that changed something, out of `n`. An entry without a count is
taken to have changed something. -/
def changed (counts : List Int) (n : Nat) : List Nat :=
  (List.range n).filter fun i => counts[i]? ≠ some 0

/-- The positions that get a row, with their rows: the first row goes to the first entry that
changed something, and so on for as long as there are both. -/
def pairs (rows : List Row) (counts : List Int) (n : Nat) : List (Nat × Row) :=
  (changed counts n).zip rows

/-- `p'` is `p` with the columns of the row at the properties, the first at the first. -/
structure Receives (properties : List String) (row : Row) (p p' : Parameter) : Prop where
  enough : properties.length ≤ row.values.length
  assigned : p.assignAll (properties.zip row.values) = .ok p'

/-- The row cannot be assigned: it has too few columns, or a column cannot be assigned to its
property. `q` is what has become of `p` by then. -/
inductive Refuses (command : String) (properties : List String) (row : Row) (p : Parameter) :
    Error → Parameter → Prop where
  | columns (h : row.values.length < properties.length) : Refuses command properties row p
    (.executor (.tooFewKeyColumns command properties.length row.values.length)) p
  | column {earlier later : List (String × Value)} {property : String} {value : Value} {e : Error}
    {q : Parameter} (enough : properties.length ≤ row.values.length)
    (split : properties.zip row.values = earlier ++ (property, value) :: later)
    (assigned : p.assignAll earlier = .ok q) (fails : q.assign property value = .error e) :
    Refuses command properties row p e q

/-- `ps'` is `ps` but for the parameter objects at the paired positions, which have the columns of
their rows. -/
structure Assigned (properties : List String) (paired : List (Nat × Row))
    (ps ps' : List Parameter) : Prop where
  length : ps'.length = ps.length
  received : ∀ i row, (i, row) ∈ paired →
    ∃ p p', ps[i]? = some p ∧ Receives properties row p p' ∧ ps'[i]? = some p'
  others : ∀ i, i ∉ paired.map Prod.fst → ps'[i]? = ps[i]?

/-- How assigning the paired rows ends: all of them have been assigned, or those before one that
cannot be. What comes after that one is as it was. -/
inductive Assigns (command : String) (properties : List String) (paired : List (Nat × Row))
    (ps : List Parameter) : Except Error Unit × List Parameter → Prop where
  | done {ps' : List Parameter} (assigned : Assigned properties paired ps ps') :
    Assigns command properties paired ps (.ok (), ps')
  | stuck {earlier later : List (Nat × Row)} {i : Nat} {row : Row} {e : Error} {p q : Parameter}
    {ps' : List Parameter} (split : paired = earlier ++ (i, row) :: later)
    (found : ps[i]? = some p) (refuses : Refuses command properties row p e q)
    (assigned : Assigned properties earlier (ps.set i q) ps') :
    Assigns command properties paired ps (.error e, ps')

def behind (paired : List (Nat × Row)) : List (Nat × Row) :=
  paired.map (Prod.map (· + 1) id)

section Pairs

variable {rows : List Row} {row : Row} {counts : List Int} {n : Nat}

theorem changed_succ (counts : List Int) (n : Nat) :
    changed counts (n + 1) =
      (if counts.head? = some 0 then [] else [0]) ++ (changed counts.tail n).map (· + 1) := by
  have htail : (List.range n).filter ((fun i => counts[i]? ≠ some 0) ∘ Nat.succ) =
      changed counts.tail n := by
    unfold changed
    apply List.filter_congr
    intro i hi
    simp
  unfold changed at *
  rw [List.range_succ_eq_map, List.filter_cons, List.filter_map, htail]
  by_cases hzero : counts.head? = some 0
  · simp [← List.head?_eq_getElem?, hzero]
  · simp [← List.head?_eq_getElem?, hzero]

theorem pairs_of_zero (hzero : counts.head? = some 0) :
    pairs rows counts (n + 1) = behind (pairs rows counts.tail n) := by
  rw [pairs, changed_succ, if_pos hzero, List.nil_append, List.zip_map_left]
  rfl

theorem pairs_of_nonzero (hzero : counts.head? ≠ some 0) :
    pairs (row :: rows) counts (n + 1) = (0, row) :: behind (pairs rows counts.tail n) := by
  rw [pairs, changed_succ, if_neg hzero, List.singleton_append, List.zip_cons_cons,
    List.zip_map_left]
  rfl

theorem pairs_nil (counts : List Int) (n : Nat) : pairs [] counts n = [] := List.zip_nil_right

theorem pairs_zero (rows : List Row) (counts : List Int) : pairs rows counts 0 = [] := rfl

theorem mem_behind {paired : List (Nat × Row)} {i : Nat} (h : (i, row) ∈ behind paired) :
    ∃ j, i = j + 1 ∧ (j, row) ∈ paired := by
  obtain ⟨⟨j, row'⟩, hj, he⟩ := List.mem_map.mp h
  cases he
  exact ⟨j, rfl, hj⟩

theorem notMem_behind {paired : List (Nat × Row)} {i : Nat}
    (h : i + 1 ∉ (behind paired).map Prod.fst) : i ∉ paired.map Prod.fst := by
  intro hi
  obtain ⟨⟨j, row⟩, hj, he⟩ := List.mem_map.mp hi
  cases he
  apply h
  exact List.mem_map_of_mem (List.mem_map_of_mem hj)

theorem behind_split (earlier later : List (Nat × Row)) (i : Nat) (row : Row) :
    behind (earlier ++ (i, row) :: later) = behind earlier ++ (i + 1, row) :: behind later :=
  List.map_append

end Pairs

section Assigned

variable {properties : List String} {paired : List (Nat × Row)} {ps ps' : List Parameter}
  {p p' : Parameter} {row : Row} {command : String} {r : Except Error Unit}

theorem Refuses.not_receives {e : Error} {q : Parameter}
    (h : Refuses command properties row p e q) : ¬ Receives properties row p p' := by
  rintro ⟨enough, hassigned⟩
  cases h with
  | columns hfew => omega
  | @column earlier later property value _ _ _ split assigned fails =>
    rw [split, Parameter.assignAll_append, assigned] at hassigned
    obtain ⟨q₁, hq₁, hassigned⟩ := ok_of_except_bind_ok hassigned
    cases hq₁
    obtain ⟨q', hq', -⟩ := ok_of_except_bind_ok hassigned
    cases hq'.symm.trans fails

theorem Assigned.none (ps : List Parameter) : Assigned properties [] ps ps :=
  ⟨rfl, fun _ _ h => absurd h List.not_mem_nil, fun _ _ => rfl⟩

theorem Assigned.skip (h : Assigned properties paired ps ps') (p : Parameter) :
    Assigned properties (behind paired) (p :: ps) (p :: ps') := by
  refine ⟨congrArg (· + 1) h.length, fun i row hi => ?_, fun i hi => ?_⟩
  · obtain ⟨j, rfl, hj⟩ := mem_behind hi
    exact h.received j row hj
  · cases i with
    | zero => rfl
    | succ i => exact h.others i (notMem_behind hi)

theorem Assigned.receive (h : Assigned properties paired ps ps')
    (hrow : Receives properties row p p') :
    Assigned properties ((0, row) :: behind paired) (p :: ps) (p' :: ps') := by
  refine ⟨congrArg (· + 1) h.length, fun i row' hi => ?_, fun i hi => ?_⟩
  · obtain he | hi := List.mem_cons.mp hi
    · cases he
      exact ⟨p, p', rfl, hrow, rfl⟩
    · obtain ⟨j, rfl, hj⟩ := mem_behind hi
      exact h.received j row' hj
  · rw [List.map_cons, List.mem_cons, not_or] at hi
    cases i with
    | zero => exact absurd rfl hi.1
    | succ i => exact h.others i (notMem_behind hi.2)

theorem Assigns.skip (h : Assigns command properties paired ps (r, ps')) (p : Parameter) :
    Assigns command properties (behind paired) (p :: ps) (r, p :: ps') := by
  cases h with
  | done assigned => exact .done (assigned.skip p)
  | @stuck earlier later i row e q q' _ split found refuses assigned =>
    exact .stuck (split ▸ behind_split earlier later i row) found refuses (assigned.skip p)

theorem Assigns.receive (h : Assigns command properties paired ps (r, ps'))
    (hrow : Receives properties row p p') :
    Assigns command properties ((0, row) :: behind paired) (p :: ps) (r, p' :: ps') := by
  cases h with
  | done assigned => exact .done (assigned.receive hrow)
  | @stuck earlier later i row' e q q' _ split found refuses assigned =>
    have hsplit : (0, row) :: behind paired =
        ((0, row) :: behind earlier) ++ (i + 1, row') :: behind later := by
      rw [split, behind_split, List.cons_append]
    exact .stuck hsplit found refuses (assigned.receive hrow)

theorem Assigns.ok_iff (h : Assigns command properties paired ps (r, ps')) :
    r = .ok () ↔ ∀ i row, (i, row) ∈ paired →
      ∃ p p', ps[i]? = some p ∧ Receives properties row p p' := by
  cases h with
  | done assigned =>
    refine ⟨fun _ i row hi => ?_, fun _ => rfl⟩
    obtain ⟨p, p', hp, hrow, -⟩ := assigned.received i row hi
    exact ⟨p, p', hp, hrow⟩
  | @stuck earlier later i row e p q _ split found refuses =>
    refine ⟨nofun, fun hall => ?_⟩
    obtain ⟨p₀, p', hp, hrow⟩ := hall i row (by simp [split])
    cases found.symm.trans hp
    exact absurd hrow refuses.not_receives

end Assigned

end Keys

theorem Parameter.forM_write_error {writes : List (String × Value)} {p q : Parameter} {e : Error}
    (h : (writes.forM fun w => write w.1 w.2).outcome p = (.error e, q)) :
    ∃ earlier property value later, writes = earlier ++ (property, value) :: later ∧
      p.assignAll earlier = .ok q ∧ q.assign property value = .error e := by
  induction writes generalizing p with
  | nil => cases h
  | cons w writes ih =>
    cases hw : p.assign w.1 w.2 with
    | error e' =>
      have hstop := (outcome_bind_of_error (write_of_error hw)).symm.trans h
      cases hstop
      exact ⟨[], w.1, w.2, writes, rfl, rfl, hw⟩
    | ok p' =>
      have hrest := (outcome_bind_of_ok (write_of_ok hw)).symm.trans h
      obtain ⟨earlier, property, value, later, rfl, hearlier, hfails⟩ := ih hrest
      exact ⟨w :: earlier, property, value, later, rfl, assignAll_cons hw hearlier, hfails⟩

namespace Keys

variable {command : String} {properties : List String} {row : Row} {p q : Parameter}

theorem receives_of_assignRow (h : (assignRow command properties row).outcome p = (.ok (), q)) :
    Receives properties row p q := by
  unfold assignRow at h
  split at h
  · cases h
  · next henough => exact ⟨Nat.le_of_not_lt henough, Parameter.assignAll_of_forM_write h⟩

theorem refuses_of_assignRow {e : Error}
    (h : (assignRow command properties row).outcome p = (.error e, q)) :
    Refuses command properties row p e q := by
  unfold assignRow at h
  split at h
  · next hfew =>
    cases h
    exact .columns hfew
  · next henough =>
    obtain ⟨earlier, property, value, later, hsplit, hearlier, hfails⟩ :=
      Parameter.forM_write_error h
    exact .column (Nat.le_of_not_lt henough) hsplit hearlier hfails

theorem assignRows_assigns (command : String) (properties : List String) (rows : List Row)
    (counts : List Int) (ps : List Parameter) :
    Assigns command properties (pairs rows counts ps.length) ps
      (assignRows command properties rows counts ps) := by
  induction ps generalizing rows counts with
  | nil =>
    rw [List.length_nil, pairs_zero]
    cases rows <;> exact .done (.none [])
  | cons p ps ih =>
    cases rows with
    | nil =>
      rw [pairs_nil]
      exact .done (.none (p :: ps))
    | cons row rows =>
      rw [List.length_cons, assignRows]
      by_cases hzero : counts.head? = some 0
      · rw [if_pos hzero, pairs_of_zero hzero]
        exact (ih (row :: rows) counts.tail).skip p
      · rw [if_neg hzero, pairs_of_nonzero hzero]
        rcases hrow : (assignRow command properties row).outcome p with ⟨e | _, q⟩
        · exact .stuck (List.nil_append _).symm rfl (refuses_of_assignRow hrow) (.none (q :: ps))
        · exact (ih rows counts.tail).receive (receives_of_assignRow hrow)

/-- The key rows of a batch that has been sent go to its entries in order, past those that changed
nothing. If one cannot be assigned, there is an error: the entries before it have theirs, and those
after it are as they were. -/
theorem afterBatch_assigns (config : Configuration) {command : Command}
    (hkeys : command.keys = .generated properties) {s : Statement} {u : Scope} {rows : List Row}
    {db : Database} (hrows : s.generatedKeys.outcome u.database = (.ok rows, db))
    (counts : List Int) (ps : List Parameter) :
    ∃ r ps', assignRows command.id properties rows counts ps = (r, ps') ∧
      (afterBatch config command s ps counts).outcome u =
        (r.map fun _ => ps', { u with database := db }) ∧
      Assigns command.id properties (pairs rows counts ps.length) ps (r, ps') ∧
      (r = .ok () ↔ ∀ i row, (i, row) ∈ pairs rows counts ps.length →
        ∃ p p', ps[i]? = some p ∧ Receives properties row p p') := by
  have hassigns := assignRows_assigns command.id properties rows counts ps
  rcases hassign : assignRows command.id properties rows counts ps with ⟨r, ps'⟩
  rw [hassign] at hassigns
  refine ⟨r, ps', rfl, ?_, hassigns, hassigns.ok_iff⟩
  rw [afterBatch, hkeys]
  dsimp only
  rw [SessionM.outcome_lift_bind, hrows]
  dsimp only
  rw [hassign]
  cases r <;> rfl

def numberedRow (n : Int64) : Row := ⟨[("id", .int n)]⟩

def unnumbered : Parameter := .named [("id", .null)]

/-- An insert whose keys the database gives. -/
def numberedCommand : Command :=
  { smallCommand "add" .insert "INSERT 1" with keys := .generated ["id"] }

def numberingScope : Scope where
  database := { Database.ofScript .empty with
    faults := { FaultPlan.none with keyRows := some [numberedRow 7, numberedRow 8] } }
  session := .new .batch (.overSource false none) false
  parameter := .absent
  handled := []

/-- The second of three entries changed nothing, so the second key goes to the third. -/
theorem second_key_past_unchanged :
    numberedCommand.keys = .generated ["id"] ∧
    (Statement.generatedKeys ⟨0⟩).outcome numberingScope.database =
      (.ok [numberedRow 7, numberedRow 8],
        numberingScope.database.record (.generatedKeys ⟨0⟩) .succeeded) ∧
    pairs [numberedRow 7, numberedRow 8] [1, 0, 1] 3 = [(0, numberedRow 7), (2, numberedRow 8)] ∧
    ∃ ps', ((afterBatch smallConfig numberedCommand ⟨0⟩ [unnumbered, unnumbered, unnumbered]
        [1, 0, 1]).outcome numberingScope).1 = .ok ps' ∧
      Assigned ["id"] (pairs [numberedRow 7, numberedRow 8] [1, 0, 1] 3)
        [unnumbered, unnumbered, unnumbered] ps' ∧
      ps' = [.named [("id", .int 7)], unnumbered, .named [("id", .int 8)]] := by
  have hkeys : numberedCommand.keys = .generated ["id"] := rfl
  have hrows : (Statement.generatedKeys ⟨0⟩).outcome numberingScope.database =
      (.ok [numberedRow 7, numberedRow 8],
        numberingScope.database.record (.generatedKeys ⟨0⟩) .succeeded) := rfl
  refine ⟨hkeys, hrows, by decide, ?_⟩
  obtain ⟨r, ps', hassign, hafter, hassigns, -⟩ := afterBatch_assigns smallConfig hkeys hrows
    [1, 0, 1] [unnumbered, unnumbered, unnumbered]
  have hall : assignRows "add" ["id"] [numberedRow 7, numberedRow 8] [1, 0, 1]
      [unnumbered, unnumbered, unnumbered] =
        (.ok (), [.named [("id", .int 7)], unnumbered, .named [("id", .int 8)]]) := by
    decide +kernel
  cases hall.symm.trans hassign
  cases hassigns with
  | done assigned => exact ⟨_, congrArg Prod.fst hafter, assigned, rfl⟩

end Keys

end SqlMapper
