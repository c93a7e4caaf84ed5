import SqlMapper.Proofs.Database.Apart

namespace SqlMapper

open Fallible Database

def CallOutcome.ofResult {α : Type} : Except Error α → CallOutcome
  | .ok _ => .succeeded
  | .error _ => .failed

theorem Database.perform_none {α : Type} (call : Call)
    (act : Database → Except Error α × Database) (db : Database) :
    perform call none act db =
      ((act db).1, (act db).2.record call (.ofResult (act db).1)) := by
  unfold perform
  rcases act db with ⟨_ | _, _⟩ <;> rfl

/-- `db` comes from `db₀` by calls that left the statements in `kept` alone. -/
structure Database.Beside (kept : List Statement) (db₀ db : Database) : Prop where
  made : ∀ s ∈ kept, s.index < db.statements.length
  same : ∀ s ∈ kept, db.statement s = db₀.statement s
  length_le : db₀.statements.length ≤ db.statements.length

namespace Database.Beside

variable {kept : List Statement} {db db' db'' : Database} {s : Statement}

theorem of_apart (h : Apart kept db db') : Beside kept db db' := ⟨h.made, h.same, h.length_le⟩

theorem trans (h : Beside kept db db') (h' : Beside kept db' db'') : Beside kept db db'' where
  made := h'.made
  same s hs := (h'.same s hs).trans (h.same s hs)
  length_le := Nat.le_trans h.length_le h'.length_le

theorem mono {fewer : List Statement} (h : Beside kept db db') (hf : ∀ s ∈ fewer, s ∈ kept) :
    Beside fewer db db' :=
  ⟨fun s hs => h.made s (hf s hs), fun s hs => h.same s (hf s hs), h.length_le⟩

theorem record (h : Beside kept db db') (call : Call) (o : CallOutcome) :
    Beside kept db (db'.record call o) := ⟨h.made, h.same, h.length_le⟩

theorem change (hmade : ∀ t ∈ kept, t.index < db.statements.length) (hs : s ∉ kept)
    (f : StatementState → StatementState) : Beside kept db (db.change s f) :=
  .of_apart ((Apart.refl hmade).change hs f)

end Database.Beside

namespace Statement

variable {s : Statement} {db : Database} {kept : List Statement}

theorem ne_of_index_lt {s t : Statement} (h : s.index < t.index) : s ≠ t := by
  rintro rfl
  exact Nat.lt_irrefl _ h

theorem closeQuietly_ok (s : Statement) (db : Database) :
    (s.closeQuietly.outcome db).1 = .ok () := by
  have hclosed : s.isClosed.outcome db = (.ok (db.statement s).closed, db) := rfl
  rw [closeQuietly, outcome_bind_of_ok hclosed]
  cases (db.statement s).closed
  · exact congrArg Prod.fst (outcome_quietly s.close db)
  · rfl

theorem closeQuietly_log (h : (db.statement s).closed = false) :
    ∃ sql o, (s.closeQuietly.outcome db).2.log = db.log ++ [⟨.closeStatement s sql, o⟩] := by
  have hclosed : s.isClosed.outcome db = (.ok (db.statement s).closed, db) := rfl
  rw [closeQuietly, outcome_bind_of_ok hclosed, h]
  change ∃ sql o, ((quietly s.close).outcome db).2.log = _
  rw [outcome_quietly, close, outcome_of]
  dsimp only
  split
  · rw [h]
    exact ⟨_, _, rfl⟩
  · exact ⟨_, _, rfl⟩

theorem length_of_batchCounts_ok {r : Response} {entries : Nat} {counts : List Int}
    (h : batchCounts r entries = .ok counts) : counts.length = entries := by
  unfold batchCounts at h
  split at h
  · cases h
  · cases h
  · cases h
    exact List.length_replicate

theorem executeBatch_of_open (h : (db.statement s).closed = false) :
    ∃ r sql f, s.executeBatch.outcome db = (r, (db.change s f).record
        (.executeBatch s sql (db.statement s).batch.length) (.ofResult r)) ∧
      (∀ t, (f t).closed = t.closed) ∧
      ∀ counts, r = .ok counts → counts.length = (db.statement s).batch.length := by
  rw [executeBatch, outcome_of]
  dsimp only
  rw [closedError, h, if_neg (by simp), perform_none]
  rcases hb : batchCounts (db.response ((db.statement s).batch.head?.getD (db.statement s).sql))
    (db.statement s).batch.length with e | counts
  · exact ⟨_, _, _, rfl, fun _ => rfl, fun _ hr => by cases hr⟩
  · refine ⟨_, _, _, rfl, fun _ => rfl, fun _ hr => ?_⟩
    cases hr
    exact length_of_batchCounts_ok hb

theorem addBatch_cases (s : Statement) (text : Option String) (db : Database) :
    (∃ e sql, (s.addBatch text).outcome db = (.error e, db.record (.addBatch s sql) .refused)) ∨
    ∃ sql, db.closedError s = none ∧ (s.addBatch text).outcome db =
      (.ok (), (db.change s fun t => { t with batch := t.batch ++ [sql] }).record (.addBatch s sql)
        .succeeded) := by
  rw [addBatch, outcome_of]
  dsimp only
  rcases hr : db.fault .addBatch <|> db.closedError s with _ | e
  · refine .inr ⟨_, ?_, perform_none _ _ _⟩
    cases hf : db.fault .addBatch <;> rw [hf] at hr
    · exact hr
    · cases hr
  · exact .inl ⟨e, _, rfl⟩

end Statement

end SqlMapper
