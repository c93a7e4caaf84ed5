import SqlMapper.Proofs.Statements.Provenance

namespace SqlMapper

variable {config : Configuration} {type : ExecutorType} {tr : Transaction} {autoCommit : Bool}
  {db : Database} {past older newer : List Turn} {t : Turn} {w : World} {s : Statement}
  {sql : String} {o : CallOutcome} {earlier later : List LogEntry}

theorem Run.execution_attended (hr : Run config (.opened db type tr autoCommit) past w)
    (h : past = older ++ t :: newer)
    (hcall : t.calls = earlier ++ ⟨.execute s sql, o⟩ :: later) :
    (t.period config type tr.timeout (older.flatMap Turn.calls)).Attends
      (older.flatMap Turn.calls ++ earlier) ⟨.execute s sql, o⟩ ∧ o ≠ .refused := by
  refine ⟨hr.attended h earlier _ later hcall, ?_⟩
  have hsplit : past.flatMap Turn.calls = (older.flatMap Turn.calls ++ earlier) ++
      ⟨.execute s sql, o⟩ :: (later ++ newer.flatMap Turn.calls) := by
    rw [h]
    simp [hcall]
  exact hr.not_refused hsplit

/-- Each execution is one of a run that comes in the turn, and the timeout and the fetch size of this
run are in force on the statement. Where the run has none, there may be that of another command
whose runs come on the same statement. -/
theorem Run.settings_in_force (hr : Run config (.opened db type tr autoCommit) past w)
    (h : past = older ++ t :: newer)
    (hcall : t.calls = earlier ++ ⟨.execute s sql, o⟩ :: later) :
    ∃ i p, t.Invokes config i p ∧ i.bound.sql = sql ∧
      (s.given (older.flatMap Turn.calls ++ earlier)).Tuned config.settings tr.timeout
        (fun j => config.Invokes j ∧ type.Shares i j) i := by
  obtain ⟨hattends, ho⟩ := hr.execution_attended h hcall
  obtain ⟨i, p, hi, hsql, -, htuned, -⟩ := hattends ho
  exact ⟨i, p, hi, hsql, htuned⟩

/-- Queries with one text, the last without settings of its own. -/
def pacedConfig : Configuration :=
  { smallConfig with
    registry := ((Registry.empty.insert (smallCommand "plain" .select "SELECT 1")).insert
        { smallCommand "quick" .select "SELECT 1" with timeout := some 5, fetchSize := some 3 }).insert
      { smallCommand "slow" .select "SELECT 1" with timeout := some 10, fetchSize := some 7 } }

def slowTurn : Turn := reuseWorld.turn pacedConfig (.perform (.selectList "slow" .all) .absent)

def pacedTurn (id : String) : Turn :=
  slowTurn.after.turn pacedConfig (.perform (.selectList id .all) .absent)

/-- The second query runs on the statement of the first, with its own settings. -/
theorem quick_settings_in_force :
    Run pacedConfig reuseWorld [slowTurn, pacedTurn "quick"] (pacedTurn "quick").after ∧
      (pacedTurn "quick").calls = [⟨.setTimeout ⟨0⟩ 5, .succeeded⟩,
        ⟨.setFetchSize ⟨0⟩ 3, .succeeded⟩, ⟨.execute ⟨0⟩ "SELECT 1", .succeeded⟩,
        ⟨.nextRow ⟨0⟩, .succeeded⟩] ∧
      ∃ i p, (pacedTurn "quick").Invokes pacedConfig i p ∧ i.bound.sql = "SELECT 1" ∧
        (Statement.given ⟨0⟩ (slowTurn.calls ++ [⟨.setTimeout ⟨0⟩ 5, .succeeded⟩,
          ⟨.setFetchSize ⟨0⟩ 3, .succeeded⟩])).Tuned .standard none
            (fun j => pacedConfig.Invokes j ∧ j.bound.sql = i.bound.sql) i := by
  have hrun : Run pacedConfig reuseWorld [slowTurn, pacedTurn "quick"] (pacedTurn "quick").after :=
    .turn (.turn .start _) _
  have hcalls : (pacedTurn "quick").calls = [⟨.setTimeout ⟨0⟩ 5, .succeeded⟩,
      ⟨.setFetchSize ⟨0⟩ 3, .succeeded⟩] ++ ⟨.execute ⟨0⟩ "SELECT 1", .succeeded⟩ ::
        [⟨.nextRow ⟨0⟩, .succeeded⟩] := by decide
  have hpast : [slowTurn, pacedTurn "quick"] = [slowTurn] ++ pacedTurn "quick" :: [] := rfl
  exact ⟨hrun, hcalls, hrun.settings_in_force hpast hcalls⟩

/-- The query without settings runs with those of the slow one. -/
theorem slow_settings_left :
    Run pacedConfig reuseWorld [slowTurn, pacedTurn "plain"] (pacedTurn "plain").after ∧
      (pacedTurn "plain").calls = [⟨.execute ⟨0⟩ "SELECT 1", .succeeded⟩,
        ⟨.nextRow ⟨0⟩, .succeeded⟩] ∧
      (Statement.given ⟨0⟩ slowTurn.calls).timeout = some 10 ∧
      (Statement.given ⟨0⟩ slowTurn.calls).fetchSize = some 7 ∧
      ∀ i p, (pacedTurn "plain").Invokes pacedConfig i p →
        i.timeout pacedConfig.settings none = none ∧ i.fetchSize pacedConfig.settings = none := by
  refine ⟨.turn (.turn .start _) _, by decide, by decide, by decide, ?_⟩
  rintro i p ⟨op, q, hstep, hi⟩
  cases hstep
  cases hi with
  | query hop hc hi =>
    cases hop
    cases hc
    cases hi
    exact ⟨rfl, rfl⟩
  | mutation hop => cases hop
  | queued _ hst => cases hst

end SqlMapper
