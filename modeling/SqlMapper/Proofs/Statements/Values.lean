import SqlMapper.Proofs.Statements.Settings

namespace SqlMapper

variable {config : Configuration} {type : ExecutorType} {tr : Transaction} {autoCommit : Bool}
  {db : Database} {past older newer : List Turn} {t : Turn} {w : World} {s : Statement}
  {sql : String} {o : CallOutcome} {earlier later : List LogEntry}

theorem Run.execution_filled (hr : Run config (.opened db type tr autoCommit) past w)
    (h : past = older ++ t :: newer)
    (hcall : t.calls = earlier ++ ⟨.execute s sql, o⟩ :: later) :
    ∃ i p, t.Invokes config i p ∧ i.bound.sql = sql ∧
      (s.given (older.flatMap Turn.calls ++ earlier)).Filled
        (fun j => config.Invokes j ∧ type.Shares i j) i p := by
  obtain ⟨hattends, ho⟩ := hr.execution_attended h hcall
  obtain ⟨i, p, hi, hsql, -, -, hfilled⟩ := hattends ho
  exact ⟨i, p, hi, hsql, hfilled⟩

theorem Run.entry_filled (hr : Run config (.opened db type tr autoCommit) past w)
    (h : past = older ++ t :: newer)
    (hcall : t.calls = earlier ++ ⟨.addBatch s sql, o⟩ :: later) (ho : o ≠ .refused) :
    ∃ x, t.submission? config = some x ∧
      (s.given (older.flatMap Turn.calls ++ earlier)).Filled
        (fun j => config.Invokes j ∧ type.Shares x.invocation j) x.invocation x.parameter := by
  obtain ⟨i, p, hi, hfilled⟩ := hr.attended h earlier _ later hcall ho
  exact ⟨⟨i, p⟩, hi, hfilled⟩

/-- When a statement is executed it is so for a run that comes in the turn, and when it is given an
entry it is so for the mutation of the turn. The inputs have the values of the parameter object then
and the outputs are registered. Other positions have values or are registered only for commands
whose runs come on the same statement. -/
theorem Run.values_in_force {e : LogEntry}
    (hr : Run config (.opened db type tr autoCommit) past w) (h : past = older ++ t :: newer)
    (hcall : t.calls = earlier ++ e :: later) :
    (∀ s sql, e.call = .execute s sql → ∃ i p, t.Invokes config i p ∧ i.bound.sql = sql ∧
      (s.given (older.flatMap Turn.calls ++ earlier)).Filled
        (fun j => config.Invokes j ∧ type.Shares i j) i p) ∧
    ∀ s sql, e.call = .addBatch s sql → e.outcome ≠ .refused →
      ∃ x, t.submission? config = some x ∧
        (s.given (older.flatMap Turn.calls ++ earlier)).Filled
          (fun j => config.Invokes j ∧ type.Shares x.invocation j) x.invocation x.parameter := by
  obtain ⟨call, o⟩ := e
  refine ⟨fun s sql he => ?_, fun s sql he ho => ?_⟩
  · cases (he : call = .execute s sql)
    exact hr.execution_filled h hcall
  · cases (he : call = .addBatch s sql)
    exact hr.entry_filled h hcall ho

/-- A procedure call that gives `y` back for `x`. -/
def swapCommand (id : String) (x y : ParameterMode) : Command :=
  { smallCommand id .select "CALL swap(?, ?)" with
    source := .template ⟨"CALL swap(?, ?)", [⟨"x", x⟩, ⟨"y", y⟩]⟩
    statementKind? := some .callable }

def swapConfig : Configuration :=
  { smallConfig with
    registry := (Registry.empty.insert (swapCommand "back" .output .input)).insert
      (swapCommand "there" .input .output) }

def swapWorld : World :=
  .opened (.ofScript (Script.empty.respond "CALL swap(?, ?)"
    { Response.empty with outValues := [(1, .string "a"), (2, .string "b")] }))
    .reuse (.overSource false none) false

def thereTurn : Turn :=
  swapWorld.turn swapConfig (.perform (.selectList "there" .all)
    (.named [("x", .string "c"), ("y", .null)]))

def swapTurn (id : String) (x y : Value) : Turn :=
  thereTurn.after.turn swapConfig (.perform (.selectList id .all) (.named [("x", x), ("y", y)]))

/-- The statement of the first call has the value of the second once it is executed again. -/
theorem second_value_in_force :
    Run swapConfig swapWorld [thereTurn, swapTurn "there" (.string "d") .null]
        (swapTurn "there" (.string "d") .null).after ∧
      (swapTurn "there" (.string "d") .null).calls = [⟨.registerOut ⟨0⟩ 2, .succeeded⟩,
        ⟨.bind ⟨0⟩ 1 (.string "d"), .succeeded⟩, ⟨.execute ⟨0⟩ "CALL swap(?, ?)", .succeeded⟩,
        ⟨.nextRow ⟨0⟩, .succeeded⟩, ⟨.outParameter ⟨0⟩ 2, .succeeded⟩] ∧
      ∃ i p, (swapTurn "there" (.string "d") .null).Invokes swapConfig i p ∧
        i.bound.sql = "CALL swap(?, ?)" ∧
        (Statement.given ⟨0⟩ (thereTurn.calls ++ [⟨.registerOut ⟨0⟩ 2, .succeeded⟩,
          ⟨.bind ⟨0⟩ 1 (.string "d"), .succeeded⟩])).Filled
            (fun j => swapConfig.Invokes j ∧ j.bound.sql = i.bound.sql) i p := by
  have hrun : Run swapConfig swapWorld [thereTurn, swapTurn "there" (.string "d") .null]
      (swapTurn "there" (.string "d") .null).after := .turn (.turn .start _) _
  have hcalls : (swapTurn "there" (.string "d") .null).calls =
      [⟨.registerOut ⟨0⟩ 2, .succeeded⟩, ⟨.bind ⟨0⟩ 1 (.string "d"), .succeeded⟩] ++
        ⟨.execute ⟨0⟩ "CALL swap(?, ?)", .succeeded⟩ ::
          [⟨.nextRow ⟨0⟩, .succeeded⟩, ⟨.outParameter ⟨0⟩ 2, .succeeded⟩] := by decide
  have hpast : [thereTurn, swapTurn "there" (.string "d") .null] =
      [thereTurn] ++ swapTurn "there" (.string "d") .null :: [] := rfl
  exact ⟨hrun, hcalls, (hrun.values_in_force hpast hcalls).1 ⟨0⟩ _ rfl⟩

/-- The way back is executed with the value that was bound on the way there at a position where it
has no input, and with the output that was registered then. -/
theorem first_value_left :
    Run swapConfig swapWorld [thereTurn, swapTurn "back" .null (.string "d")]
        (swapTurn "back" .null (.string "d")).after ∧
      (swapTurn "back" .null (.string "d")).calls = [⟨.registerOut ⟨0⟩ 1, .succeeded⟩,
        ⟨.bind ⟨0⟩ 2 (.string "d"), .succeeded⟩, ⟨.execute ⟨0⟩ "CALL swap(?, ?)", .succeeded⟩,
        ⟨.nextRow ⟨0⟩, .succeeded⟩, ⟨.outParameter ⟨0⟩ 1, .succeeded⟩] ∧
      (Statement.given ⟨0⟩ (thereTurn.calls ++ [⟨.registerOut ⟨0⟩ 1, .succeeded⟩,
        ⟨.bind ⟨0⟩ 2 (.string "d"), .succeeded⟩])).values 1 = some (.string "c") ∧
      (Statement.given ⟨0⟩ (thereTurn.calls ++ [⟨.registerOut ⟨0⟩ 1, .succeeded⟩,
        ⟨.bind ⟨0⟩ 2 (.string "d"), .succeeded⟩])).outputs 2 = true ∧
      ∀ i p, (swapTurn "back" .null (.string "d")).Invokes swapConfig i p →
        i.inputs = [(2, "y")] ∧ i.outputs = [(1, "x")] := by
  refine ⟨.turn (.turn .start _) _, by decide, by decide, by decide, ?_⟩
  rintro i p ⟨op, q, hstep, hi⟩
  cases hstep
  cases hi with
  | query hop hc hi =>
    cases hop
    cases hc
    cases hi
    exact ⟨rfl, rfl⟩
  | mutation hop => cases hop
  | queued _ hst => cases hst

end SqlMapper
