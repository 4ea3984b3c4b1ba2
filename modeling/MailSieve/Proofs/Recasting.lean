import MailSieve.Proofs.Locality

/-!
# Runs that differ in their stamps

Errors and log entries are stamped with the position of the run.  Nothing that a run does depends on
the position or on the log, so two runs that differ in them go on side by side.

* `Run.Recasts` says so of two computations: their positions differ by a function, their logs by a
  relation, and all else is the same.
* `recasting` is the instance of `Correspondence`, for every relation between logs that stays when
  each run writes the same entry.
* `evaluate_relocate`: to write a script elsewhere is to change the stamps.
-/

namespace MailSieve

/-- The entry at another position. -/
def LogEntry.relocate (move : Coordinate → Coordinate) (entry : LogEntry) : LogEntry :=
  { entry with coordinate := move entry.coordinate }

/-- The error at another position. -/
def RunError.relocate (move : Coordinate → Coordinate) (error : RunError) : RunError :=
  { error with coordinate := move error.coordinate }

/-- The state of a run that stands elsewhere and has another log. -/
def State.recast (move : Coordinate → Coordinate) (log : List LogEntry) (state : State) : State :=
  { state with coordinate := move state.coordinate, log }

/-- Two runs differ in their positions as `move` says, in their logs as `logs` says, and in nothing
else. -/
def Run.Recasts (move : Coordinate → Coordinate) (logs : List LogEntry → List LogEntry → Prop)
    {α : Type} (run other : Run α) : Prop :=
  ∀ state log, logs state.log log →
    match run state with
    | .ok value after => ∃ reached, logs after.log reached ∧
        other (state.recast move log) = .ok value (after.recast move reached)
    | .error error after => ∃ reached, logs after.log reached ∧
        other (state.recast move log) = .error (error.relocate move) (after.recast move reached)

namespace Run.Recasts

variable {move : Coordinate → Coordinate} {logs : List LogEntry → List LogEntry → Prop}
variable {α β ε : Type}

theorem pure (value : α) : Recasts move logs (Pure.pure value) (Pure.pure value) :=
  fun _ log kept => ⟨log, kept, rfl⟩

/-- A failure is stamped with the other position, and that is all. -/
theorem fail (cause : Cause) : Recasts move logs (Run.fail cause : Run α) (Run.fail cause) :=
  fun _ log kept => ⟨log, kept, rfl⟩

theorem ofExcept (toCause : ε → Cause) (result : Except ε α) :
    Recasts move logs (Run.ofExcept toCause result) (Run.ofExcept toCause result) := by
  cases result with
  | ok value => exact .pure value
  | error reason => exact .fail (toCause reason)

/-- Two computations in a row go on side by side if both do. -/
theorem bind {run other : Run α} {rest others : α → Run β} (here : Recasts move logs run other)
    (later : ∀ value, Recasts move logs (rest value) (others value)) :
    Recasts move logs (run >>= rest) (other >>= others) := by
  intro state log kept
  have first := here state log kept
  rw [bind_apply, bind_apply]
  cases started : run state with
  | ok value between =>
      rw [started] at first
      obtain ⟨reached, keptBetween, otherStarted⟩ := first
      rw [otherStarted]
      exact later value between reached keptBetween
  | error error after =>
      rw [started] at first
      obtain ⟨reached, keptAfter, otherEnded⟩ := first
      rw [otherEnded]
      exact ⟨reached, keptAfter, rfl⟩

theorem ask (host : Host) (call : Call) (answer : Message → α) :
    Recasts move logs (Run.ask host call answer) (Run.ask host call answer) := by
  intro state log kept
  rw [ask_apply, ask_apply]
  cases verdict : host.failures state.calls call with
  | some fault => exact ⟨log, kept, by simp only [State.recast, verdict]; rfl⟩
  | none => exact ⟨log, kept, by simp only [State.recast, verdict]⟩

theorem collect (host : Host) (action : Action) :
    Recasts move logs (Run.collect host action) (Run.collect host action) :=
  bind (ask host (.addAction action) _) fun _ _ log kept => ⟨log, kept, rfl⟩

theorem inScope {run other : Run α} (inner : Recasts move logs run other) :
    Recasts move logs (Run.inScope run) (Run.inScope other) := by
  intro state log kept
  have within := inner { state with scopes := state.scopes.push } log kept
  have entered : { state.recast move log with scopes := (state.recast move log).scopes.push } =
      State.recast move log { state with scopes := state.scopes.push } := rfl
  rw [Run.inScope, Run.inScope, entered]
  cases ended : run { state with scopes := state.scopes.push } with
  | ok value after | error error after =>
      rw [ended] at within
      obtain ⟨reached, keptAfter, otherEnded⟩ := within
      rw [otherEnded]
      exact ⟨reached, keptAfter, rfl⟩

/-- The two runs end in the same way, each stamped with its own positions. -/
theorem outcome {run other : Run Flow} (recasts : Recasts move logs run other) (state : State)
    (log : List LogEntry) (kept : logs state.log log) :
    ∃ reached, logs (run.outcome state).state.log reached ∧
      other.outcome (state.recast move log) =
        { result := (run.outcome state).result.mapError (RunError.relocate move)
          state := (run.outcome state).state.recast move reached } := by
  have ended := recasts state log kept
  cases own : run state with
  | ok flow after =>
      rw [own] at ended
      obtain ⟨reached, keptAfter, otherEnded⟩ := ended
      rw [outcome_of_ok own, outcome_of_ok otherEnded]
      exact ⟨reached, keptAfter, rfl⟩
  | error error after =>
      rw [own] at ended
      obtain ⟨reached, keptAfter, otherEnded⟩ := ended
      rw [outcome_of_error own, outcome_of_error otherEnded]
      exact ⟨reached, keptAfter, rfl⟩

end Run.Recasts

/-- To write a tree elsewhere is to change the stamps, if logs that differ as they may still do so
after an entry that each run stamps with its own position. -/
def recasting (host : Host) (move : Coordinate → Coordinate)
    (logs : List LogEntry → List LogEntry → Prop)
    (stamped : ∀ {log other} level message coordinate, logs log other →
      logs (log ++ [⟨level, message, coordinate⟩]) (other ++ [⟨level, message, move coordinate⟩])) :
    Correspondence host host move where
  Related := Run.Recasts move logs
  related_pure := .pure
  related_bind := .bind
  related_fail _ := .fail _
  related_moveTo _ _ log kept := ⟨log, kept, rfl⟩
  related_ask := .ask host
  related_test _ := .ofExcept id _
  related_comparator _ := .ofExcept id _
  related_command _ := .ofExcept id _
  related_order command state log kept := by
    have unseen : command.validateState (state.recast move log) = command.validateState state := rfl
    rw [Run.get_bind_apply, Run.get_bind_apply, unseen]
    exact Run.Recasts.ofExcept .order (command.validateState state) state log kept
  related_feature feature := by
    unfold BuiltinCommand.requireFeature
    split
    · exact .pure ()
    · exact .fail _
  related_current _ log kept := ⟨log, kept, rfl⟩
  related_record _ _ log kept := ⟨log, kept, rfl⟩
  related_write level message state _ kept :=
    ⟨_, stamped level message state.coordinate kept, rfl⟩
  related_enter _ _ log kept := ⟨log, kept, rfl⟩
  related_collect := .collect host
  related_update _ _ log kept := ⟨log, kept, rfl⟩
  related_leave _ _ log kept := ⟨log, kept, rfl⟩
  related_inScope := .inScope

/-- A run elsewhere, from a log that is written elsewhere as well. -/
def relocating (host : Host) (move : Coordinate → Coordinate) : Correspondence host host move :=
  recasting host move (fun log other => other = log.map (LogEntry.relocate move)) <| by
    rintro log _ level message coordinate rfl
    rw [List.map_append]
    rfl

/-- **Positions only stamp.**  A script that is written elsewhere does the same, and fails with the
same error, at the corresponding position; its log has the same entries, each stamped with the
corresponding position. -/
theorem evaluate_relocate (host : Host) (move : Coordinate → Coordinate) (script : Script)
    (message : Message) :
    let original := script.evaluate host message
    let relocated := (script.relocate move).evaluate host message
    relocated.result = original.result.mapError (RunError.relocate move) ∧
      relocated.state.message = original.state.message ∧
      relocated.state.log = original.state.log.map (LogEntry.relocate move) := by
  intro original relocated
  let moved := evaluateCommands host (script.relocate move).commands
  have recasts : Run.Recasts move (fun log other => other = log.map (LogEntry.relocate move))
      (evaluateCommands host script.commands) moved :=
    (relocating host move).related_evaluateCommands_relocate script.commands
  obtain ⟨log, same, ended⟩ := recasts.outcome { message } [] rfl
  -- the corresponding run starts at the position that corresponds to the fresh one
  have elsewhere : relocated.Alike (moved.outcome (State.recast move [] { message })) :=
    evaluateCommands_alike host _ ⟨rfl, rfl, rfl, rfl⟩ rfl
  rw [ended] at elsewhere
  exact ⟨elsewhere.result, elsewhere.state.message, elsewhere.state.log.trans same⟩

end MailSieve
