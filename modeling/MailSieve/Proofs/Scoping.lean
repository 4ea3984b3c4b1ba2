import MailSieve.Proofs.Boundary
import MailSieve.Proofs.Locality

/-!
# Scopes

Each list of commands has a scope of its own for its chains of branches.  A run enters a scope with
a block and leaves it with the block, however that ends, so a chain is never seen from another list.

* `outer_finalState_evaluateCommands`: a list of commands leaves the scopes around its own alone.
* `evaluateBlock_alike_evaluateCommands`: a block goes as its commands would go with no chain open
  anywhere.
* `isSome_current_of_evaluateCommand` says behind which commands a chain is open.
* `scopes_balanced` collects what every evaluation leaves of the scopes.
-/

namespace MailSieve

/-! ### Lists of commands -/

section Around

variable (host : Host) (commands : List Command) (state : State)

/-- A run of commands leaves the scopes around it as they were, however it ends. -/
theorem outer_finalState_evaluateCommands :
    ((evaluateCommands host commands).finalState state).scopes.outer = state.scopes.outer := by
  have same := ((sheltered host).related_evaluateCommands commands state.scopes.outer).finalState
    state
  exact congrArg (·.scopes.outer) same

theorem outer_finalState_evaluateCommand (command : Command) :
    ((evaluateCommand host command).finalState state).scopes.outer = state.scopes.outer := by
  rw [← evaluateCommands_singleton]
  exact outer_finalState_evaluateCommands host [command] state

/-- **A block has its chains to itself.**  From any state it ends as its commands would end, and has
the same effects, from anywhere in the script and with no chain open at any depth. -/
theorem evaluateBlock_alike_evaluateCommands (coordinate : Coordinate) :
    ((evaluateBlock host commands).outcome state).Alike
      ((evaluateCommands host commands).outcome { state with scopes := {}, coordinate }) := by
  have entered := Run.outcome_inScope_alike (evaluateCommands host commands) state
  -- the scope of the block is as empty as a fresh one, and the scopes around it are not seen
  have alike : State.Alike { state with scopes := state.scopes.push }
      { state with scopes := {}, coordinate } := ⟨rfl, rfl, rfl, rfl⟩
  exact entered.trans (evaluateCommands_alike host commands alike rfl)

end Around

/-! ### One command -/

section Current

variable {host : Host} {implementation : BuiltinCommand} {state after : State}

/-- A command behind which a chain may go on has left one open. -/
theorem isSome_current_of_act {β : Type} {arguments : ArgumentsOf (Run Bool)} {block : Option β}
    {next : Next β} (acted : implementation.act host arguments block state = .ok next after)
    (continues : implementation.continuesChain = true)
    (opened : implementation = .branch .alternative → state.scopes.current.isSome = true) :
    after.scopes.current.isSome = true := by
  have recorded : ∀ {before : State},
      BuiltinCommand.actGuarded arguments block before = .ok next after →
        after.scopes.current.isSome = true := by
    intro before guarded
    -- the guard has been asked, and its result noted in the current scope
    obtain ⟨condition, first, -, rest⟩ := Run.bind_eq_ok_iff.mp guarded
    obtain ⟨inner, second, -, rest⟩ := Run.bind_eq_ok_iff.mp rest
    obtain ⟨holds, asked, -, rest⟩ := Run.bind_eq_ok_iff.mp rest
    cases rest
    rfl
  cases implementation with
  | branch member =>
      cases member with
      | opening => exact recorded acted
      | alternative =>
          by_cases untaken : state.scopes.current = some false
          · rw [BuiltinCommand.act, Run.get_bind_apply, if_pos untaken] at acted
            exact recorded acted
          · rw [BuiltinCommand.act, Run.get_bind_apply, if_neg untaken] at acted
            -- nothing is noted, for the chain has been taken and is open still
            cases acted
            exact opened rfl
      | fallback => cases continues
  | _ => cases continues

/-- An `elsif` stands behind an open chain only. -/
theorem BuiltinCommand.isSome_current_of_validateState
    (placed : (branch .alternative).validateState state = .ok ()) :
    state.scopes.current.isSome = true := by
  cases opened : state.scopes.current with
  | some result => rfl
  | none =>
      rw [validateState, opened] at placed
      cases placed

/-- The block of a command leaves the scope of the command as it was. -/
theorem Next.scopes_of_run {next : Next (List Command)} {flow : Flow}
    (ended : next.run (evaluateBlock host) state = .ok flow after) :
    after.scopes = state.scopes := by
  cases next with
  | done flow =>
      cases ended
      rfl
  | block commands =>
      change evaluateBlock host commands state = .ok flow after at ended
      have around := scopes_finalState_evaluateBlock host commands state
      rwa [Run.finalState_of_ok ended] at around

/-- Behind an `if` and an `elsif` a further branch may follow, and behind nothing else. -/
theorem BuiltinCommand.continuesChain_iff :
    implementation.continuesChain = true ↔
      implementation = branch .opening ∨ implementation = branch .alternative := by
  cases implementation with
  | branch member => cases member <;> simp [continuesChain]
  | _ => simp [continuesChain]

/-- **Behind a command that has ended a chain is open** just if the command stands for a branch that
others may follow. -/
theorem isSome_current_of_evaluateCommand {command : Command} {flow : Flow}
    (ended : evaluateCommand host command state = .ok flow after) :
    ∃ implementation, host.registries.commands.create command.name = .ok implementation ∧
      after.scopes.current.isSome = implementation.continuesChain := by
  obtain ⟨implementation, next, between, reached, began, ran, rfl⟩ :=
    exists_of_evaluateCommand_eq_ok ended
  obtain ⟨entered, prepared, acted⟩ := Command.begin_eq_ok_iff.mp began
  obtain ⟨made, placed, -, -, rfl⟩ := BuiltinCommand.prepare_eq_ok_iff.mp prepared
  refine ⟨implementation, made, ?_⟩
  have kept : (implementation.concluded command.coordinate reached).scopes =
      implementation.leaveScopes between.scopes := by
    rw [BuiltinCommand.concluded, Next.scopes_of_run ran]
  rw [kept, BuiltinCommand.leaveScopes]
  by_cases continues : implementation.continuesChain = true
  · rw [if_pos continues, continues]
    refine isSome_current_of_act acted continues ?_
    rintro rfl
    exact BuiltinCommand.isSome_current_of_validateState placed
  · rw [if_neg continues, Bool.eq_false_iff.mpr continues]
    rfl

end Current

/-! ### All evaluations -/

/-- **Scopes are balanced on every exit**, be it that a run goes on, stops or fails.

* A block leaves all scopes as they were.
* A test leaves all scopes and the flags as they were.
* A list of commands, and a single command, leave the depth and the scopes around their own as they
  were.
* Behind a command that has ended a chain is open if the command stands for `if` or `elsif`, and
  else there is none. -/
theorem scopes_balanced (host : Host) (state : State) :
    (∀ commands, ((evaluateBlock host commands).finalState state).scopes = state.scopes) ∧
    (∀ test, ((evaluateTest host test).finalState state).scopes = state.scopes ∧
      ((evaluateTest host test).finalState state).flags = state.flags) ∧
    (∀ commands,
      ((evaluateCommands host commands).finalState state).scopes.depth = state.scopes.depth ∧
      ((evaluateCommands host commands).finalState state).scopes.outer = state.scopes.outer) ∧
    (∀ command,
      ((evaluateCommand host command).finalState state).scopes.depth = state.scopes.depth ∧
      ((evaluateCommand host command).finalState state).scopes.outer = state.scopes.outer) ∧
    ∀ command flow after, evaluateCommand host command state = .ok flow after →
      ∃ implementation, host.registries.commands.create command.name = .ok implementation ∧
        (after.scopes.current.isSome = true ↔
          implementation = .branch .opening ∨ implementation = .branch .alternative) := by
  refine ⟨?_, ?_, ?_, ?_, ?_⟩
  · intro commands
    exact scopes_finalState_evaluateBlock host commands state
  · intro test
    let left := (evaluateTest host test).finalState state
    have observed : left = { state with coordinate := left.coordinate, calls := left.calls } :=
      observing.le_finalState host test state
    have scopes := congrArg State.scopes observed
    have flags := congrArg State.flags observed
    exact ⟨scopes, flags⟩
  · intro commands
    have around := outer_finalState_evaluateCommands host commands state
    exact ⟨congrArg (·.length + 1) around, around⟩
  · intro command
    have around := outer_finalState_evaluateCommand host state command
    exact ⟨congrArg (·.length + 1) around, around⟩
  · intro command flow after ended
    obtain ⟨implementation, made, opened⟩ := isSome_current_of_evaluateCommand ended
    refine ⟨implementation, made, ?_⟩
    rw [opened]
    exact BuiltinCommand.continuesChain_iff

/-- `if true { if false { keep; } stop; }` -/
def stoppingBranch : Command where
  name := "if"
  arguments := { tests := some [{ name := "true" }] }
  block := some [
    { name := "if"
      arguments := { tests := some [{ name := "false" }] }
      block := some [{ name := "keep" }] },
    { name := "stop" }]

/-- A run that stops in a block: the chain of the block is gone, and that of the command is open. -/
theorem scopes_balanced_stoppingBranch :
    let host : Host := { registries := .builtin }
    let state : State := { scopes := { current := none, outer := [some false] } }
    ∃ after, evaluateCommand host stoppingBranch state = .ok .stop after ∧
      after.scopes = { current := some true, outer := [some false] } ∧
      ∃ implementation, host.registries.commands.create "if" = .ok implementation ∧
        (after.scopes.current.isSome = true ↔
          implementation = .branch .opening ∨ implementation = .branch .alternative) := by
  intro host state
  let outcome := (evaluateCommand host stoppingBranch).outcome state
  have stopped : outcome.result.toOption = some .stop := by decide +kernel
  have scopes : outcome.state.scopes = { current := some true, outer := [some false] } := by
    decide +kernel
  cases ended : evaluateCommand host stoppingBranch state with
  | error error after =>
      have failed : outcome = ⟨.error error, after⟩ := Run.outcome_of_error ended
      rw [failed] at stopped
      cases stopped
  | ok flow after =>
      have reached : outcome = ⟨.ok flow, after⟩ := Run.outcome_of_ok ended
      rw [reached] at stopped scopes
      cases stopped
      obtain ⟨-, -, -, -, opened⟩ := scopes_balanced host state
      exact ⟨after, rfl, scopes, opened stoppingBranch .stop after ended⟩

end MailSieve
