import MailSieve.Proofs.FailedSteps
import MailSieve.Proofs.Prolog

/-!
# What a failed command leaves behind

A failure takes nothing back.  So what a failed command leaves behind is what it has done before the
step that failed, and up to its block that is next to nothing: it has moved to its position, may
have ended the prolog, and may have made calls on the message.  Only the commands of its block can
have done more.

* `Command.Spares`: what is left as it was by a command that fails before its block.
* `Command.BlockFailure`: what is left behind by a branch whose block fails.
* `exists_culprit` follows a failure into the blocks, to the command that has caused it.
* `failure_contained` puts these together.
-/

namespace MailSieve

/-! ### Before the block -/

/-- The command has passed its state validation and is no `require`. -/
def Command.LeavesProlog (host : Host) (command : Command) (state : State) : Prop :=
  ∃ implementation, host.registries.commands.create command.name = .ok implementation ∧
    implementation.validateState state = .ok () ∧ implementation ≠ .require

/-- What is left as it was by a command that fails before its block: the message with its actions,
the log, all open chains and the flags.  Only the prolog may be over, if the command was in its
place and is no `require`. -/
structure Command.Spares (host : Host) (command : Command) (before after : State) : Prop where
  message : after.message = before.message
  log : after.log = before.log
  scopes : after.scopes = before.scopes
  hasActions : after.flags.hasActions = before.flags.hasActions
  rejected : after.flags.rejected = before.flags.rejected
  inProlog : after.flags.inProlog ≠ before.flags.inProlog ↔
    before.flags.inProlog = true ∧ command.LeavesProlog host before

section Spares

variable {host : Host} {command : Command} {state after : State} {error : RunError}
  {implementation : BuiltinCommand}

/-- A command that is not found to be in its place changes only its position. -/
theorem Command.Spares.of_unplaced (unplaced : ¬ command.LeavesProlog host state) :
    command.Spares host state { state with coordinate := command.coordinate } :=
  ⟨rfl, rfl, rfl, rfl, rfl, by simp [unplaced]⟩

/-- A command that is in its place may have asked for something since, as tests do. -/
theorem Command.Spares.of_observing
    (made : host.registries.commands.create command.name = .ok implementation)
    (placed : implementation.validateState state = .ok ())
    (asked : observing.le (command.entered implementation state) after) :
    command.Spares host state after := by
  rw [show after = _ from asked]
  refine ⟨rfl, rfl, rfl, implementation.hasActions_enterFlags _,
    implementation.rejected_enterFlags _, ?_⟩
  have leaves : command.LeavesProlog host state ↔ implementation.kind ≠ .prolog := by
    rw [Ne, implementation.kind_eq_prolog_iff]
    constructor
    · rintro ⟨other, also, -, noRequire⟩
      cases made.symm.trans also
      exact noRequire
    · intro noRequire
      exact ⟨implementation, made, placed, noRequire⟩
  rw [leaves, entered, BuiltinCommand.enterFlags]
  by_cases prolog : implementation.kind = .prolog <;> simp [prolog]

/-- What a command that is no branch does itself leaves nothing behind if it fails. -/
theorem observing_of_act_error {β : Type} {arguments : ArgumentsOf (Run Bool)} {block : Option β}
    (other : ∀ member, implementation ≠ .branch member)
    (failed : implementation.act host arguments block state = .error error after) :
    observing.le state after := by
  cases implementation with
  | require =>
      have same := BuiltinCommand.finalState_act_require host arguments block state
      rw [Run.finalState_of_error failed] at same
      rw [same]
      exact observing.refl state
  | branch member => exact absurd rfl (other member)
  | stop => cases failed
  | action own => exact observing.le_of_act_action_eq_error failed
  | log =>
      rw [BuiltinCommand.act] at failed
      cases read : arguments.logMessage with
      | error fault =>
          rw [read] at failed
          cases failed
          exact observing.refl _
      | ok found =>
          rw [read] at failed
          cases failed

/-- **A command that fails before its block** has changed next to nothing. -/
theorem Command.FailsAt.spares {step : FailedStep}
    (failsAt : command.FailsAt host state step error after) (before : step ≠ .inside) :
    command.Spares host state after := by
  cases failsAt with
  | lookup missing =>
      refine .of_unplaced ?_
      rintro ⟨implementation, made, -, -⟩
      simp [Registry.create, missing] at made
  | construction unmade =>
      refine .of_unplaced ?_
      rintro ⟨implementation, made, -, -⟩
      simp [Registry.create, unmade] at made
  | order made misplaced =>
      refine .of_unplaced ?_
      rintro ⟨other, also, placed, -⟩
      cases made.symm.trans also
      cases misplaced.symm.trans placed
  | arguments made placed misshaped => exact .of_observing made placed (observing.refl _)
  | block made placed shaped misblocked => exact .of_observing made placed (observing.refl _)
  | execution admitted other failed =>
      exact .of_observing admitted.made admitted.placed (observing_of_act_error other failed)
  | @guard member test _ _ admitted asks read failed =>
      have asked := observing.le_finalState host test (command.entered (.branch member) state)
      rw [Run.finalState_of_error failed] at asked
      exact .of_observing admitted.made admitted.placed asked
  | inside => exact absurd rfl before

end Spares

/-! ### In the block -/

/-- The chains while the block of a branch runs, as they are seen from around it: an `if` or `elsif`
has noted that its guard held. -/
def BranchCommand.noted (member : BranchCommand) (scopes : Scopes) : Scopes :=
  match member with
  | .opening | .alternative => scopes.record true
  | .fallback => scopes

/-- What a branch leaves behind whose block fails.  It enters the block with nothing done itself but
the note on its guard.  The commands of the block then run up to the first that fails, and what they
have done up to there stays, except for the chains in the block. -/
structure Command.BlockFailure (host : Host) (command : Command) (state : State) (error : RunError)
    (after : State) where
  member : BranchCommand
  /-- The commands of the block that have run. -/
  earlier : List Command
  failing : Command
  later : List Command
  block : command.block = some (earlier ++ failing :: later)
  /-- The state in which the block is entered. -/
  entry : State
  enters : command.begin host state =
    .ok (.branch member, .block (earlier ++ failing :: later)) entry
  message : entry.message = state.message
  log : entry.log = state.log
  flags : entry.flags = { state.flags with inProlog := false }
  scopes : entry.scopes = member.noted state.scopes
  /-- The state that the commands before the failing one lead to. -/
  before : State
  ran : evaluateCommands host earlier { entry with scopes := entry.scopes.push } =
    .ok .proceed before
  /-- The state in which the failing command ends. -/
  inner : State
  failed : evaluateCommand host failing before = .error error inner
  left : after = { inner with scopes := entry.scopes }

section Inside

variable {host : Host} {command : Command} {state after entry : State} {error : RunError}
  {member : BranchCommand} {commands : List Command}

/-- A branch comes to its block with nothing done but to ask its guard and to note that it held. -/
theorem Command.entry_of_begin
    (began : command.begin host state = .ok (.branch member, .block commands) entry) :
    entry = { state.pastProlog with
      coordinate := entry.coordinate
      calls := entry.calls
      scopes := member.noted state.scopes } := by
  obtain ⟨reached, prepared, acted⟩ := begin_eq_ok_iff.mp began
  obtain ⟨admitted, rfl⟩ := prepare_eq_ok_iff.mp prepared
  have own := block_eq_of_begin began
  -- a branch comes to its block over its guard, or else it is a fallback and has none
  by_cases asks : Asks member state
  · obtain ⟨test, read⟩ := admitted.exists_singleTest asks
    rw [act_of_asks asks read own] at acted
    have asked := observing.le_finalState host test (command.entered (.branch member) state)
    cases answered : evaluateTest host test (command.entered (.branch member) state) with
    | error reason between => simp [answered] at acted
    | ok holds between =>
        rw [Run.finalState_of_ok answered] at asked
        simp only [answered] at acted
        cases holds with
        | false => cases acted
        | true =>
            cases acted
            rw [show between = _ from asked]
            rcases asks with rfl | ⟨rfl, -⟩ <;> rfl
  · obtain ⟨next, performed, finished | rfl⟩ := act_of_not_asks host asks own
    · rw [performed, finished] at acted
      cases acted
    · rw [performed] at acted
      cases acted
      rfl

/-- A list of commands fails in the first of them that does. -/
theorem exists_failing_of_evaluateCommands
    (failed : evaluateCommands host commands state = .error error after) :
    ∃ earlier failing later before, commands = earlier ++ failing :: later ∧
      evaluateCommands host earlier state = .ok .proceed before ∧
      evaluateCommand host failing before = .error error after := by
  have halts : (evaluateCommands host commands).Halts state := by
    intro other proceeds
    rw [failed] at proceeds
    cases proceeds
  obtain ⟨earlier, failing, later, before, rfl, ran, stays⟩ :=
    exists_halting_of_evaluateCommands halts
  refine ⟨earlier, failing, later, before, rfl, ran, ?_⟩
  rw [evaluateCommands_append_of_proceed ran, evaluateCommands_of_halts stays] at failed
  exact failed

/-- **A branch whose block fails** leaves behind what the commands of the block have done. -/
theorem Command.FailsAt.blockFailure (failsAt : command.FailsAt host state .inside error after) :
    Nonempty (command.BlockFailure host state error after) := by
  cases failsAt with
  | @inside member commands entry _ _ began failed =>
      have entered := entry_of_begin began
      have chains := scopes_finalState_evaluateBlock host commands entry
      rw [Run.finalState_of_error failed] at chains
      obtain ⟨inner, ran, left⟩ := Run.exists_of_inScope_eq_error failed
      -- one command of the block has failed, and those before it have succeeded
      obtain ⟨earlier, failing, later, before, rfl, proceeds, failedThere⟩ :=
        exists_failing_of_evaluateCommands ran
      exact ⟨{
        member, entry, earlier, failing, later, before, inner
        block := block_eq_of_begin began
        enters := began
        message := by rw [entered]; rfl
        log := by rw [entered]; rfl
        flags := by rw [entered]; rfl
        scopes := by rw [entered]
        ran := proceeds
        failed := failedThere
        left := by rw [← chains, left] }⟩

end Inside

section Culprit

variable {host : Host}

/-- What is a boundary of a list is one if more commands stand behind it. -/
theorem Boundary.append_right {commands : List Command} {state boundary : State}
    (reached : Boundary host commands state boundary) (later : List Command) :
    Boundary host (commands ++ later) state boundary := by
  induction reached with
  | start commands state => exact .start _ state
  | after command rest state => exact .after command (rest ++ later) state
  | later proceeds behind ih => exact .later proceeds ih
  | inside enters inner ih => exact .inside enters inner

/-- What is a boundary behind commands that have run is one of the whole list. -/
theorem Boundary.append_left {earlier later : List Command} {state between boundary : State}
    (ran : evaluateCommands host earlier state = .ok .proceed between)
    (reached : Boundary host later between boundary) :
    Boundary host (earlier ++ later) state boundary := by
  induction earlier generalizing state with
  | nil =>
      cases ran
      exact reached
  | cons command rest ih =>
      obtain ⟨next, proceeds, behind⟩ := exists_of_evaluateCommands_cons ran
      exact .later proceeds (ih behind)

/-- **The culprit.**  Behind every failure there is one command, the command itself or one that it
has come to in its blocks, that fails before its block.  What had been done when that one was
started is all that is left: the message, the log and the flags for actions are as they were
there. -/
theorem exists_culprit {command : Command} {state after : State} {error : RunError}
    (failed : evaluateCommand host command state = .error error after) :
    ∃ (culprit : Command) (before reached : State) (step : FailedStep),
      Boundary host [command] state before ∧
      step ≠ .inside ∧ culprit.FailsAt host before step error reached ∧
      after.message = before.message ∧ after.log = before.log ∧
      after.flags.hasActions = before.flags.hasActions ∧
      after.flags.rejected = before.flags.rejected := by
  induction command using Command.induction generalizing state after error with
  | node name arguments block coordinate nested =>
      obtain ⟨step, failsAt⟩ := evaluateCommand_eq_error_iff.mp failed
      by_cases within : step = .inside
      · subst within
        obtain ⟨failure⟩ := failsAt.blockFailure
        have own : block = some (failure.earlier ++ failure.failing :: failure.later) :=
          failure.block
        obtain ⟨culprit, before, reached, step, boundary, own, failsThere, left⟩ :=
          nested failure.failing (by simp [own]) failure.failed
        refine ⟨culprit, before, reached, step, ?_, own, failsThere, ?_⟩
        · exact .inside failure.enters (.append_left failure.ran (boundary.append_right _))
        · rw [failure.left]
          exact left
      · have spared := failsAt.spares within
        exact ⟨_, state, after, step, .start _ state, within, failsAt, spared.message, spared.log,
          spared.hasActions, spared.rejected⟩

end Culprit

/-- **A failing command changes nothing it should not.**  It fails at one of the steps, with the
error and in the state of that step.  At every step but the last it leaves the message, the log, the
open chains and the flags as they were, except that the prolog is over if the command has passed its
state validation and is no `require`.  Only if its block fails there are effects, and these are what
the commands of the block have done up to the one that failed, and the note on the guard. -/
theorem failure_contained (host : Host) (command : Command) (state : State) (error : RunError)
    (after : State) :
    (evaluateCommand host command state = .error error after ↔
      ∃ step, command.FailsAt host state step error after) ∧
    (∀ step ≠ .inside, command.FailsAt host state step error after →
      command.Spares host state after) ∧
    (command.FailsAt host state .inside error after →
      Nonempty (command.BlockFailure host state error after)) :=
  ⟨evaluateCommand_eq_error_iff, fun _ before failsAt => failsAt.spares before,
    Command.FailsAt.blockFailure⟩

/-- `redirect "a@b.org";` -/
def forwarding : Command where
  name := "redirect"
  arguments := { args := [.stringList ["a@b.org"]] }

/-- `if true { keep; redirect "a@b.org"; log "over"; }` -/
def forwardingBranch : Command where
  name := "if"
  arguments := { tests := some [{ name := "true" }] }
  block := some [
    { name := "keep" },
    forwarding,
    { name := "log", arguments := { args := [.stringList ["over"]] } }]

/-- A message that refuses the `redirect` is left as it was by it, but for the prolog.  The `if`
around it leaves the action of the `keep` and the note on its guard. -/
theorem failure_contained_forwardingBranch :
    let host : Host :=
      { registries := .builtin
        failures := .ofRules [⟨.addAction, some "redirect", .actionRefused "full"⟩] }
    (∃ error after, evaluateCommand host forwarding {} = .error error after ∧
      forwarding.FailsAt host {} .execution error after ∧
      forwarding.Spares host {} after ∧ after.flags.inProlog = false) ∧
    ∃ error after, evaluateCommand host forwardingBranch {} = .error error after ∧
      forwardingBranch.FailsAt host {} .inside error after ∧
      Nonempty (forwardingBranch.BlockFailure host {} error after) ∧
      after.message.pending = [.keep] ∧ after.log = [] ∧ after.scopes = { current := some true } := by
  intro host
  constructor
  · have admitted : forwarding.Admitted host (.action .redirect) {} :=
      ⟨Registries.create_builtin_command (.action .redirect), rfl, by decide +kernel, rfl⟩
    have failsAt : forwarding.FailsAt host {} .execution _ _ := .execution admitted nofun rfl
    obtain ⟨steps, spared, -⟩ := failure_contained host forwarding {} _ _
    exact ⟨_, _, steps.mpr ⟨_, failsAt⟩, failsAt, spared .execution nofun failsAt, rfl⟩
  · let outcome := (evaluateCommand host forwardingBranch).outcome {}
    have unsuccessful : outcome.result.toOption = none := by decide +kernel
    have effects : outcome.state.message.pending = [.keep] ∧ outcome.state.log = [] ∧
        outcome.state.scopes = { current := some true } := by
      decide +kernel
    cases ended : evaluateCommand host forwardingBranch {} with
    | ok flow after =>
        have succeeded : outcome = ⟨.ok flow, after⟩ := Run.outcome_of_ok ended
        rw [succeeded] at unsuccessful
        cases unsuccessful
    | error error after =>
        have failed : outcome = ⟨.error error, after⟩ := Run.outcome_of_error ended
        rw [failed] at effects
        obtain ⟨steps, spared, contained⟩ :=
          failure_contained host forwardingBranch {} error after
        obtain ⟨step, failsAt⟩ := steps.mp ended
        -- there is an action, so it is the block that has failed
        obtain rfl : step = .inside := by
          by_contra before
          have untouched := (spared step before failsAt).message
          rw [untouched] at effects
          cases effects.1
        exact ⟨error, after, rfl, failsAt, contained failsAt, effects⟩

end MailSieve
