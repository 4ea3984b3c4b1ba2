import MailSieve.Proofs.Boundary
import MailSieve.Proofs.Chain

/-!
# The step at which a command fails

The evaluation of a command can fail when its name is looked up, when its implementation is made,
for one of its checks, when it is executed, for its guard, and in its block.  Each of these steps
comes with the error that it fails with and the state that it leaves.

* `FailedStep` names the steps, and `Command.FailsAt` says what has happened when one fails.
* `Command.Admitted`: a command that has passed its checks, and `Command.entered` is the state in
  which it is then executed.
* `Command.act_of_asks` and `Command.act_of_not_asks`: what a branch does itself.
* `Command.begin_eq_error_iff_failsAt`: the steps before the block are those at which a command
  fails before its block.
* `evaluateCommand_eq_error_iff`: the steps are all there are.
-/

namespace MailSieve

/-- The step at which the evaluation of a command fails. -/
inductive FailedStep where
  /-- There is nothing behind the name. -/
  | lookup
  /-- What is behind the name cannot be made. -/
  | construction
  /-- The command may not stand where it does. -/
  | order
  | arguments
  | block
  /-- The execution of a command that is no branch. -/
  | execution
  /-- The guard of an `if` or an `elsif`. -/
  | guard
  /-- The block of a branch. -/
  | inside
  deriving DecidableEq

/-- The step is one of those before the execution. -/
def FailedStep.IsCheck : FailedStep → Prop
  | lookup | construction | order | arguments | block => True
  | execution | guard | inside => False

namespace Command

/-- The command has passed all checks, and is to be executed. -/
structure Admitted (host : Host) (implementation : BuiltinCommand) (command : Command)
    (state : State) : Prop where
  made : host.registries.commands.create command.name = .ok implementation
  placed : implementation.validateState state = .ok ()
  shaped : implementation.validateArguments command.arguments = .ok ()
  blocked : implementation.validateBlock command.block = .ok ()

/-- The state in which a command is executed, and in which it ends if its arguments or its block are
at fault. -/
def entered (implementation : BuiltinCommand) (command : Command) (state : State) : State :=
  { state with
    coordinate := command.coordinate
    flags := implementation.enterFlags state.flags }

/-- **The evaluation of a command fails at a step**, with an error and in a state. -/
inductive FailsAt (host : Host) (command : Command) (state : State) :
    FailedStep → RunError → State → Prop
  | lookup (missing : host.registries.commands.find? command.name = none) :
      FailsAt host command state .lookup
        ⟨.notMapped .command command.name, command.coordinate⟩
        { state with coordinate := command.coordinate }
  | construction {reason : String}
      (unmade : host.registries.commands.find? command.name = some (.error reason)) :
      FailsAt host command state .construction
        ⟨.notCreated .command command.name reason, command.coordinate⟩
        { state with coordinate := command.coordinate }
  | order {implementation : BuiltinCommand} {fault : OrderFault}
      (made : host.registries.commands.create command.name = .ok implementation)
      (misplaced : implementation.validateState state = .error fault) :
      FailsAt host command state .order ⟨.order fault, command.coordinate⟩
        { state with coordinate := command.coordinate }
  | arguments {implementation : BuiltinCommand} {fault : ShapeFault}
      (made : host.registries.commands.create command.name = .ok implementation)
      (placed : implementation.validateState state = .ok ())
      (misshaped : implementation.validateArguments command.arguments = .error fault) :
      FailsAt host command state .arguments ⟨.shape fault, command.coordinate⟩
        (command.entered implementation state)
  | block {implementation : BuiltinCommand} {fault : ShapeFault}
      (made : host.registries.commands.create command.name = .ok implementation)
      (placed : implementation.validateState state = .ok ())
      (shaped : implementation.validateArguments command.arguments = .ok ())
      (misblocked : implementation.validateBlock command.block = .error fault) :
      FailsAt host command state .block ⟨.shape fault, command.coordinate⟩
        (command.entered implementation state)
  | execution {implementation : BuiltinCommand} {error : RunError} {after : State}
      (admitted : command.Admitted host implementation state)
      (other : ∀ member, implementation ≠ .branch member)
      (failed : implementation.act host (command.arguments.map (evaluateTest host)) command.block
        (command.entered implementation state) = .error error after) :
      FailsAt host command state .execution error after
  | guard {member : BranchCommand} {test : Test} {error : RunError} {after : State}
      (admitted : command.Admitted host (.branch member) state) (asks : Asks member state)
      (read : command.arguments.singleTest = .ok test)
      (failed : evaluateTest host test (command.entered (.branch member) state) =
        .error error after) :
      FailsAt host command state .guard error after
  | inside {member : BranchCommand} {commands : List Command} {entry : State} {error : RunError}
      {after : State}
      (began : command.begin host state = .ok (.branch member, .block commands) entry)
      (failed : evaluateBlock host commands entry = .error error after) :
      FailsAt host command state .inside error after

end Command

section Steps

variable {host : Host} {command : Command} {state after : State} {error : RunError}
  {implementation : BuiltinCommand}

/-- The checks are passed by a command that is admitted. -/
theorem Command.prepare_eq_ok_iff {reached : State} :
    BuiltinCommand.prepare host command.name (command.arguments.map (evaluateTest host))
        command.block command.coordinate state = .ok implementation reached ↔
      command.Admitted host implementation state ∧
        reached = command.entered implementation state := by
  rw [BuiltinCommand.prepare_eq_ok_iff, BuiltinCommand.validateArguments_map]
  constructor
  · rintro ⟨made, placed, shaped, blocked, reached⟩
    exact ⟨⟨made, placed, shaped, blocked⟩, reached⟩
  · rintro ⟨⟨made, placed, shaped, blocked⟩, reached⟩
    exact ⟨made, placed, shaped, blocked, reached⟩

/-- Without an implementation a command fails at its lookup or at its construction. -/
theorem Command.exists_failsAt_of_create {cause : Cause}
    (unmade : host.registries.commands.create command.name = .error cause) :
    ∃ step, step.IsCheck ∧ command.FailsAt host state step ⟨cause, command.coordinate⟩
      { state with coordinate := command.coordinate } := by
  rw [Registry.create] at unmade
  cases found : host.registries.commands.find? command.name with
  | none =>
      rw [found] at unmade
      cases unmade
      exact ⟨.lookup, trivial, .lookup found⟩
  | some constructor =>
      cases constructor with
      | ok implementation => simp [found] at unmade
      | error reason =>
          rw [found] at unmade
          cases unmade
          exact ⟨.construction, trivial, .construction found⟩

/-- The checks fail one by one. -/
theorem Command.prepare_eq_error_iff :
    BuiltinCommand.prepare host command.name (command.arguments.map (evaluateTest host))
        command.block command.coordinate state = .error error after ↔
      ∃ step, step.IsCheck ∧ command.FailsAt host state step error after := by
  rw [BuiltinCommand.prepare_apply]
  constructor
  · intro failed
    -- the checks in the order in which they are made: the first that fails is the step
    cases made : host.registries.commands.create command.name with
    | error cause =>
        rw [made] at failed
        cases failed
        exact exists_failsAt_of_create made
    | ok implementation =>
        simp only [made, BuiltinCommand.validateArguments_map] at failed
        cases placed : implementation.validateState state with
        | error fault =>
            rw [placed] at failed
            cases failed
            exact ⟨.order, trivial, .order made placed⟩
        | ok passed =>
            rw [placed] at failed
            cases shaped : implementation.validateArguments command.arguments with
            | error fault =>
                simp only [shaped] at failed
                cases failed
                exact ⟨.arguments, trivial, .arguments made placed shaped⟩
            | ok passed =>
                cases blocked : implementation.validateBlock command.block with
                | ok passed => simp [shaped, blocked] at failed
                | error fault =>
                    simp only [shaped, blocked] at failed
                    cases failed
                    exact ⟨.block, trivial, .block made placed shaped blocked⟩
  · rintro ⟨step, isCheck, failed⟩
    -- a step that fails says of all checks before it that they have passed
    cases failed with
    | lookup missing => simp only [Registry.create, missing]
    | construction unmade => simp only [Registry.create, unmade]
    | order made misplaced => simp only [made, misplaced]
    | arguments made placed misshaped =>
        simp only [made, placed, BuiltinCommand.validateArguments_map, misshaped, entered]
    | block made placed shaped misblocked =>
        simp only [made, placed, BuiltinCommand.validateArguments_map, shaped, misblocked, entered]
    | execution | guard | inside => cases isCheck

/-- The guard of a branch is there once the arguments have been looked at. -/
theorem Command.Admitted.exists_singleTest {member : BranchCommand}
    (admitted : command.Admitted host (.branch member) state) (asks : Asks member state) :
    ∃ test, command.arguments.singleTest = .ok test := by
  have shaped := admitted.shaped
  cases read : command.arguments.singleTest with
  | ok test => exact ⟨test, rfl⟩
  | error fault =>
      rcases asks with rfl | ⟨rfl, -⟩ <;>
        simp [BuiltinCommand.validateArguments, read, bind, Except.bind] at shaped

/-- The block of a branch is there once it has been looked at. -/
theorem Command.Admitted.exists_block {member : BranchCommand}
    (admitted : command.Admitted host (.branch member) state) :
    ∃ commands, command.block = some commands := by
  have blocked := admitted.blocked
  cases own : command.block with
  | some commands => exact ⟨commands, rfl⟩
  | none =>
      rw [own] at blocked
      cases blocked

/-- What a member does itself that asks its guard. -/
theorem Command.act_of_asks {member : BranchCommand} {test : Test} {commands : List Command}
    (asks : Asks member state) (read : command.arguments.singleTest = .ok test)
    (own : command.block = some commands) :
    (BuiltinCommand.branch member).act host (command.arguments.map (evaluateTest host))
        command.block (command.entered (.branch member) state) =
      match evaluateTest host test (command.entered (.branch member) state) with
      | .error error asked => .error error asked
      | .ok holds asked =>
          .ok (if holds then .block commands else .done .proceed)
            { asked with scopes := asked.scopes.record holds } := by
  have found : (command.arguments.map (evaluateTest host)).singleTest =
      .ok (evaluateTest host test) := by
    rw [ArgumentsOf.singleTest_map, read]
    rfl
  have guarded : (BuiltinCommand.branch member).act host
      (command.arguments.map (evaluateTest host)) (some commands)
        (command.entered (.branch member) state) =
      BuiltinCommand.actGuarded (command.arguments.map (evaluateTest host)) (some commands)
        (command.entered (.branch member) state) := by
    rcases asks with rfl | ⟨rfl, untaken⟩
    · rfl
    · simp only [BuiltinCommand.act, Run.get_bind_apply, Command.entered, untaken, if_true]
  rw [own, guarded]
  exact BuiltinCommand.actGuarded_apply found commands _

/-- A member that does not ask a guard does nothing itself, and only the block of a fallback can
come next. -/
theorem Command.act_of_not_asks (host : Host) {member : BranchCommand} {commands : List Command}
    (silent : ¬ Asks member state) (own : command.block = some commands) :
    ∃ next, (BuiltinCommand.branch member).act host (command.arguments.map (evaluateTest host))
        command.block (command.entered (.branch member) state) =
      .ok next (command.entered (.branch member) state) ∧
        (next = .done .proceed ∨ member = .fallback) := by
  cases member with
  | opening => exact absurd (.inl rfl) silent
  | alternative =>
      have taken : state.scopes.current ≠ some false := fun untaken => silent (.inr ⟨rfl, untaken⟩)
      refine ⟨.done .proceed, ?_, .inl rfl⟩
      simp only [BuiltinCommand.act, Run.get_bind_apply, Command.entered, if_neg taken,
        Run.pure_apply]
  | fallback =>
      rw [own, BuiltinCommand.act, Run.get_bind_apply]
      by_cases untaken : state.scopes.current = some false
      · refine ⟨.block commands, ?_, .inr rfl⟩
        rw [Command.entered, if_pos untaken]
        rfl
      · refine ⟨.done .proceed, ?_, .inl rfl⟩
        rw [Command.entered, if_neg untaken]
        rfl

/-- **Behind the checks** a command fails on its own part in its execution, or for its guard if it
is a branch. -/
theorem Command.act_eq_error_iff (admitted : command.Admitted host implementation state) :
    implementation.act host (command.arguments.map (evaluateTest host)) command.block
        (command.entered implementation state) = .error error after ↔
      command.FailsAt host state .execution error after ∨
        command.FailsAt host state .guard error after := by
  constructor
  · intro failed
    -- of an admitted branch only the guard can fail, of any other command only its own part
    by_cases isBranch : ∃ member, implementation = .branch member
    · obtain ⟨member, rfl⟩ := isBranch
      obtain ⟨commands, own⟩ := admitted.exists_block
      by_cases asks : Asks member state
      · obtain ⟨test, read⟩ := admitted.exists_singleTest asks
        rw [act_of_asks asks read own] at failed
        cases asked : evaluateTest host test (command.entered (.branch member) state) with
        | ok holds between => simp [asked] at failed
        | error reason between =>
            simp only [asked] at failed
            cases failed
            exact .inr (.guard admitted asks read asked)
      · obtain ⟨next, acted, -⟩ := act_of_not_asks host asks own
        rw [acted] at failed
        cases failed
    · exact .inl (.execution admitted (fun member is => isBranch ⟨member, is⟩) failed)
  · have same : ∀ {other}, command.Admitted host other state → other = implementation := by
      intro other also
      exact Except.ok.inj (also.made.symm.trans admitted.made)
    -- both steps speak of the implementation that the name stands for, so of this one
    rintro (failed | failed)
    · cases failed with
      | execution also other failed =>
          obtain rfl := same also
          exact failed
    · cases failed with
      | guard also asks read failed =>
          obtain rfl := same also
          obtain ⟨commands, own⟩ := admitted.exists_block
          rw [act_of_asks asks read own, failed]

/-- A command fails before its block at one of the steps there. -/
theorem Command.begin_eq_error_iff_failsAt :
    command.begin host state = .error error after ↔
      ∃ step, step ≠ .inside ∧ command.FailsAt host state step error after := by
  rw [begin_eq_error_iff]
  constructor
  · rintro (failed | ⟨implementation, reached, prepared, failed⟩)
    · obtain ⟨step, isCheck, failsAt⟩ := prepare_eq_error_iff.mp failed
      refine ⟨step, ?_, failsAt⟩
      rintro rfl
      exact isCheck
    · obtain ⟨admitted, rfl⟩ := prepare_eq_ok_iff.mp prepared
      rcases (act_eq_error_iff admitted).mp failed with failsAt | failsAt
      · exact ⟨.execution, nofun, failsAt⟩
      · exact ⟨.guard, nofun, failsAt⟩
  · rintro ⟨step, before, failsAt⟩
    by_cases isCheck : step.IsCheck
    · exact .inl (prepare_eq_error_iff.mpr ⟨step, isCheck, failsAt⟩)
    · right
      cases failsAt with
      | lookup | construction | order | arguments | block => exact absurd trivial isCheck
      | execution admitted other failed =>
          exact ⟨_, _, prepare_eq_ok_iff.mpr ⟨admitted, rfl⟩, failed⟩
      | guard admitted asks read failed =>
          exact ⟨_, _, prepare_eq_ok_iff.mpr ⟨admitted, rfl⟩,
            (act_eq_error_iff admitted).mpr (.inr (.guard admitted asks read failed))⟩
      | inside => exact absurd rfl before

/-- A command that comes to its block is a branch. -/
theorem Command.exists_branch_of_begin {commands : List Command}
    (began : command.begin host state = .ok (implementation, .block commands) after) :
    ∃ member, implementation = .branch member := by
  obtain ⟨reached, prepared, -⟩ := begin_eq_ok_iff.mp began
  obtain ⟨admitted, -⟩ := prepare_eq_ok_iff.mp prepared
  have blocked := admitted.blocked
  rw [block_eq_of_begin began] at blocked
  cases implementation with
  | branch member => exact ⟨member, rfl⟩
  | _ => cases blocked

/-- **The steps are all there are**: a command fails with an error and in a state just if it does so
at one of them. -/
theorem evaluateCommand_eq_error_iff :
    evaluateCommand host command state = .error error after ↔
      ∃ step, command.FailsAt host state step error after := by
  constructor
  · intro failed
    rcases exists_of_evaluateCommand_eq_error failed with
      own | ⟨implementation, commands, entry, began, -, inside⟩
    · obtain ⟨step, -, failsAt⟩ := Command.begin_eq_error_iff_failsAt.mp own
      exact ⟨step, failsAt⟩
    · obtain ⟨member, rfl⟩ := Command.exists_branch_of_begin began
      exact ⟨.inside, .inside began inside⟩
  · rintro ⟨step, failsAt⟩
    by_cases within : step = .inside
    · subst within
      cases failsAt with
      | inside began failed => simp only [evaluateCommand_apply, began, Next.run, failed]
    · exact evaluateCommand_of_begin_error
        (Command.begin_eq_error_iff_failsAt.mpr ⟨step, within, failsAt⟩)

end Steps

end MailSieve
