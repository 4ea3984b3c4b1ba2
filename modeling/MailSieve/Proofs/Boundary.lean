import MailSieve.Proofs.Run

/-!
# Command boundaries

A property that holds after every command need not hold after every step of one: an action is
collected before the flags say so.  The states between commands are the boundaries of a run, at
every depth of blocks.

* `Command.begin` is what a command does before its block.  With it the evaluation of a command is
  a beginning, perhaps a block, and a conclusion that cannot fail (`evaluateCommand_apply`).
* `Boundary` is inductive in the run: before a list of commands, after each of its commands however
  that ended, and inside the blocks that are entered.
* `BoundaryInvariant` lists what one command has to keep, and `BoundaryInvariant.of_boundary` is
  the conclusion for whole runs.
-/

namespace MailSieve

/-- What a command does before its block, and whether the block is next. -/
def Command.begin (host : Host) (command : Command) :
    Run (BuiltinCommand × Next (List Command)) := do
  let guards := command.arguments.map (evaluateTest host)
  let implementation ←
    BuiltinCommand.prepare host command.name guards command.block command.coordinate
  let next ← implementation.act host guards command.block
  pure (implementation, next)

section Begin

/-- The block that comes next is the one the command has. -/
theorem BuiltinCommand.eq_some_of_act_eq_block {β : Type} {host : Host} {command : BuiltinCommand}
    {arguments : ArgumentsOf (Run Bool)} {block : Option β} {inner : β} {state after : State}
    (acted : command.act host arguments block state = .ok (.block inner) after) :
    block = some inner := by
  rw [← Option.attach_map_subtype_val block, act_map, map_eq_pure_bind] at acted
  obtain ⟨next, between, -, mapped⟩ := Run.bind_eq_ok_iff.mp acted
  cases next with
  | done flow => cases mapped
  | block found =>
      obtain ⟨commands, present⟩ := found
      cases mapped
      exact present

/-- The checks change nothing but the position and the flags. -/
theorem BuiltinCommand.exists_flags_of_prepare {β : Type} (host : Host) (name : String)
    (arguments : ArgumentsOf (Run Bool)) (block : Option β) (coordinate : Coordinate)
    (state : State) :
    ∃ flags, (prepare host name arguments block coordinate).finalState state =
      { state with coordinate, flags } := by
  rw [Run.finalState, prepare_apply]
  cases host.registries.commands.create name with
  | error cause => exact ⟨state.flags, rfl⟩
  | ok command =>
      dsimp only
      cases command.validateState state with
      | error fault => exact ⟨state.flags, rfl⟩
      | ok placed =>
          refine ⟨command.enterFlags state.flags, ?_⟩
          cases command.validateArguments arguments with
          | error fault => rfl
          | ok shaped => cases command.validateBlock block <;> rfl

variable {host : Host} {command : Command} {state after : State}

/-- A command comes through its first part just if its checks pass and what it does itself
succeeds. -/
theorem Command.begin_eq_ok_iff {implementation : BuiltinCommand} {next : Next (List Command)} :
    command.begin host state = .ok (implementation, next) after ↔
      ∃ entered,
        BuiltinCommand.prepare host command.name (command.arguments.map (evaluateTest host))
          command.block command.coordinate state = .ok implementation entered ∧
        implementation.act host (command.arguments.map (evaluateTest host)) command.block entered =
          .ok next after := by
  constructor
  · intro began
    obtain ⟨made, entered, prepared, rest⟩ := Run.bind_eq_ok_iff.mp began
    obtain ⟨found, acted, performed, last⟩ := Run.bind_eq_ok_iff.mp rest
    cases last
    exact ⟨entered, prepared, performed⟩
  · rintro ⟨entered, prepared, performed⟩
    unfold begin
    rw [Run.bind_of_ok prepared, Run.bind_of_ok performed]
    rfl

/-- The block that comes next is that of the command. -/
theorem Command.block_eq_of_begin {implementation : BuiltinCommand} {inner : List Command}
    (began : command.begin host state = .ok (implementation, .block inner) after) :
    command.block = some inner := by
  obtain ⟨entered, -, acted⟩ := Command.begin_eq_ok_iff.mp began
  exact BuiltinCommand.eq_some_of_act_eq_block acted

/-- A command fails in its first part just if a check fails, or else what it does itself. -/
theorem Command.begin_eq_error_iff {error : RunError} :
    command.begin host state = .error error after ↔
      BuiltinCommand.prepare host command.name (command.arguments.map (evaluateTest host))
          command.block command.coordinate state = .error error after ∨
        ∃ implementation entered,
          BuiltinCommand.prepare host command.name (command.arguments.map (evaluateTest host))
            command.block command.coordinate state = .ok implementation entered ∧
          implementation.act host (command.arguments.map (evaluateTest host)) command.block
            entered = .error error after := by
  constructor
  · intro began
    rcases Run.bind_eq_error_iff.mp began with failed | ⟨made, entered, prepared, rest⟩
    · exact .inl failed
    · rcases Run.bind_eq_error_iff.mp rest with failed | ⟨found, acted, performed, last⟩
      · exact .inr ⟨made, entered, prepared, failed⟩
      · cases last
  · rintro (failed | ⟨implementation, entered, prepared, failed⟩) <;> unfold begin
    · exact Run.bind_of_error failed
    · rw [Run.bind_of_ok prepared, Run.bind_of_error failed]

/-- Up to its block a command ends where its checks end if these fail, and else where its own part
ends. -/
theorem Command.finalState_begin (host : Host) (command : Command) (state : State) :
    (command.begin host).finalState state =
      match BuiltinCommand.prepare host command.name (command.arguments.map (evaluateTest host))
          command.block command.coordinate state with
      | .error _ after => after
      | .ok implementation entered =>
          (implementation.act host (command.arguments.map (evaluateTest host))
            command.block).finalState entered := by
  rw [begin, Run.finalState_bind]
  cases BuiltinCommand.prepare host command.name (command.arguments.map (evaluateTest host))
      command.block command.coordinate state with
  | error error after => rfl
  | ok implementation entered =>
      dsimp only
      rw [Run.finalState_bind, Run.finalState]
      cases implementation.act host (command.arguments.map (evaluateTest host)) command.block
        entered <;> rfl

/-- A command that is no action goes forward on its own part. -/
theorem ControlOrder.le_of_begin (order : ControlOrder) {implementation : BuiltinCommand}
    {next : Next (List Command)} (other : implementation.kind ≠ .action)
    (began : command.begin host state = .ok (implementation, next) after) :
    order.le state after := by
  obtain ⟨entered, prepared, acted⟩ := Command.begin_eq_ok_iff.mp began
  have before := (order.correspondence host).related_prepare command.name command.arguments
    (evaluateTest host) (evaluateTest host) command.block command.coordinate state
  have own := (order.correspondence host).related_act_of_kind_ne other command.arguments
    command.block (fun guard _ => (order.correspondence host).related_evaluateTest guard) entered
  rw [Run.finalState_of_ok prepared] at before
  rw [Run.finalState_of_ok acted] at own
  exact order.trans before own

/-- A command that fails on its own part has gone forward, be it an action or not. -/
theorem ControlOrder.le_of_begin_eq_error (order : ControlOrder) {error : RunError}
    (began : command.begin host state = .error error after) : order.le state after := by
  have before := (order.correspondence host).related_prepare command.name command.arguments
    (evaluateTest host) (evaluateTest host) command.block command.coordinate state
  rcases Command.begin_eq_error_iff.mp began with
    failed | ⟨implementation, entered, prepared, failed⟩
  · rwa [Run.finalState_of_error failed] at before
  · rw [Run.finalState_of_ok prepared] at before
    refine order.trans before ?_
    by_cases isAction : implementation.kind = .action
    · obtain ⟨action, rfl⟩ := BuiltinCommand.eq_action_of_kind_eq isAction
      exact order.le_of_act_action_eq_error failed
    · have own := (order.correspondence host).related_act_of_kind_ne isAction command.arguments
        command.block (fun guard _ => (order.correspondence host).related_evaluateTest guard)
        entered
      rwa [Run.finalState_of_error failed] at own

/-- A `require` leaves the state as it is. -/
theorem BuiltinCommand.finalState_act_require {β : Type} (host : Host)
    (arguments : ArgumentsOf (Run Bool)) (block : Option β) (state : State) :
    (require.act host arguments block).finalState state = state := by
  rw [Run.finalState, act_require_apply]
  cases arguments.stringList with
  | error fault => rfl
  | ok features =>
      dsimp only
      cases features.find? (!host.registries.supportsFeature ·) <;> rfl

/-- What an action command has done when it has not failed. -/
theorem BuiltinCommand.act_action_eq_ok {β : Type} {own : ActionCommand}
    {arguments : ArgumentsOf (Run Bool)} {block : Option β} {next : Next β}
    (acted : (action own).act host arguments block state = .ok next after) :
    next = .done .proceed ∧ ∃ asked, own.actionOf arguments = .ok asked ∧
      after = { state with
        message := state.message.addAction asked
        calls := state.calls ++ [.addAction asked] } := by
  rw [act_action_apply] at acted
  split at acted
  · cases acted
  · rename_i asked read
    split at acted
    · cases acted
    · cases acted
      exact ⟨rfl, asked, read, rfl⟩

/-- An action has no block to run. -/
theorem Command.kind_ne_action_of_begin {implementation : BuiltinCommand}
    {commands : List Command}
    (began : command.begin host state = .ok (implementation, .block commands) after) :
    implementation.kind ≠ .action := by
  intro isAction
  obtain ⟨own, rfl⟩ := BuiltinCommand.eq_action_of_kind_eq isAction
  -- an action that has acted is over
  obtain ⟨entered, prepared, acted⟩ := Command.begin_eq_ok_iff.mp began
  cases (BuiltinCommand.act_action_eq_ok acted).1

/-- **The evaluation of a command**: a beginning, perhaps a block, and a conclusion. -/
theorem evaluateCommand_apply (host : Host) (command : Command) (state : State) :
    evaluateCommand host command state =
      match command.begin host state with
      | .error error after => .error error after
      | .ok (implementation, next) after =>
          match next.run (evaluateBlock host) after with
          | .error error reached => .error error reached
          | .ok flow reached => .ok flow (implementation.concluded command.coordinate reached) := by
  have phases : evaluateCommand host command = (do
      let (implementation, next) ← command.begin host
      let flow ← next.run (evaluateBlock host)
      implementation.conclude command.coordinate
      pure flow) := by
    rw [evaluateCommand_eq, Command.begin]
    simp only [bind_assoc, pure_bind]
  rw [phases, Run.bind_apply]
  cases command.begin host state with
  | error error after => rfl
  | ok begun after =>
      obtain ⟨implementation, next⟩ := begun
      simp only [Run.bind_apply]
      cases next.run (evaluateBlock host) after <;> rfl

/-- A command that fails in its first part fails with that error. -/
theorem evaluateCommand_of_begin_error {error : RunError}
    (began : command.begin host state = .error error after) :
    evaluateCommand host command state = .error error after := by
  rw [evaluateCommand_apply, began]

/-- A command without a block to run is concluded right behind its first part. -/
theorem evaluateCommand_of_begin_done {implementation : BuiltinCommand} {flow : Flow}
    (began : command.begin host state = .ok (implementation, .done flow) after) :
    evaluateCommand host command state =
      .ok flow (implementation.concluded command.coordinate after) := by
  rw [evaluateCommand_apply, began]
  rfl

/-- A command that comes to its block ends in the state in which the block ends, with the conclusion
behind it unless the block has failed. -/
theorem finalState_evaluateCommand_of_begin_block {implementation : BuiltinCommand}
    {inner : List Command}
    (began : command.begin host state = .ok (implementation, .block inner) after) :
    let left := (evaluateBlock host inner).finalState after
    (evaluateCommand host command).finalState state = left ∨
      (evaluateCommand host command).finalState state =
        implementation.concluded command.coordinate left := by
  intro left
  have ended := evaluateCommand_apply host command state
  simp only [began, Next.run] at ended
  cases ran : evaluateBlock host inner after with
  | error error reached =>
      simp only [ran] at ended
      rw [Run.finalState_of_error ended]
      exact .inl (Run.finalState_of_error ran).symm
  | ok flow reached =>
      simp only [ran] at ended
      rw [Run.finalState_of_ok ended]
      exact .inr (congrArg _ (Run.finalState_of_ok ran).symm)

/-- A command that ends has begun, perhaps run its block, and concluded. -/
theorem exists_of_evaluateCommand_eq_ok {flow : Flow}
    (ended : evaluateCommand host command state = .ok flow after) :
    ∃ implementation next between reached,
      command.begin host state = .ok (implementation, next) between ∧
        next.run (evaluateBlock host) between = .ok flow reached ∧
        after = implementation.concluded command.coordinate reached := by
  rw [evaluateCommand_apply] at ended
  cases began : command.begin host state with
  | error error between =>
      rw [began] at ended
      cases ended
  | ok begun between =>
      obtain ⟨implementation, next⟩ := begun
      simp only [began] at ended
      cases ran : next.run (evaluateBlock host) between with
      | error error reached => simp [ran] at ended
      | ok flow reached =>
          simp only [ran] at ended
          cases ended
          exact ⟨implementation, next, between, reached, rfl, ran, rfl⟩

/-- A command that fails does so on its own part or in its block. -/
theorem exists_of_evaluateCommand_eq_error {error : RunError}
    (failed : evaluateCommand host command state = .error error after) :
    command.begin host state = .error error after ∨
      ∃ implementation commands between,
        command.begin host state = .ok (implementation, .block commands) between ∧
          command.block = some commands ∧
          evaluateBlock host commands between = .error error after := by
  rw [evaluateCommand_apply] at failed
  cases began : command.begin host state with
  | error reason between =>
      rw [began] at failed
      cases failed
      exact .inl rfl
  | ok begun between =>
      obtain ⟨implementation, next⟩ := begun
      simp only [began] at failed
      cases next with
      | done flow => cases failed
      | block commands =>
          have own := Command.block_eq_of_begin began
          cases ran : evaluateBlock host commands between with
          | ok flow reached => simp [Next.run, ran] at failed
          | error reason reached =>
              simp only [Next.run, ran] at failed
              cases failed
              exact .inr ⟨implementation, commands, between, rfl, own, ran⟩

end Begin

/-! ### Boundaries -/

/-- A state at a boundary between commands in a run of a list of commands from a state. -/
inductive Boundary (host : Host) : List Command → State → State → Prop
  /-- Before the list. -/
  | start (commands : List Command) (state : State) : Boundary host commands state state
  /-- After the first command, be it that the run goes on, stops or fails. -/
  | after (command : Command) (rest : List Command) (state : State) :
      Boundary host (command :: rest) state ((evaluateCommand host command).finalState state)
  /-- In the run of the commands behind the first. -/
  | later {command : Command} {rest : List Command} {state between boundary : State}
      (proceeds : evaluateCommand host command state = .ok .proceed between)
      (behind : Boundary host rest between boundary) :
      Boundary host (command :: rest) state boundary
  /-- In the block of the first command. -/
  | inside {command : Command} {rest commands : List Command} {state entry boundary : State}
      {implementation : BuiltinCommand}
      (enters : command.begin host state = .ok (implementation, .block commands) entry)
      (inner : Boundary host commands { entry with scopes := entry.scopes.push } boundary) :
      Boundary host (command :: rest) state boundary

/-- The state in which a run ends is a boundary. -/
theorem Boundary.finalState (host : Host) (commands : List Command) (state : State) :
    Boundary host commands state ((evaluateCommands host commands).finalState state) := by
  induction commands generalizing state with
  | nil => exact .start [] state
  | cons command rest ih =>
      rw [evaluateCommands_cons, Run.finalState_bind]
      cases ended : evaluateCommand host command state with
      | error error after =>
          have final : Boundary host (command :: rest) state _ := .after command rest state
          rwa [Run.finalState_of_error ended] at final
      | ok flow after =>
          cases flow with
          | stop =>
              have final : Boundary host (command :: rest) state _ := .after command rest state
              rwa [Run.finalState_of_ok ended] at final
          | proceed => exact .later ended (ih after)

/-- A property of states that every command keeps, from one boundary to the next. -/
structure BoundaryInvariant (host : Host) where
  Holds : State → Prop
  /-- The command fails before its block. -/
  failed : ∀ {command : Command} {state after error}, Holds state →
    command.begin host state = .error error after → Holds after
  /-- The command comes to its block. -/
  entered : ∀ {command : Command} {state after implementation commands}, Holds state →
    command.begin host state = .ok (implementation, .block commands) after →
      Holds { after with scopes := after.scopes.push }
  /-- The block fails. -/
  left : ∀ {state}, Holds state → Holds { state with scopes := state.scopes.pop }
  /-- The block ends, and with it the command. -/
  closed : ∀ {command : Command} {state after implementation commands reached},
    command.begin host state = .ok (implementation, .block commands) after →
      Holds reached → Holds (implementation.concluded command.coordinate reached)
  /-- The command ends without a block. -/
  done : ∀ {command : Command} {state after implementation flow}, Holds state →
    command.begin host state = .ok (implementation, .done flow) after →
      Holds (implementation.concluded command.coordinate after)

namespace BoundaryInvariant

variable {host : Host} (invariant : BoundaryInvariant host)

/-- An invariant that each of the commands keeps is kept by their run, however it ends. -/
theorem finalState_sequence {commands : List Command}
    (each : ∀ command ∈ commands, ∀ state, invariant.Holds state →
      invariant.Holds ((evaluateCommand host command).finalState state))
    {state : State} (holds : invariant.Holds state) :
    invariant.Holds ((evaluateCommands host commands).finalState state) := by
  induction commands generalizing state with
  | nil => exact holds
  | cons command rest ih =>
      obtain ⟨here, later⟩ := List.forall_mem_cons.mp each
      have next := here state holds
      rw [evaluateCommands_cons, Run.finalState_bind]
      cases ended : evaluateCommand host command state with
      | error error after => rwa [Run.finalState_of_error ended] at next
      | ok flow after =>
          rw [Run.finalState_of_ok ended] at next
          cases flow with
          | stop => exact next
          | proceed => exact ih later next

/-- The step: a command keeps the invariant, however it ends. -/
theorem finalState_evaluateCommand (command : Command) (state : State)
    (holds : invariant.Holds state) :
    invariant.Holds ((evaluateCommand host command).finalState state) := by
  induction command using Command.induction generalizing state with
  | node name arguments block coordinate nested =>
      rw [Run.finalState, evaluateCommand_apply]
      cases began : Command.begin host ⟨name, arguments, block, coordinate⟩ state with
      | error error after => exact invariant.failed holds began
      | ok begun after =>
          obtain ⟨implementation, next⟩ := begun
          cases next with
          | done flow => exact invariant.done holds began
          | block commands =>
              -- the block is that of the node, so the hypothesis covers its commands
              have own : block = some commands := Command.block_eq_of_begin began
              have inner := invariant.finalState_sequence (by simpa [own] using nested)
                (invariant.entered holds began)
              have reached : invariant.Holds ((evaluateBlock host commands).finalState after) := by
                rw [evaluateBlock, Run.finalState_inScope]
                exact invariant.left inner
              simp only [Next.run]
              cases ended : evaluateBlock host commands after with
              | error error final => rwa [Run.finalState_of_error ended] at reached
              | ok flow final =>
                  rw [Run.finalState_of_ok ended] at reached
                  exact invariant.closed began reached

/-- **Every boundary of a run from a state with the invariant has it.** -/
theorem of_boundary {commands : List Command} {state boundary : State}
    (reached : Boundary host commands state boundary) (holds : invariant.Holds state) :
    invariant.Holds boundary := by
  induction reached with
  | start commands state => exact holds
  | after command rest state => exact invariant.finalState_evaluateCommand command state holds
  | @later command rest state between boundary proceeds behind ih =>
      have next := invariant.finalState_evaluateCommand command state holds
      rw [Run.finalState_of_ok proceeds] at next
      exact ih next
  | inside enters inner ih => exact ih (invariant.entered holds enters)

end BoundaryInvariant

end MailSieve
