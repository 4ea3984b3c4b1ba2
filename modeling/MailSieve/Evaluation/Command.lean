import MailSieve.Evaluation.Test

/-!
# Evaluation of commands, blocks and scripts

A command goes through fixed steps, and the first that fails ends them: move to its position, make
the implementation behind its name, check that it may stand here, leave the prolog unless it belongs
there, check its arguments, check its block, execute it, and note what it leaves behind.

* `BuiltinCommand.prepare` are the steps up to the execution, and `BuiltinCommand.conclude` those
  behind it.
* `BuiltinCommand.act` is what a command does itself, and says whether its block is `Next`.
* `BuiltinCommand.runNode` is all of it, with the block as one computation.
* `evaluateCommand` is the fold of these steps over the tree.
* `evaluateCommands` runs a list in order until one of them stops the run, and
  `evaluateBlock` does so under a scope of its own.
* `evaluate` runs a script on a message from a fresh state.
-/

namespace MailSieve

/-- What comes once a command has done its own part. -/
inductive Next (β : Type) where
  /-- Its block is to run. -/
  | block (block : β)
  /-- The command is over. -/
  | done (flow : Flow)

namespace Next

variable {β γ : Type}

/-- The same with another form of the block. -/
def map (f : β → γ) : Next β → Next γ
  | block inner => .block (f inner)
  | done flow => .done flow

/-- Go on to the end of the command. -/
def run (runBlock : β → Run Flow) : Next β → Run Flow
  | block inner => runBlock inner
  | done flow => pure flow

end Next

namespace ActionCommand

/-- Whether the arguments have the shape the command asks for. -/
def validateArguments {α : Type} (command : ActionCommand) (arguments : ArgumentsOf α) :
    Except ShapeFault Unit :=
  match command with
  | keep | discard => arguments.nothing
  | fileInto | reject => do
      let _ ← arguments.singleString
      .ok ()
  | redirect => do
      let address ← arguments.singleString
      if (Text.trimmed address).isEmpty then .error .redirectAddressExpected else .ok ()

@[simp] theorem validateArguments_map {α β : Type} (command : ActionCommand) (f : α → β)
    (arguments : ArgumentsOf α) :
    command.validateArguments (arguments.map f) = command.validateArguments arguments := by
  cases command <;> simp [validateArguments]

/-- The action the command asks for. -/
def actionOf {α : Type} (command : ActionCommand) (arguments : ArgumentsOf α) :
    Except ShapeFault Action :=
  match command with
  | keep => .ok .keep
  | discard => .ok .discard
  | fileInto => arguments.singleString.map .fileInto
  | redirect => arguments.singleString.map fun address => .redirect (Text.trimmed address)
  | reject => arguments.singleString.map .reject

@[simp] theorem actionOf_map {α β : Type} (command : ActionCommand) (f : α → β)
    (arguments : ArgumentsOf α) :
    command.actionOf (arguments.map f) = command.actionOf arguments := by
  cases command <;> simp [actionOf]

/-- Only the command `reject` asks for a reject. -/
theorem isReject_of_actionOf {α : Type} {command : ActionCommand} {arguments : ArgumentsOf α}
    {action : Action} (asked : command.actionOf arguments = .ok action) :
    action.isReject = true ↔ command = .reject := by
  have read : ∀ (make : String → Action) (text : Except ShapeFault String),
      text.map make = .ok action → ∃ argument, make argument = action := by
    rintro make (fault | argument) found
    · cases found
    · exact ⟨argument, Except.ok.inj found⟩
  cases command with
  | keep | discard =>
      cases asked
      simp [Action.isReject]
  | fileInto | redirect =>
      obtain ⟨argument, rfl⟩ := read _ _ asked
      simp [Action.isReject]
  | reject =>
      obtain ⟨argument, rfl⟩ := read _ _ asked
      simp [Action.isReject]

end ActionCommand

namespace CommandKind

/-- The rule on order that holds for every command of the kind. -/
def validateState (kind : CommandKind) (state : State) : Except OrderFault Unit :=
  match kind with
  | prolog => if state.flags.inProlog then .ok () else .error .prologOver
  | action => if state.flags.rejected then .error .afterReject else .ok ()
  | control | plain => .ok ()

/-- What every command of the kind leaves behind. -/
def updateFlags (kind : CommandKind) (flags : Flags) : Flags :=
  match kind with
  | action => { flags with hasActions := true }
  | prolog | control | plain => flags

end CommandKind

namespace BuiltinCommand

/-- Whether the command may stand where the run has come to. -/
def validateState (command : BuiltinCommand) (state : State) : Except OrderFault Unit := do
  command.kind.validateState state
  match command with
  | action .reject => if state.flags.hasActions then .error .rejectAfterAction else .ok ()
  | branch .alternative | branch .fallback =>
      if state.scopes.current.isNone then .error (.noOpenChain command.word) else .ok ()
  | _ => .ok ()

/-- An action is admitted unless the message has been rejected, and a reject only as the first. -/
theorem validateState_action (command : ActionCommand) (state : State) :
    (action command).validateState state =
      if state.flags.rejected then .error .afterReject
      else if command = .reject ∧ state.flags.hasActions then .error .rejectAfterAction
      else .ok () := by
  unfold validateState
  cases rejected : state.flags.rejected with
  | true => simp [kind, CommandKind.validateState, rejected, bind, Except.bind]
  | false => cases command <;> simp [kind, CommandKind.validateState, rejected, bind, Except.bind]

/-- Whether the arguments have the shape the command asks for. -/
def validateArguments {α : Type} (command : BuiltinCommand) (arguments : ArgumentsOf α) :
    Except ShapeFault Unit :=
  match command with
  | require => do
      let _ ← arguments.stringList
      .ok ()
  | branch .opening | branch .alternative => do
      let _ ← arguments.singleTest
      .ok ()
  | branch .fallback | stop => arguments.nothing
  | action command => command.validateArguments arguments
  | log => do
      let _ ← arguments.logMessage
      .ok ()

/-- The shape of arguments does not depend on what stands for their tests. -/
@[simp] theorem validateArguments_map {α β : Type} (command : BuiltinCommand) (f : α → β)
    (arguments : ArgumentsOf α) :
    command.validateArguments (arguments.map f) = command.validateArguments arguments := by
  cases command with
  | branch member =>
      cases member with
      | opening | alternative =>
          simp only [validateArguments, ArgumentsOf.singleTest_map]
          cases arguments.singleTest <;> rfl
      | fallback => simp [validateArguments]
  | _ => simp [validateArguments]

/-- Whether there is a block exactly where the command asks for one. -/
def validateBlock {β : Type} (command : BuiltinCommand) (block : Option β) :
    Except ShapeFault Unit :=
  match command with
  | branch _ => do
      let _ ← requiredBlock block
      .ok ()
  | _ => noBlock block

/-- Whether there must be a block does not depend on what stands in it. -/
@[simp] theorem validateBlock_map {α β : Type} (command : BuiltinCommand) (f : α → β)
    (block : Option α) : command.validateBlock (block.map f) = command.validateBlock block := by
  cases command <;> cases block <;> rfl

/-- What the command changes as soon as it is found to be in its place: it ends the prolog unless it
belongs there. -/
def enterFlags (command : BuiltinCommand) (flags : Flags) : Flags :=
  if command.kind = .prolog then flags else { flags with inProlog := false }

@[simp] theorem hasActions_enterFlags (command : BuiltinCommand) (flags : Flags) :
    (command.enterFlags flags).hasActions = flags.hasActions := by
  unfold enterFlags
  split <;> rfl

@[simp] theorem rejected_enterFlags (command : BuiltinCommand) (flags : Flags) :
    (command.enterFlags flags).rejected = flags.rejected := by
  unfold enterFlags
  split <;> rfl

/-- What the command leaves behind when it has run. -/
def updateFlags (command : BuiltinCommand) (flags : Flags) : Flags :=
  let flags := command.kind.updateFlags flags
  match command with
  | action .reject => { flags with rejected := true }
  | _ => flags

/-- Only actions leave a mark in the flags. -/
theorem updateFlags_of_kind_ne {command : BuiltinCommand} (other : command.kind ≠ .action)
    (flags : Flags) : command.updateFlags flags = flags := by
  cases command with
  | action command => exact absurd rfl other
  | _ => rfl

/-- The commands of the kind for actions are the five that collect one. -/
theorem eq_action_of_kind_eq {command : BuiltinCommand} (isAction : command.kind = .action) :
    ∃ own, command = action own := by
  cases command with
  | action own => exact ⟨own, rfl⟩
  | _ => cases isAction

/-- What the command leaves of the open chain when it has run. -/
def leaveScopes (command : BuiltinCommand) (scopes : Scopes) : Scopes :=
  if command.continuesChain then scopes else scopes.close

/-- Fail unless the feature is available. -/
def requireFeature (registries : Registries) (feature : String) : Run Unit :=
  if registries.supportsFeature feature then pure () else Run.fail (.unsupportedFeature feature)

/-- Evaluate the guard and note its result; the block comes next if it holds. -/
def actGuarded {β : Type} (arguments : ArgumentsOf (Run Bool)) (block : Option β) :
    Run (Next β) := do
  let condition ← Run.ofShape arguments.singleTest
  let block ← Run.ofShape (requiredBlock block)
  let holds ← condition
  Run.setScopes (·.record holds)
  pure (if holds then .block block else .done .proceed)

/-- With one test and a block, a guarded branch asks the test, notes its answer in the current
scope, and goes on to the block if the answer is yes. -/
theorem actGuarded_apply {β : Type} {arguments : ArgumentsOf (Run Bool)} {guard : Run Bool}
    (found : arguments.singleTest = .ok guard) (block : β) (state : State) :
    actGuarded arguments (some block) state =
      match guard state with
      | .error error asked => .error error asked
      | .ok holds asked =>
          .ok (if holds then .block block else .done .proceed)
            { asked with scopes := asked.scopes.record holds } := by
  unfold actGuarded
  rw [found, Run.ofShape_ok, pure_bind, requiredBlock, Run.ofShape_ok, pure_bind, Run.bind_apply]
  cases guard state <;> rfl

/-- What the command does itself, the position being its own: all but running its block.  A branch
runs only if no guard of its chain has held before. -/
def act {β : Type} (host : Host) (command : BuiltinCommand) (arguments : ArgumentsOf (Run Bool))
    (block : Option β) : Run (Next β) :=
  match command with
  | require => do
      let features ← Run.ofShape arguments.stringList
      features.forM (requireFeature host.registries)
      pure (.done .proceed)
  | branch .opening => actGuarded arguments block
  | branch .alternative => do
      if (← get).scopes.current = some false then actGuarded arguments block
      else pure (.done .proceed)
  | branch .fallback => do
      if (← get).scopes.current = some false then .block <$> Run.ofShape (requiredBlock block)
      else pure (.done .proceed)
  | stop => pure (.done .stop)
  | action command => do
      let action ← Run.ofShape (command.actionOf arguments)
      Run.collect host action
      pure (.done .proceed)
  | log => do
      let (level, message) ← Run.ofShape arguments.logMessage
      Run.write level message
      pure (.done .proceed)

/-- The first feature that is not available is at fault. -/
theorem requireFeatures_apply (registries : Registries) (features : List String) (state : State) :
    features.forM (requireFeature registries) state =
      match features.find? (!registries.supportsFeature ·) with
      | some feature => .error ⟨.unsupportedFeature feature, state.coordinate⟩ state
      | none => .ok () state := by
  induction features with
  | nil => rfl
  | cons feature rest ih =>
      show (requireFeature registries feature >>= fun _ =>
        rest.forM (requireFeature registries)) state = _
      rw [Run.bind_apply, requireFeature, List.find?_cons]
      cases registries.supportsFeature feature with
      | true => exact ih
      | false => rfl

/-- A `require` does nothing but fail if a feature is not available. -/
theorem act_require_apply {β : Type} (host : Host) (arguments : ArgumentsOf (Run Bool))
    (block : Option β) (state : State) :
    require.act host arguments block state =
      match arguments.stringList with
      | .error fault => .error ⟨.shape fault, state.coordinate⟩ state
      | .ok features =>
          match features.find? (!host.registries.supportsFeature ·) with
          | some feature => .error ⟨.unsupportedFeature feature, state.coordinate⟩ state
          | none => .ok (.done .proceed) state := by
  rw [act]
  cases arguments.stringList with
  | error fault => rfl
  | ok features =>
      rw [Run.ofShape_ok, pure_bind, Run.bind_apply, requireFeatures_apply]
      dsimp only
      cases features.find? (!host.registries.supportsFeature ·) <;> rfl

/-- An action command collects its action, unless the message refuses the call. -/
theorem act_action_apply {β : Type} (host : Host) (command : ActionCommand)
    (arguments : ArgumentsOf (Run Bool)) (block : Option β) (state : State) :
    (action command).act host arguments block state =
      match command.actionOf arguments with
      | .error fault => .error ⟨.shape fault, state.coordinate⟩ state
      | .ok asked =>
          match host.failures state.calls (.addAction asked) with
          | some fault =>
              .error ⟨.mailAccess fault, state.coordinate⟩
                { state with calls := state.calls ++ [.addAction asked] }
          | none =>
              .ok (.done .proceed) { state with
                message := state.message.addAction asked
                calls := state.calls ++ [.addAction asked] } := by
  rw [act]
  cases command.actionOf arguments with
  | error fault => rfl
  | ok asked =>
      rw [Run.ofShape_ok, pure_bind, Run.bind_apply, Run.collect_apply]
      dsimp only
      cases host.failures state.calls (.addAction asked) <;> rfl

/-- What a command does itself does not depend on what stands in its block. -/
theorem act_map {β γ : Type} (host : Host) (command : BuiltinCommand)
    (arguments : ArgumentsOf (Run Bool)) (f : β → γ) (block : Option β) :
    command.act host arguments (block.map f) = Next.map f <$> command.act host arguments block := by
  have guarded :
      actGuarded arguments (block.map f) = Next.map f <$> actGuarded arguments block := by
    -- a guard is asked without regard to what the block holds
    simp only [actGuarded, map_bind, map_pure]
    refine bind_congr fun condition => ?_
    cases block with
    | none => rfl
    | some inner =>
        simp only [Option.map_some, requiredBlock, Run.ofShape, Run.ofExcept, pure_bind]
        refine bind_congr fun holds => bind_congr fun _ => ?_
        cases holds <;> rfl
  cases command with
  | branch member =>
      cases member with
      | opening => exact guarded
      | alternative =>
          simp only [act, map_bind]
          refine bind_congr fun state => ?_
          split
          · exact guarded
          · simp [Next.map]
      | fallback =>
          simp only [act, map_bind]
          refine bind_congr fun state => ?_
          split
          · cases block <;> rfl
          · simp [Next.map]
  | _ => simp [act, Next.map]

/-- What the command does, its block included. -/
def execute (host : Host) (command : BuiltinCommand) (arguments : ArgumentsOf (Run Bool))
    (block : Option (Run Flow)) : Run Flow := do
  (← command.act host arguments block).run id

/-- Make the implementation behind a name, and check that it may run here with these arguments and
this block.  A command that may stand here ends the prolog unless it belongs there, even if its
arguments or block turn out wrong. -/
def prepare {β : Type} (host : Host) (name : String) (arguments : ArgumentsOf (Run Bool))
    (block : Option β) (coordinate : Coordinate) : Run BuiltinCommand := do
  Run.moveTo coordinate
  let command ← Run.ofExcept id (host.registries.commands.create name)
  Run.ofExcept .order (command.validateState (← get))
  Run.setFlags command.enterFlags
  Run.ofShape (command.validateArguments arguments)
  Run.ofShape (command.validateBlock block)
  pure command

/-- **The checks in their order**, each with the state it leaves if it fails. -/
theorem prepare_apply {β : Type} (host : Host) (name : String) (arguments : ArgumentsOf (Run Bool))
    (block : Option β) (coordinate : Coordinate) (state : State) :
    prepare host name arguments block coordinate state =
      match host.registries.commands.create name with
      | .error cause => .error ⟨cause, coordinate⟩ { state with coordinate }
      | .ok command =>
          match command.validateState state with
          | .error fault => .error ⟨.order fault, coordinate⟩ { state with coordinate }
          | .ok () =>
              let entered := { state with coordinate, flags := command.enterFlags state.flags }
              match command.validateArguments arguments, command.validateBlock block with
              | .error fault, _ => .error ⟨.shape fault, coordinate⟩ entered
              | .ok (), .error fault => .error ⟨.shape fault, coordinate⟩ entered
              | .ok (), .ok () => .ok command entered := by
  unfold prepare
  rw [Run.bind_apply, Run.moveTo_apply]
  simp only
  cases host.registries.commands.create name with
  | error cause => rfl
  | ok command =>
      have unmoved :
          command.validateState { state with coordinate } = command.validateState state := rfl
      simp only [Run.ofExcept_ok, pure_bind, Run.get_bind_apply, unmoved]
      cases command.validateState state with
      | error fault => rfl
      | ok passed =>
          cases command.validateArguments arguments with
          | error fault => rfl
          | ok passed => cases command.validateBlock block <;> rfl

/-- A command is prepared if it has passed every check. -/
theorem prepare_eq_ok_iff {β : Type} {host : Host} {name : String}
    {arguments : ArgumentsOf (Run Bool)} {block : Option β} {coordinate : Coordinate}
    {state entered : State} {command : BuiltinCommand} :
    prepare host name arguments block coordinate state = .ok command entered ↔
      host.registries.commands.create name = .ok command ∧ command.validateState state = .ok () ∧
        command.validateArguments arguments = .ok () ∧ command.validateBlock block = .ok () ∧
        entered = { state with coordinate, flags := command.enterFlags state.flags } := by
  rw [prepare_apply]
  constructor
  · intro prepared
    cases made : host.registries.commands.create name with
    | error cause => simp [made] at prepared
    | ok other =>
        cases placed : other.validateState state with
        | error fault => simp [made, placed] at prepared
        | ok passed =>
            cases shaped : other.validateArguments arguments with
            | error fault => simp [made, placed, shaped] at prepared
            | ok passed =>
                cases blocked : other.validateBlock block with
                | error fault => simp [made, placed, shaped, blocked] at prepared
                | ok passed =>
                    simp only [made, placed, shaped, blocked] at prepared
                    cases prepared
                    exact ⟨rfl, placed, shaped, blocked, rfl⟩
  · rintro ⟨made, placed, shaped, blocked, rfl⟩
    simp only [made, placed, shaped, blocked]

/-- Note what a command that has run leaves behind, back at its position. -/
def conclude (command : BuiltinCommand) (coordinate : Coordinate) : Run Unit := do
  Run.moveTo coordinate
  Run.setFlags command.updateFlags
  Run.setScopes command.leaveScopes

/-- The state after a command that has run. -/
def concluded (command : BuiltinCommand) (coordinate : Coordinate) (state : State) : State :=
  { state with
    coordinate
    flags := command.updateFlags state.flags
    scopes := command.leaveScopes state.scopes }

@[simp] theorem conclude_apply (command : BuiltinCommand) (coordinate : Coordinate)
    (state : State) :
    command.conclude coordinate state = .ok () (command.concluded coordinate state) := rfl

/-- Evaluate a node whose guards and block are already computations. -/
def runNode (host : Host) (name : String) (arguments : ArgumentsOf (Run Bool))
    (block : Option (Run Flow)) (coordinate : Coordinate) : Run Flow := do
  let command ← prepare host name arguments block coordinate
  let flow ← command.execute host arguments block
  command.conclude coordinate
  pure flow

end BuiltinCommand

/-- The evaluation of a command. -/
def evaluateCommand (host : Host) : Command → Run Flow :=
  Command.fold fun name arguments block coordinate =>
    BuiltinCommand.runNode host name (arguments.map (evaluateTest host))
      (block.map fun commands => Run.inScope (Run.sequence commands)) coordinate

/-- Run commands in order, until one of them stops the run. -/
def evaluateCommands (host : Host) (commands : List Command) : Run Flow :=
  Run.sequence (commands.map (evaluateCommand host))

/-- Run the commands of a block under a scope of its own. -/
def evaluateBlock (host : Host) (commands : List Command) : Run Flow :=
  Run.inScope (evaluateCommands host commands)

@[simp] theorem Next.run_map {β γ : Type} (f : β → γ) (runBlock : γ → Run Flow) (next : Next β) :
    (next.map f).run runBlock = next.run (runBlock ∘ f) := by
  cases next <;> rfl

/-- The equation of the evaluation of a command: its steps, over the evaluations of its tests and of
its block. -/
theorem evaluateCommand_mk (host : Host) (name : String) (arguments : Arguments)
    (block : Option (List Command)) (coordinate : Coordinate) :
    evaluateCommand host ⟨name, arguments, block, coordinate⟩ =
      BuiltinCommand.runNode host name (arguments.map (evaluateTest host))
        (block.map (evaluateBlock host)) coordinate := by
  rw [evaluateCommand, Command.fold_mk, Option.map_map]
  rfl

/-- **The evaluation of a command, step by step.** -/
theorem evaluateCommand_eq (host : Host) (command : Command) :
    evaluateCommand host command = (do
      let guards := command.arguments.map (evaluateTest host)
      let implementation ←
        BuiltinCommand.prepare host command.name guards command.block command.coordinate
      let next ← implementation.act host guards command.block
      let flow ← next.run (evaluateBlock host)
      implementation.conclude command.coordinate
      pure flow) := by
  obtain ⟨name, arguments, block, coordinate⟩ := command
  rw [evaluateCommand_mk, BuiltinCommand.runNode]
  simp only [BuiltinCommand.prepare, BuiltinCommand.validateBlock_map, BuiltinCommand.execute,
    BuiltinCommand.act_map, bind_assoc, bind_map_left, Next.run_map, Function.id_comp]

@[simp] theorem evaluateCommands_nil (host : Host) : evaluateCommands host [] = pure .proceed := rfl

/-- Commands run in order until one stops the run or fails. -/
theorem evaluateCommands_cons (host : Host) (command : Command) (rest : List Command) :
    evaluateCommands host (command :: rest) = (do
      match ← evaluateCommand host command with
      | .stop => pure .stop
      | .proceed => evaluateCommands host rest) := rfl

/-- A list of one command runs as the command does. -/
theorem evaluateCommands_singleton (host : Host) (command : Command) :
    evaluateCommands host [command] = evaluateCommand host command := by
  funext state
  rw [evaluateCommands_cons, Run.bind_apply]
  cases evaluateCommand host command state with
  | error error after => rfl
  | ok flow after => cases flow <;> rfl

/-- How a run ended, and the state it reached. -/
structure Outcome where
  result : Except RunError Flow
  state : State

/-- The outcome of a computation that starts in the given state. -/
def Run.outcome (run : Run Flow) (state : State) : Outcome :=
  match run state with
  | .ok flow after => ⟨.ok flow, after⟩
  | .error error after => ⟨.error error, after⟩

/-- The outcome of a script on a message, from a fresh state. -/
def Script.evaluate (host : Host) (script : Script) (message : Message) : Outcome :=
  (evaluateCommands host script.commands).outcome { message }

end MailSieve
