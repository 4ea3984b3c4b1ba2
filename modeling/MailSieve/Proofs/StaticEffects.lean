import MailSieve.Proofs.Containment

/-!
# What a script can ever do

The actions and the log entries that a script asks for are written in its tree.  A run comes to some
of the commands, in the order in which they are written, and never to one of them again.  So what it
has done in the end, whatever made it end, is what the tree says with some of it left out.

* `Command.nodes` lists the commands of a tree in the order in which they are written, and
  `traceCommands_sublist` says that a run starts some of them, in this order.
* `Command.action?` and `Command.written?` read off one command which action it asks for and what it
  writes to the log; `Script.staticActions` and `Script.staticEntries` list these for a script.
* `succeeded` are the commands started that have not failed.
* `Did` says that between two states just what some commands ask for was done.  `did_of_begin` is
  the step for one command up to its block, and `did_evaluateCommand` the induction on the tree.
* `effects_static` puts these together.
-/

namespace MailSieve

/-! ### What is written -/

/-- The action that a well-formed command asks for: the text as it stands, but an address without
the blanks around it. -/
def ActionCommand.asked? (command : ActionCommand) (arguments : Arguments) : Option Action :=
  match command, arguments.args, arguments.tests with
  | .keep, [], none => some .keep
  | .discard, [], none => some .discard
  | .fileInto, [.stringList [mailbox]], none => some (.fileInto mailbox)
  | .redirect, [.stringList [text]], none =>
      let address := Text.trimmed text
      if address.isEmpty then none else some (.redirect address)
  | .reject, [.stringList [message]], none => some (.reject message)
  | _, _, _ => none

/-- The level and the text that a well-formed `log` writes. -/
def logged? (arguments : Arguments) : Option (LogLevel × String) :=
  match arguments.args, arguments.tests with
  | [.stringList [message]], none => some (.info, message)
  | [.tag tag, .stringList [message]], none =>
      (LogLevel.ofTag? tag).map fun level => (level, message)
  | _, _ => none

namespace Command

mutual

/-- The command and all commands in its block, in the order in which they are written. -/
def nodes : Command → List Command
  | ⟨name, arguments, block, coordinate⟩ => ⟨name, arguments, block, coordinate⟩ :: blockNodes block

/-- The nodes inside a block, if there is one. -/
def blockNodes : Option (List Command) → List Command
  | none => []
  | some commands => listNodes commands

/-- The nodes of a list of commands and of all blocks inside, in document order. -/
def listNodes : List Command → List Command
  | [] => []
  | command :: rest => command.nodes ++ listNodes rest

end

/-- **The nodes of a command**, without the auxiliary recursions. -/
theorem nodes_eq (command : Command) :
    command.nodes = command :: command.blockList.flatMap nodes := by
  have listed : ∀ commands, listNodes commands = commands.flatMap nodes := by
    intro commands
    induction commands with
    | nil => rfl
    | cons first rest ih => rw [listNodes, ih, List.flatMap_cons]
  obtain ⟨name, arguments, block, coordinate⟩ := command
  cases block with
  | none => rfl
  | some commands => rw [nodes, blockNodes, listed]; rfl

/-- The action that the command asks for, if it is an action command and well-formed. -/
def action? (registries : Registries) (command : Command) : Option Action :=
  match registries.commands.create command.name, command.block with
  | .ok (.action own), none => own.asked? command.arguments
  | _, _ => none

/-- What the command writes to the log, if it is a `log` and well-formed. -/
def written? (registries : Registries) (command : Command) : Option LogEntry :=
  match registries.commands.create command.name, command.block with
  | .ok .log, none =>
      (logged? command.arguments).map fun (level, message) => ⟨level, message, command.coordinate⟩
  | _, _ => none

end Command

/-- All actions that the script asks for, in the order in which they are written. -/
def Script.staticActions (registries : Registries) (script : Script) : List Action :=
  (script.commands.flatMap Command.nodes).filterMap (Command.action? registries)

/-- All log entries that the script asks for, in the order in which they are written. -/
def Script.staticEntries (registries : Registries) (script : Script) : List LogEntry :=
  (script.commands.flatMap Command.nodes).filterMap (Command.written? registries)

/-! ### The readers find what is written -/

section Readers

variable {arguments : Arguments}

/-- An argument list that is read as strings is written so, and without tests. -/
theorem ArgumentsOf.eq_of_stringList {items : List String}
    (read : arguments.stringList = .ok items) : arguments = ⟨[.stringList items], none⟩ := by
  obtain ⟨args, tests⟩ := arguments
  cases tests with
  | some tests => cases read
  | none =>
      unfold stringList at read
      simp only [noTests, Option.isSome_none, Bool.false_eq_true, if_false] at read
      split at read <;> cases read
      rfl

/-- A single string is read from itself alone. -/
theorem ArgumentsOf.eq_of_singleString {text : String}
    (read : arguments.singleString = .ok text) : arguments = ⟨[.stringList [text]], none⟩ := by
  unfold singleString at read
  cases found : arguments.stringList with
  | error fault =>
      rw [found] at read
      cases read
  | ok items =>
      rw [found] at read
      obtain rfl := eq_of_stringList found
      match items, read with
      | [_], rfl => rfl

/-- Where no block is allowed, there is none. -/
theorem eq_none_of_noBlock {β : Type} {block : Option β} (read : noBlock block = .ok ()) :
    block = none := by
  cases block with
  | none => rfl
  | some inner => cases read

/-- Where no arguments are allowed, there are none. -/
theorem ArgumentsOf.eq_of_nothing (read : arguments.nothing = .ok ()) : arguments = ⟨[], none⟩ := by
  obtain ⟨args, tests⟩ := arguments
  cases args <;> cases tests <;> first | rfl | cases read

/-- **An action is the one that is written.** -/
theorem ActionCommand.asked?_of_actionOf {command : ActionCommand} {action : Action}
    (shaped : command.validateArguments arguments = .ok ())
    (asked : command.actionOf arguments = .ok action) : command.asked? arguments = some action := by
  cases command with
  | keep | discard =>
      obtain rfl := ArgumentsOf.eq_of_nothing shaped
      cases asked
      rfl
  | fileInto | reject =>
      cases read : arguments.singleString with
      | error fault => simp [actionOf, read, Except.map] at asked
      | ok text =>
          simp only [actionOf, read, Except.map, Except.ok.injEq] at asked
          obtain rfl := ArgumentsOf.eq_of_singleString read
          rw [← asked]
          rfl
  | redirect =>
      cases read : arguments.singleString with
      | error fault => simp [actionOf, read, Except.map] at asked
      | ok text =>
          simp only [actionOf, read, Except.map, Except.ok.injEq] at asked
          simp only [validateArguments, read, bind, Except.bind] at shaped
          obtain rfl := ArgumentsOf.eq_of_singleString read
          -- an address that is blank has been refused
          split at shaped
          · cases shaped
          · rename_i present
            show (if (Text.trimmed text).isEmpty then none
              else some (Action.redirect (Text.trimmed text))) = some action
            rw [if_neg present, asked]

/-- A level is told by a leading tag, and is `info` without one. -/
theorem ArgumentsOf.eq_of_leadingLevel {args rest : List Argument} {level : LogLevel}
    (led : leadingLevel args = .ok (level, rest)) :
    args = rest ∧ level = .info ∨
      ∃ tag, args = .tag tag :: rest ∧ LogLevel.ofTag? tag = some level := by
  unfold leadingLevel at led
  split at led
  · rename_i tag behind
    split at led
    · rename_i found known
      cases led
      exact .inr ⟨tag, rfl, known⟩
    · cases led
  · cases led
    exact .inl ⟨rfl, rfl⟩

/-- **A log entry is the one that is written.** -/
theorem logged?_of_logMessage {level : LogLevel} {message : String}
    (read : arguments.logMessage = .ok (level, message)) :
    logged? arguments = some (level, message) := by
  obtain ⟨args, tests⟩ := arguments
  cases tests with
  | some tests => cases read
  | none =>
      unfold ArgumentsOf.logMessage at read
      cases led : ArgumentsOf.leadingLevel args with
      | error fault =>
          rw [led] at read
          cases read
      | ok found =>
          obtain ⟨own, rest⟩ := found
          rw [led] at read
          match rest, read with
          | [.stringList [text]], rfl =>
              rcases ArgumentsOf.eq_of_leadingLevel led with ⟨rfl, rfl⟩ | ⟨tag, rfl, known⟩
              · rfl
              · show (LogLevel.ofTag? tag).map (fun level => (level, text)) = some (own, text)
                rw [known]
                rfl

end Readers

/-! ### What a run starts and carries out -/

/-- The evaluation of the command does not fail. -/
def Start.succeeds (host : Host) (start : Start) : Bool :=
  match evaluateCommand host start.command start.state with
  | .ok .. => true
  | .error .. => false

/-- The commands started that do not fail, in the order in which they are started. -/
def succeeded (host : Host) (starts : List Start) : List Command :=
  (starts.filter (Start.succeeds host)).map Start.command

section Starts

variable {host : Host}

theorem succeeded_append (first second : List Start) :
    succeeded host (first ++ second) = succeeded host first ++ succeeded host second := by
  simp [succeeded]

/-- It does not matter where the list of the commands stands. -/
theorem succeeded_inside (index : Nat) (starts : List Start) :
    succeeded host (starts.map (Start.inside index)) = succeeded host starts := by
  rw [succeeded, List.filter_map, List.map_map]
  rfl

/-- A start whose command succeeds counts. -/
theorem succeeded_cons_of_ok {start : Start} {flow : Flow} {after : State} (starts : List Start)
    (ended : evaluateCommand host start.command start.state = .ok flow after) :
    succeeded host (start :: starts) = start.command :: succeeded host starts := by
  simp [succeeded, Start.succeeds, ended]

/-- A start whose command fails does not count. -/
theorem succeeded_cons_of_error {start : Start} {error : RunError} {after : State}
    (starts : List Start)
    (ended : evaluateCommand host start.command start.state = .error error after) :
    succeeded host (start :: starts) = succeeded host starts := by
  simp [succeeded, Start.succeeds, ended]

/-- Commands are started in document order, and none twice, given that this is so in each of
them. -/
theorem traceCommands_sublist_of_each {commands : List Command}
    (each : ∀ command ∈ commands, ∀ index state,
      ((traceCommand host index command state).map Start.command).Sublist command.nodes)
    (index : Nat) (state : State) :
    ((traceCommands host index commands state).map Start.command).Sublist
      (commands.flatMap Command.nodes) := by
  induction commands generalizing index state with
  | nil =>
      rw [traceCommands_nil]
      exact List.nil_sublist _
  | cons command rest ih =>
      obtain ⟨first, later⟩ := List.forall_mem_cons.mp each
      have here := first index state
      rw [List.flatMap_cons]
      by_cases halts : (evaluateCommand host command).Halts state
      · rw [traceCommands_of_halts halts]
        exact here.trans (List.sublist_append_left _ _)
      · obtain ⟨between, proceeds⟩ := Run.exists_proceed_of_not_halts halts
        rw [traceCommands_of_proceed proceeds, List.map_append]
        exact here.append (ih later (index + 1) between)

/-- **A command starts what is written in its tree**, in this order and each at most once. -/
theorem traceCommand_sublist (index : Nat) (command : Command) (state : State) :
    ((traceCommand host index command state).map Start.command).Sublist command.nodes := by
  induction command using Command.induction generalizing index state with
  | node name arguments block coordinate nested =>
      rw [traceCommand_apply, Command.nodes_eq, List.map_cons]
      refine List.cons_sublist_cons.mpr ?_
      split
      · rename_i implementation inner entry began
        have own : block = some inner := Command.block_eq_of_begin began
        subst own
        rw [List.map_map]
        exact traceCommands_sublist_of_each nested 0 _
      · exact List.nil_sublist _

/-- **Commands are started in document order**, and none twice. -/
theorem traceCommands_sublist (index : Nat) (commands : List Command) (state : State) :
    ((traceCommands host index commands state).map Start.command).Sublist
      (commands.flatMap Command.nodes) :=
  traceCommands_sublist_of_each (fun command _ index => traceCommand_sublist index command) index
    state

/-- What is carried out was started. -/
theorem succeeded_sublist (starts : List Start) :
    (succeeded host starts).Sublist (starts.map Start.command) :=
  List.filter_sublist.map _

end Starts

/-! ### What a run does -/

/-- Between two states just what some commands ask for was done, in their order: their actions were
collected, and their entries written. -/
structure Did (registries : Registries) (commands : List Command) (before after : State) :
    Prop where
  message : after.message = { before.message with
    pending := before.message.pending ++ commands.filterMap (Command.action? registries) }
  log : after.log = before.log ++ commands.filterMap (Command.written? registries)

/-- The states between which nothing is collected or written. -/
def silent : TestOrder where
  le before after := after.message = before.message ∧ after.log = before.log
  refl _ := ⟨rfl, rfl⟩
  trans first second := ⟨second.1.trans first.1, second.2.trans first.2⟩
  moveTo _ _ := ⟨rfl, rfl⟩
  call _ _ := ⟨rfl, rfl⟩

namespace Did

variable {registries : Registries} {command : Command} {commands others : List Command}
  {before between after : State}

theorem nil (same : silent.le before after) : Did registries [] before after :=
  ⟨by rw [same.1]; simp, by rw [same.2]; simp⟩

/-- An action that is asked for is added. -/
theorem of_action {action : Action} (asked : command.action? registries = some action)
    (noEntry : command.written? registries = none)
    (message : after.message = before.message.addAction action) (log : after.log = before.log) :
    Did registries [command] before after :=
  ⟨by rw [message, List.filterMap_cons_some asked]; rfl, by rw [log]; simp [noEntry]⟩

/-- A log entry that is asked for is written. -/
theorem of_entry {entry : LogEntry} (noAction : command.action? registries = none)
    (asked : command.written? registries = some entry) (message : after.message = before.message)
    (log : after.log = before.log ++ [entry]) : Did registries [command] before after :=
  ⟨by rw [message]; simp [noAction], by rw [log, List.filterMap_cons_some asked]; rfl⟩

/-- A command that asks for nothing. -/
theorem of_silent (noAction : command.action? registries = none)
    (noEntry : command.written? registries = none) (same : silent.le before after) :
    Did registries [command] before after :=
  ⟨by rw [same.1]; simp [noAction], by rw [same.2]; simp [noEntry]⟩

/-- What is asked for in two parts is done in two parts. -/
theorem append (here : Did registries commands before between)
    (later : Did registries others between after) :
    Did registries (commands ++ others) before after := by
  constructor
  · rw [later.message, here.message, List.filterMap_append, List.append_assoc]
  · rw [later.log, here.log, List.filterMap_append, List.append_assoc]

/-- The position, the scopes and the flags do not count. -/
theorem then_silent (did : Did registries commands before between)
    (same : silent.le between after) : Did registries commands before after :=
  ⟨same.1.trans did.message, same.2.trans did.log⟩

end Did

/-! ### One command -/

section Silent

variable (host : Host)

/-- A guarded branch adds no action and writes nothing on its own part. -/
theorem silent_actGuarded {β : Type} (arguments : Arguments) (block : Option β) :
    silent.Forward (BuiltinCommand.actGuarded (arguments.map (evaluateTest host)) block) := by
  simp only [BuiltinCommand.actGuarded, ArgumentsOf.singleTest_map]
  cases arguments.singleTest with
  | error fault => exact silent.refl
  | ok guard =>
      simp only [Except.map, Run.ofShape_ok, pure_bind]
      refine silent.forward_bind (silent.forward_ofExcept _ _) fun block => ?_
      refine silent.forward_bind (silent.le_finalState host guard) fun holds => ?_
      exact silent.forward_bind (fun state => ⟨rfl, rfl⟩) fun _ => silent.refl

/-- A command that is neither an action nor a `log` does nothing on its own part but ask its
guard. -/
theorem silent_act {β : Type} {implementation : BuiltinCommand}
    (noAction : implementation.kind ≠ .action) (noLog : implementation ≠ .log)
    (arguments : Arguments) (block : Option β) :
    silent.Forward (implementation.act host (arguments.map (evaluateTest host)) block) := by
  cases implementation with
  | require =>
      intro state
      rw [BuiltinCommand.finalState_act_require]
      exact silent.refl state
  | branch member =>
      cases member with
      | opening => exact silent_actGuarded host arguments block
      | alternative =>
          refine silent.forward_bind silent.refl fun state => ?_
          split
          · exact silent_actGuarded host arguments block
          · exact silent.refl
      | fallback =>
          refine silent.forward_bind silent.refl fun state => ?_
          split
          · cases block <;> exact silent.refl
          · exact silent.refl
  | stop => exact silent.refl
  | action own => exact absurd rfl noAction
  | log => exact absurd rfl noLog

end Silent

section Step

variable {host : Host} {command : Command} {state entered after : State}
  {implementation : BuiltinCommand}

/-- Only the commands for actions ask for one. -/
theorem Command.action?_eq_none
    (made : host.registries.commands.create command.name = .ok implementation)
    (other : implementation.kind ≠ .action) : command.action? host.registries = none := by
  rw [action?, made]
  cases implementation with
  | action own => exact absurd rfl other
  | _ => rfl

/-- Only `log` asks for an entry. -/
theorem Command.written?_eq_none
    (made : host.registries.commands.create command.name = .ok implementation)
    (other : implementation ≠ .log) : command.written? host.registries = none := by
  rw [written?, made]
  cases implementation with
  | log => exact absurd rfl other
  | _ => rfl

/-- **What a command does itself** if it does not fail is what is written there. -/
theorem did_of_act {next : Next (List Command)}
    (prepared : BuiltinCommand.prepare host command.name (command.arguments.map (evaluateTest host))
      command.block command.coordinate state = .ok implementation entered)
    (acted : implementation.act host (command.arguments.map (evaluateTest host)) command.block
      entered = .ok next after) :
    Did host.registries [command] entered after := by
  obtain ⟨made, -, shaped, blocked, moved⟩ := BuiltinCommand.prepare_eq_ok_iff.mp prepared
  rw [BuiltinCommand.validateArguments_map] at shaped
  by_cases isAction : implementation.kind = .action
  · obtain ⟨own, rfl⟩ := BuiltinCommand.eq_action_of_kind_eq isAction
    obtain ⟨-, action, asked, rfl⟩ := BuiltinCommand.act_action_eq_ok acted
    rw [ActionCommand.actionOf_map] at asked
    have unblocked : command.block = none := eq_none_of_noBlock blocked
    have written : command.action? host.registries = some action := by
      rw [Command.action?, made, unblocked]
      exact ActionCommand.asked?_of_actionOf shaped asked
    exact .of_action written (Command.written?_eq_none made nofun) rfl rfl
  -- all other commands leave the message alone, and of them only `log` writes
  · have noAction := Command.action?_eq_none made isAction
    by_cases isLog : implementation = .log
    · subst isLog
      have unblocked : command.block = none := eq_none_of_noBlock blocked
      rw [BuiltinCommand.act, ArgumentsOf.logMessage_map] at acted
      cases read : command.arguments.logMessage with
      | error fault =>
          rw [read] at acted
          cases acted
      | ok found =>
          obtain ⟨level, message⟩ := found
          rw [read] at acted
          cases acted
          have written :
              command.written? host.registries = some ⟨level, message, entered.coordinate⟩ := by
            rw [Command.written?, made, unblocked, moved]
            simp only [logged?_of_logMessage read, Option.map_some]
          exact .of_entry noAction written rfl rfl
    · have same := silent_act host isAction isLog command.arguments command.block entered
      rw [Run.finalState_of_ok acted] at same
      exact .of_silent noAction (Command.written?_eq_none made isLog) same

/-- **The step**: up to its block a command does what is written there if it does not fail. -/
theorem did_of_begin {next : Next (List Command)}
    (began : command.begin host state = .ok (implementation, next) after) :
    Did host.registries [command] state after := by
  obtain ⟨entered, prepared, acted⟩ := Command.begin_eq_ok_iff.mp began
  obtain ⟨message, log⟩ := did_of_act prepared acted
  obtain ⟨-, -, -, -, rfl⟩ := BuiltinCommand.prepare_eq_ok_iff.mp prepared
  exact ⟨message, log⟩

/-- A command that fails up to its block has done nothing. -/
theorem silent_of_begin_error {error : RunError}
    (began : command.begin host state = .error error after) : silent.le state after := by
  obtain ⟨step, before, failsAt⟩ := Command.begin_eq_error_iff_failsAt.mp began
  have spared := failsAt.spares before
  exact ⟨spared.message, spared.log⟩

/-- A command that comes to its block has done nothing itself. -/
theorem silent_of_begin_block {inner : List Command}
    (began : command.begin host state = .ok (implementation, .block inner) after) :
    silent.le state after := by
  have noAction := Command.kind_ne_action_of_begin began
  have own := Command.block_eq_of_begin began
  obtain ⟨entered, prepared, acted⟩ := Command.begin_eq_ok_iff.mp began
  obtain ⟨-, -, -, blocked, moved⟩ := BuiltinCommand.prepare_eq_ok_iff.mp prepared
  have noLog : implementation ≠ .log := by
    rintro rfl
    rw [own] at blocked
    cases blocked
  have same := silent_act host noAction noLog command.arguments command.block entered
  rw [Run.finalState_of_ok acted, moved] at same
  exact same

end Step

/-! ### Whole runs -/

section Runs

variable (host : Host)

/-- What the commands of a list ask for is done in their order, given that each does what is asked
for in it. -/
theorem did_of_each {commands : List Command}
    (each : ∀ command ∈ commands, ∀ index state,
      Did host.registries (succeeded host (traceCommand host index command state)) state
        ((evaluateCommand host command).finalState state))
    (index : Nat) (state : State) :
    Did host.registries (succeeded host (traceCommands host index commands state)) state
      ((evaluateCommands host commands).finalState state) := by
  induction commands generalizing index state with
  | nil =>
      rw [traceCommands_nil]
      exact .nil (silent.refl state)
  | cons command rest ih =>
      obtain ⟨first, later⟩ := List.forall_mem_cons.mp each
      have here := first index state
      by_cases halts : (evaluateCommand host command).Halts state
      · rw [traceCommands_of_halts halts, finalState_evaluateCommands_of_halts halts]
        exact here
      · obtain ⟨between, proceeds⟩ := Run.exists_proceed_of_not_halts halts
        rw [Run.finalState_of_ok proceeds] at here
        rw [traceCommands_of_proceed proceeds, finalState_evaluateCommands_of_proceed proceeds,
          succeeded_append]
        exact here.append (ih later (index + 1) between)

/-- **A command does what is asked for by the commands that it starts and that do not fail**, by
induction on the tree. -/
theorem did_evaluateCommand (index : Nat) (command : Command) (state : State) :
    Did host.registries (succeeded host (traceCommand host index command state)) state
      ((evaluateCommand host command).finalState state) := by
  induction command using Command.induction generalizing index state with
  | node name arguments block coordinate nested =>
      let command : Command := ⟨name, arguments, block, coordinate⟩
      rw [traceCommand_apply]
      cases began : command.begin host state with
      | error error after =>
          have failed := evaluateCommand_of_begin_error began
          rw [Run.finalState_of_error failed, succeeded_cons_of_error _ failed]
          exact .nil (silent_of_begin_error began)
      | ok begun after =>
          obtain ⟨implementation, next⟩ := begun
          cases next with
          | done flow =>
              have ended := evaluateCommand_of_begin_done began
              rw [Run.finalState_of_ok ended, succeeded_cons_of_ok _ ended]
              exact (did_of_begin began).then_silent ⟨rfl, rfl⟩
          | block inner =>
              have own : block = some inner := Command.block_eq_of_begin began
              subst own
              let start : Start := ⟨[], index, command, state⟩
              let entry : State := { after with scopes := after.scopes.push }
              have here : Did host.registries (succeeded host [start]) state after := by
                cases ended : evaluateCommand host command state with
                | error error left =>
                    rw [succeeded_cons_of_error _ ended]
                    exact .nil (silent_of_begin_block began)
                | ok flow left =>
                    rw [succeeded_cons_of_ok _ ended]
                    exact did_of_begin began
              have inside : Did host.registries (succeeded host (traceCommands host 0 inner entry))
                  entry ((evaluateCommands host inner).finalState entry) :=
                did_of_each host nested 0 entry
              have entering : Did host.registries (succeeded host [start]) state entry :=
                here.then_silent ⟨rfl, rfl⟩
              have whole := entering.append inside
              rw [← succeeded_inside index (traceCommands host 0 inner entry), ← succeeded_append]
                at whole
              -- leaving the block and concluding the command does nothing more
              have leaving : silent.le ((evaluateCommands host inner).finalState entry)
                  ((evaluateCommand host command).finalState state) := by
                rcases finalState_evaluateCommand_of_begin_block began with left | left
                · rw [left, evaluateBlock, Run.finalState_inScope]
                  exact ⟨rfl, rfl⟩
                · rw [left, evaluateBlock, Run.finalState_inScope]
                  exact ⟨rfl, rfl⟩
              exact whole.then_silent leaving

/-- **What a run of commands does** is what those ask for that succeed, in their order. -/
theorem did_evaluateCommands (index : Nat) (commands : List Command) (state : State) :
    Did host.registries (succeeded host (traceCommands host index commands state)) state
      ((evaluateCommands host commands).finalState state) :=
  did_of_each host (fun command _ index => did_evaluateCommand host index command) index state

end Runs

/-- **Nothing is invented, repeated, moved or taken back.**  However a run ends, the commands that
it has started without failing are some of those written in the script, in the same order.  It has
left the message as it was but for the actions that these commands ask for, behind those that were
pending, and its log has what these commands write.  So both are what the script asks for with some
of it left out. -/
theorem effects_static (host : Host) (script : Script) (message : Message) :
    let after := (script.evaluate host message).state
    let done := succeeded host (script.trace host message)
    let collected := done.filterMap (Command.action? host.registries)
    done.Sublist (script.commands.flatMap Command.nodes) ∧
      after.message = { message with pending := message.pending ++ collected } ∧
      after.log = done.filterMap (Command.written? host.registries) ∧
      collected.Sublist (script.staticActions host.registries) ∧
      after.log.Sublist (script.staticEntries host.registries) := by
  intro after done collected
  have written : done.Sublist (script.commands.flatMap Command.nodes) :=
    (succeeded_sublist _).trans (traceCommands_sublist 0 script.commands { message })
  have did : Did host.registries done { message } after := by
    rw [show after = _ from Run.outcome_state _ _]
    exact did_evaluateCommands host 0 script.commands { message }
  have log : after.log = done.filterMap (Command.written? host.registries) := did.log
  refine ⟨written, did.message, log, written.filterMap _, ?_⟩
  rw [log]
  exact written.filterMap _

end MailSieve
