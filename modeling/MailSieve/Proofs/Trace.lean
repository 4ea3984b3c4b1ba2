import MailSieve.Proofs.Boundary

/-!
# The commands that a run starts

A run comes to some of the commands of its tree, one after the other, and passes over the rest.  Its
trace lists those it comes to in the order of time, so that what was earlier in the run, or last,
can be said.

* `Start` is a command that is started: where it stands, and the state in which it is started.
* `traceCommand`, `traceCommands` and `Script.trace` list the starts of a run.  A command comes
  before those in its block, and these before the commands behind it.
* `listAt?` finds the list in which a command stands.
* `exists_list_of_mem_traceCommands`: a command is started once all commands before it in its list
  have been evaluated.
* `Start.Passed`, `Start.Executed` and `Start.OutOfOrder`: how far the command has come by its
  checks.
-/

namespace MailSieve

/-- A command that a run has come to. -/
structure Start where
  /-- The indices of the commands around it, each in its own list, outermost first. -/
  outer : List Nat
  /-- Its index in the list in which it stands. -/
  index : Nat
  command : Command
  /-- The state in which its evaluation is started. -/
  state : State

/-- The indices that lead to the command, from the outermost list to its own. -/
def Start.place (start : Start) : List Nat := start.outer ++ [start.index]

/-- A start in the block of the command with this index. -/
def Start.inside (index : Nat) (start : Start) : Start :=
  { start with outer := index :: start.outer }

@[simp] theorem Start.place_inside (index : Nat) (start : Start) :
    (start.inside index).place = index :: start.place := rfl

mutual

/-- The starts in the evaluation of a command, which has the given index: its own, and those in its
block if the run gets there. -/
def traceCommand (host : Host) (index : Nat) : Command → State → List Start
  | ⟨name, arguments, block, coordinate⟩, state =>
      let command : Command := ⟨name, arguments, block, coordinate⟩
      ⟨[], index, command, state⟩ ::
        match command.begin host state with
        | .ok (_, .block _) entry =>
            (traceBlock host block { entry with scopes := entry.scopes.push }).map
              (Start.inside index)
        | _ => []

/-- What starts inside a block, if there is one. -/
def traceBlock (host : Host) : Option (List Command) → State → List Start
  | none, _ => []
  | some commands, state => traceCommands host 0 commands state

/-- The starts in a run of commands, the first of which has the given index. -/
def traceCommands (host : Host) (index : Nat) : List Command → State → List Start
  | [], _ => []
  | command :: rest, state =>
      traceCommand host index command state ++
        match evaluateCommand host command state with
        | .ok .proceed between => traceCommands host (index + 1) rest between
        | _ => []

end

/-- The starts in the run of a script on a message, from a fresh state. -/
def Script.trace (host : Host) (script : Script) (message : Message) : List Start :=
  traceCommands host 0 script.commands { message }

section Equations

variable (host : Host) (index : Nat) (command : Command) (rest : List Command) (state : State)

@[simp] theorem traceCommands_nil : traceCommands host index [] state = [] := by
  rw [traceCommands]

/-- The starts of the first command come first, and behind them those of the others if it lets the
run go on. -/
theorem traceCommands_cons :
    traceCommands host index (command :: rest) state =
      traceCommand host index command state ++
        match evaluateCommand host command state with
        | .ok .proceed between => traceCommands host (index + 1) rest between
        | _ => [] := by
  rw [traceCommands]

/-- **The starts of a command**, by what it does before its block. -/
theorem traceCommand_apply :
    traceCommand host index command state =
      ⟨[], index, command, state⟩ ::
        match command.begin host state with
        | .ok (_, .block inner) entry =>
            (traceCommands host 0 inner { entry with scopes := entry.scopes.push }).map
              (Start.inside index)
        | _ => [] := by
  cases began : command.begin host state with
  | error error after =>
      obtain ⟨name, arguments, block, coordinate⟩ := command
      rw [traceCommand, began]
  | ok begun entry =>
      obtain ⟨implementation, next⟩ := begun
      cases next with
      | done flow =>
          obtain ⟨name, arguments, block, coordinate⟩ := command
          rw [traceCommand, began]
      | block inner =>
          have own := Command.block_eq_of_begin began
          obtain ⟨name, arguments, block, coordinate⟩ := command
          cases own
          rw [traceCommand, began]
          rfl

end Equations

section Behind

variable {host : Host} {index : Nat} {command : Command} {rest : List Command} {state : State}

/-- Nothing is started behind a command that ends the run. -/
theorem traceCommands_of_halts (halts : (evaluateCommand host command).Halts state) :
    traceCommands host index (command :: rest) state = traceCommand host index command state := by
  rw [traceCommands_cons]
  split
  · rename_i between proceeds
    exact absurd proceeds (halts between)
  · exact List.append_nil _

/-- Behind a command that lets the run go on, the others are started from where it has ended. -/
theorem traceCommands_of_proceed {between : State}
    (proceeds : evaluateCommand host command state = .ok .proceed between) :
    traceCommands host index (command :: rest) state =
      traceCommand host index command state ++ traceCommands host (index + 1) rest between := by
  rw [traceCommands_cons, proceeds]

/-- A run that comes to the end of some commands starts the others from there. -/
theorem traceCommands_append_of_proceed {earlier : List Command} {before : State}
    (ran : evaluateCommands host earlier state = .ok .proceed before) (later : List Command) :
    traceCommands host index (earlier ++ later) state =
      traceCommands host index earlier state ++
        traceCommands host (index + earlier.length) later before := by
  induction earlier generalizing index state with
  | nil =>
      cases ran
      rw [traceCommands_nil]
      rfl
  | cons first rest ih =>
      obtain ⟨between, proceeds, behind⟩ := exists_of_evaluateCommands_cons ran
      rw [List.cons_append, traceCommands_of_proceed proceeds, traceCommands_of_proceed proceeds,
        ih behind, List.append_assoc, List.length_cons, Nat.add_comm rest.length, Nat.add_assoc]

end Behind

/-! ### Where a command is started -/

section Reached

variable {host : Host} {index : Nat} {command : Command} {commands : List Command} {state : State}
  {start : Start}

/-- What is started by a command is the command itself, or stands in its block. -/
theorem mem_traceCommand (started : start ∈ traceCommand host index command state) :
    start = ⟨[], index, command, state⟩ ∨
      ∃ implementation inner entry nested,
        command.begin host state = .ok (implementation, .block inner) entry ∧
          command.block = some inner ∧
          nested ∈ traceCommands host 0 inner { entry with scopes := entry.scopes.push } ∧
          start = nested.inside index := by
  rw [traceCommand_apply] at started
  rcases List.mem_cons.mp started with own | deeper
  · exact .inl own
  · split at deeper
    · rename_i implementation inner entry began
      obtain ⟨nested, present, rfl⟩ := List.mem_map.mp deeper
      have own := Command.block_eq_of_begin began
      exact .inr ⟨implementation, inner, entry, nested, began, own, present, rfl⟩
    · cases deeper

/-- **A command is started once those before it have been evaluated.**  What is started by a list is
started by one of its commands, and the run has come from the start of the list to that command. -/
theorem mem_traceCommands (started : start ∈ traceCommands host index commands state) :
    ∃ earlier command later before, commands = earlier ++ command :: later ∧
      evaluateCommands host earlier state = .ok .proceed before ∧
      start ∈ traceCommand host (index + earlier.length) command before := by
  induction commands generalizing index state with
  | nil =>
      rw [traceCommands_nil] at started
      cases started
  | cons command rest ih =>
      rw [traceCommands_cons] at started
      rcases List.mem_append.mp started with own | behind
      · exact ⟨[], command, rest, state, rfl, rfl, own⟩
      · split at behind
        · rename_i between proceeds
          obtain ⟨earlier, found, later, before, rfl, ran, present⟩ := ih behind
          refine ⟨command :: earlier, found, later, before, rfl, ?_, ?_⟩
          · rw [evaluateCommands_of_proceed proceeds]
            exact ran
          · rwa [List.length_cons, Nat.add_comm earlier.length, ← Nat.add_assoc]
        · cases behind

end Reached

/-- The list that is reached by going into the blocks of the commands with these indices. -/
def listAt? : List Nat → List Command → Option (List Command)
  | [], commands => some commands
  | index :: outer, commands => do
      let command ← commands[index]?
      let block ← command.block
      listAt? outer block

/-- A state in which the run of a block is started. -/
def EntersBlock (host : Host) (entry : State) : Prop :=
  ∃ command implementation inner before after,
    Command.begin host command before = .ok (implementation, .block inner) after ∧
      entry = { after with scopes := after.scopes.push }

/-- **Where a command is started**: it stands at its index in a list of the tree, and the run has
come to it through the commands before it, from where it started that list. -/
theorem exists_list_of_mem_traceCommands {host : Host} {commands : List Command} {state : State}
    {start : Start} (started : start ∈ traceCommands host 0 commands state) :
    ∃ earlier later entry,
      listAt? start.outer commands = some (earlier ++ start.command :: later) ∧
        start.index = earlier.length ∧
        evaluateCommands host earlier entry = .ok .proceed start.state ∧
        (start.outer = [] ∧ entry = state ∨ start.outer ≠ [] ∧ EntersBlock host entry) := by
  induction around : start.outer generalizing start commands state with
  | nil =>
      obtain ⟨earlier, command, later, before, rfl, ran, present⟩ := mem_traceCommands started
      rcases mem_traceCommand present with rfl | ⟨-, -, -, nested, -, -, -, rfl⟩
      · exact ⟨earlier, later, state, rfl, Nat.zero_add _, ran, .inl ⟨rfl, rfl⟩⟩
      · cases around
  | cons index outer ih =>
      obtain ⟨earlier, command, later, before, rfl, ran, present⟩ := mem_traceCommands started
      rcases mem_traceCommand present with
        rfl | ⟨implementation, inner, entry, nested, began, own, within, rfl⟩
      · cases around
      -- the start lies in the block of the command at this index, one step deeper
      · obtain ⟨rfl, deeper⟩ := List.cons.inj around
        obtain ⟨front, behind, entered, there, place, came, origin⟩ := ih within deeper
        refine ⟨front, behind, entered, ?_, place, came, .inr ⟨List.cons_ne_nil _ _, ?_⟩⟩
        · have found : (earlier ++ command :: later)[0 + earlier.length]? = some command := by
            simp
          rw [listAt?, found, Option.bind_eq_bind, Option.bind_some, own]
          exact there
        · rcases origin with ⟨-, rfl⟩ | ⟨-, enters⟩
          · exact ⟨command, implementation, inner, before, entry, began, rfl⟩
          · exact enters

/-! ### How a command fares where it is started -/

namespace Start

variable {host : Host} {start : Start} {implementation : BuiltinCommand}

/-- The command has passed its state validation. -/
def Passed (host : Host) (implementation : BuiltinCommand) (start : Start) : Prop :=
  host.registries.commands.create start.command.name = .ok implementation ∧
    implementation.validateState start.state = .ok ()

/-- The command has passed all checks, and is executed. -/
def Executed (host : Host) (implementation : BuiltinCommand) (start : Start) : Prop :=
  ∃ entered, BuiltinCommand.prepare host start.command.name
    (start.command.arguments.map (evaluateTest host)) start.command.block start.command.coordinate
      start.state = .ok implementation entered

/-- The command is refused where it stands, for a reason of order: its evaluation fails at its own
position, and has done nothing but move there. -/
def OutOfOrder (host : Host) (fault : OrderFault) (start : Start) : Prop :=
  ∃ implementation, host.registries.commands.create start.command.name = .ok implementation ∧
    implementation.validateState start.state = .error fault ∧
    evaluateCommand host start.command start.state =
      .error ⟨.order fault, start.command.coordinate⟩
        { start.state with coordinate := start.command.coordinate }

/-- A command that comes to its own part has passed its state validation. -/
theorem passed_of_begin {next : Next (List Command)} {after : State}
    (began : start.command.begin host start.state = .ok (implementation, next) after) :
    start.Passed host implementation := by
  obtain ⟨entered, prepared, -⟩ := Command.begin_eq_ok_iff.mp began
  obtain ⟨made, placed, -⟩ := BuiltinCommand.prepare_eq_ok_iff.mp prepared
  exact ⟨made, placed⟩

/-- A command that does not pass its state validation fails at once. -/
theorem outOfOrder_of_validateState {fault : OrderFault}
    (made : host.registries.commands.create start.command.name = .ok implementation)
    (refused : implementation.validateState start.state = .error fault) :
    start.OutOfOrder host fault := by
  refine ⟨implementation, made, refused, ?_⟩
  have failed := BuiltinCommand.prepare_apply host start.command.name
    (start.command.arguments.map (evaluateTest host)) start.command.block start.command.coordinate
    start.state
  simp only [made, refused] at failed
  rw [evaluateCommand_eq]
  exact Run.bind_of_error failed

end Start

end MailSieve
