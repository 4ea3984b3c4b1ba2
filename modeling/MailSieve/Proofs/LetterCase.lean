import Mathlib
import MailSieve.Proofs.Run

/-!
# Letter case of names and tags

A script may write the names of its commands and tests and its tags in any case of the letters `A`
to `Z`.  Names are folded where they are looked up, and tags wherever they are read, each kind of
tag by a reader of its own.  Only the words of an error quote a name or a tag as it was written.

* `Script.foldCase` writes all names and tags small.  Two scripts differ in their letter case alone
  if they are the same when folded.
* `SameValue` compares readers: they find the same, or both find a fault.  Every reader finds in
  folded arguments what it finds in the arguments as they are.
* `Run.SameButWords` compares runs: they end in the same state, with the same value or with errors
  of one kind at one position.  `quoting` is the instance of `Correspondence`.
* `sameButWords_testNode` and `sameButWords_commandNode` fold one node, `sameButWords_evaluateTest`
  and `sameButWords_evaluateCommands` whole trees.
* `evaluate_of_foldCase_eq` is the conclusion for scripts.
-/

namespace MailSieve

/-! ### Folded trees -/

/-- The argument with its tag, if it is one, written small. -/
def Argument.foldCase : Argument → Argument
  | tag text => .tag (Text.foldCase text)
  | stringList items => .stringList items
  | number value => .number value

/-- The arguments with their tags written small. -/
def ArgumentsOf.foldCase {α : Type} (arguments : ArgumentsOf α) : ArgumentsOf α where
  args := arguments.args.map Argument.foldCase
  tests := arguments.tests

theorem ArgumentsOf.foldCase_map {α β : Type} (f : α → β) (arguments : ArgumentsOf α) :
    (arguments.map f).foldCase = arguments.foldCase.map f := rfl

/-- The test with all names and tags in it written small. -/
def Test.foldCase : Test → Test :=
  Test.fold fun name arguments coordinate => ⟨Text.foldCase name, arguments.foldCase, coordinate⟩

/-- The folded test, with the tests nested in it folded. -/
theorem Test.foldCase_mk (name : String) (arguments : Arguments) (coordinate : Coordinate) :
    foldCase ⟨name, arguments, coordinate⟩ =
      ⟨Text.foldCase name, arguments.foldCase.map foldCase, coordinate⟩ :=
  Test.fold_mk _ name arguments coordinate

/-- The command with all names and tags in it written small, those of its tests and of its block
included. -/
def Command.foldCase : Command → Command :=
  Command.fold fun name arguments block coordinate =>
    ⟨Text.foldCase name, arguments.foldCase.map Test.foldCase, block, coordinate⟩

/-- The folded command, with its tests and its block folded. -/
theorem Command.foldCase_mk (name : String) (arguments : Arguments)
    (block : Option (List Command)) (coordinate : Coordinate) :
    foldCase ⟨name, arguments, block, coordinate⟩ =
      ⟨Text.foldCase name, arguments.foldCase.map Test.foldCase,
        block.map (List.map foldCase), coordinate⟩ :=
  Command.fold_mk _ name arguments block coordinate

/-- The script with all names and tags in it written small. -/
def Script.foldCase (script : Script) : Script where
  commands := script.commands.map Command.foldCase

/-! ### Names -/

/-- A name and its folded form have the same behind them. -/
theorem Registry.find?_foldCase {kind : EntryKind} {ι : Type} (registry : Registry kind ι)
    (name : String) : registry.find? (Text.foldCase name) = registry.find? name := by
  rw [find?, find?, Text.foldCase_foldCase]

/-! ### Readers -/

/-- Two readers find the same, or each of them finds a fault. -/
def SameValue {ε α : Type} (left right : Except ε α) : Prop := left.toOption = right.toOption

namespace SameValue

variable {ε α β γ : Type}

theorem refl (read : Except ε α) : SameValue read read := rfl

theorem of_error (left right : ε) : SameValue (.error left : Except ε α) (.error right) := rfl

/-- One reader goes on with what it finds, the other with the form in which it finds the same. -/
theorem bind_map {left : Except ε β} {right : Except ε α} {form : α → β} {rest : β → Except ε γ}
    {others : α → Except ε γ} (here : SameValue left (right.map form))
    (later : ∀ value, SameValue (rest (form value)) (others value)) :
    SameValue (left >>= rest) (right >>= others) := by
  cases left with
  | error reason =>
      cases right with
      | error other => exact of_error reason other
      | ok value => cases here
  | ok found =>
      cases right with
      | error other => cases here
      | ok value =>
          obtain rfl : found = form value := Option.some.inj here
          exact later value

theorem bind {left right : Except ε α} {rest others : α → Except ε β}
    (here : SameValue left right) (later : ∀ value, SameValue (rest value) (others value)) :
    SameValue (left >>= rest) (right >>= others) := by
  have unchanged : right.map id = right := by cases right <;> rfl
  exact bind_map (unchanged.symm ▸ here) later

theorem map {left right : Except ε α} (f : α → β) (here : SameValue left right) :
    SameValue (left.map f) (right.map f) :=
  here.bind fun value => refl (.ok (f value))

end SameValue

namespace ArgumentsOf

variable {α : Type} (arguments : ArgumentsOf α)

@[simp] theorem nothing_foldCase : arguments.foldCase.nothing = arguments.nothing := by
  simp only [nothing, foldCase, List.isEmpty_map, List.length_map]
  rfl

@[simp] theorem singleTest_foldCase : arguments.foldCase.singleTest = arguments.singleTest := by
  simp [singleTest, foldCase]

@[simp] theorem listOfTests_foldCase : arguments.foldCase.listOfTests = arguments.listOfTests := by
  simp [listOfTests, foldCase]

/-- A list of strings has no tag to fold. -/
theorem sameValue_stringList : SameValue arguments.foldCase.stringList arguments.stringList := by
  obtain ⟨args, tests⟩ := arguments
  refine .bind (.refl _) fun _ => ?_
  rcases args with _ | ⟨argument, _ | ⟨second, rest⟩⟩
  · exact .refl _
  · cases argument with
    | stringList | number => exact .refl _
    | tag => exact .of_error _ _
  · cases argument <;> exact .of_error _ _

theorem sameValue_singleString :
    SameValue arguments.foldCase.singleString arguments.singleString :=
  arguments.sameValue_stringList.bind fun _ => .refl _

/-- A limit on the size is read alike in any case of its tag. -/
theorem sameValue_sizeLimit : SameValue arguments.foldCase.sizeLimit arguments.sizeLimit := by
  obtain ⟨args, tests⟩ := arguments
  refine .bind (.refl _) fun _ => ?_
  rcases args with _ | ⟨argument, _ | ⟨second, _ | ⟨third, rest⟩⟩⟩
  · exact .of_error _ _
  · cases argument <;> exact .of_error _ _
  · cases argument with
    | stringList | number => exact .of_error _ _
    | tag text =>
        cases second with
        | stringList | tag => exact .of_error _ _
        | number limit =>
            simp only [foldCase, List.map_cons, List.map_nil, Argument.foldCase,
              SizeBound.ofTag?_foldCase]
            cases SizeBound.ofTag? text with
            | none => exact .of_error _ _
            | some bound => exact .refl _
  · cases argument with
    | stringList | number => exact .of_error _ _
    | tag => cases second <;> exact .of_error _ _

/-- A level is read alike in any case of its tag, and the arguments behind it are left folded. -/
theorem sameValue_leadingLevel (args : List Argument) :
    SameValue (leadingLevel (args.map Argument.foldCase))
      ((leadingLevel args).map fun read => (read.1, read.2.map Argument.foldCase)) := by
  rcases args with _ | ⟨argument, rest⟩
  · exact .refl _
  · cases argument with
    | stringList | number => exact .refl _
    | tag text =>
        simp only [leadingLevel, List.map_cons, Argument.foldCase, LogLevel.ofTag?_foldCase]
        cases LogLevel.ofTag? text with
        | none => exact .of_error _ _
        | some level => exact .refl _

/-- The level and message of a log entry are read alike in any case of the tag. -/
theorem sameValue_logMessage : SameValue arguments.foldCase.logMessage arguments.logMessage := by
  refine .bind (.refl _) fun _ => ?_
  refine .bind_map (sameValue_leadingLevel arguments.args) fun (level, rest) => ?_
  rcases rest with _ | ⟨argument, _ | ⟨second, rest⟩⟩
  · exact .refl _
  · cases argument <;> exact .refl _
  · cases argument with
    | number | tag => exact .of_error _ _
    | stringList items => rcases items with _ | ⟨_, _ | _⟩ <;> exact .of_error _ _

end ArgumentsOf

/-- Tags of a match are read alike in any case, by induction along the arguments; those behind the
tags are left folded. -/
theorem sameValue_readMatchTags (addressParts : Bool) (tags : MatchTags) (args : List Argument) :
    SameValue (readMatchTags addressParts tags (args.map Argument.foldCase))
      ((readMatchTags addressParts tags args).map fun read =>
        (read.1, read.2.map Argument.foldCase)) := by
  fun_induction readMatchTags addressParts tags args with
  | case1 tags tag isComparator name rest ih =>
      rw [← Text.sameIgnoringCase_foldCase] at isComparator
      rw [List.map_cons, Argument.foldCase, readMatchTags_comparator _ isComparator]
      cases tags.comparator with
      | none => exact ih (some name)
      | some earlier => exact .of_error _ _
  | case2 tags tag rest isComparator unnamed =>
      -- no name follows, and folding the tags does not turn anything into one
      rw [← Text.sameIgnoringCase_foldCase] at isComparator
      rw [List.map_cons, Argument.foldCase, readMatchTags_comparator _ isComparator]
      rcases rest with _ | ⟨argument, rest⟩
      · exact .of_error _ _
      · cases argument with
        | number | tag => exact .of_error _ _
        | stringList items =>
            rcases items with _ | ⟨name, _ | ⟨second, others⟩⟩
            · exact .of_error _ _
            · exact (unnamed name rest rfl).elim
            · exact .of_error _ _
  | case3 tags tag rest noComparator matchType read ih =>
      rw [← Text.sameIgnoringCase_foldCase] at noComparator
      rw [← MatchType.ofTag?_foldCase] at read
      rw [List.map_cons, Argument.foldCase, readMatchTags_matchType _ noComparator read]
      cases tags.matchType with
      | none => exact ih (some matchType)
      | some earlier => exact .of_error _ _
  | case4 tags tag rest noComparator part allowed read noMatchType ih =>
      obtain rfl := allowed
      rw [← Text.sameIgnoringCase_foldCase] at noComparator
      rw [← MatchType.ofTag?_foldCase] at noMatchType
      rw [← AddressPart.ofTag?_foldCase] at read
      rw [List.map_cons, Argument.foldCase,
        readMatchTags_addressPart _ noComparator noMatchType read]
      cases tags.addressPart with
      | none => exact ih (some part)
      | some earlier => exact .of_error _ _
  | case5 tags tag rest noComparator noMatchType noPart =>
      have unread : MatchType.ofTag? tag = none := Option.eq_none_iff_forall_ne_some.mpr noMatchType
      have unallowed : ∀ part, AddressPart.ofTag? (Text.foldCase tag) = some part →
          addressParts ≠ true := by
        intro part read
        exact noPart part unread (AddressPart.ofTag?_foldCase tag ▸ read)
      rw [← Text.sameIgnoringCase_foldCase] at noComparator
      rw [← MatchType.ofTag?_foldCase] at unread
      rw [List.map_cons, Argument.foldCase,
        readMatchTags_unexpected _ noComparator unread unallowed]
      exact .of_error _ _
  | case6 tags args untagged =>
      rcases args with _ | ⟨argument, rest⟩
      · exact .refl _
      · cases argument with
        | stringList | number => exact .refl _
        | tag text => exact (untagged text rest rfl).elim

/-- The arguments of a match are read alike in any case of their tags. -/
theorem ArgumentsOf.sameValue_matchArguments {α : Type} (addressParts : Bool)
    (arguments : ArgumentsOf α) :
    SameValue (arguments.foldCase.matchArguments addressParts)
      (arguments.matchArguments addressParts) := by
  refine .bind (.refl _) fun _ => ?_
  refine .bind_map (sameValue_readMatchTags addressParts {} arguments.args) fun (tags, rest) => ?_
  rcases rest with _ | ⟨argument, _ | ⟨second, _ | ⟨third, rest⟩⟩⟩
  · exact .refl _
  · cases argument <;> exact .refl _
  · cases argument <;> cases second <;> exact .refl _
  · cases argument <;> cases second <;> exact .refl _

section Accepted

variable {α : Type} (arguments : ArgumentsOf α)

/-- A test accepts arguments in any case of their tags. -/
theorem BuiltinTest.sameValue_validateArguments (test : BuiltinTest) :
    SameValue (test.validateArguments arguments.foldCase) (test.validateArguments arguments) := by
  cases test with
  | constant value => exact congrArg Except.toOption arguments.nothing_foldCase
  | negation =>
      rw [validateArguments, validateArguments, arguments.singleTest_foldCase]
      exact .refl _
  | anyOf | allOf =>
      rw [validateArguments, validateArguments, arguments.listOfTests_foldCase]
      exact .refl _
  | header => exact (arguments.sameValue_matchArguments false).map fun _ => ()
  | address => exact (arguments.sameValue_matchArguments true).map fun _ => ()
  | presence => exact arguments.sameValue_stringList.map fun _ => ()
  | size => exact arguments.sameValue_sizeLimit.map fun _ => ()

theorem ActionCommand.sameValue_validateArguments (command : ActionCommand) :
    SameValue (command.validateArguments arguments.foldCase)
      (command.validateArguments arguments) := by
  cases command with
  | keep | discard => exact congrArg Except.toOption arguments.nothing_foldCase
  | fileInto | redirect | reject => exact arguments.sameValue_singleString.bind fun _ => .refl _

/-- The action of a command does not depend on the case of tags. -/
theorem ActionCommand.sameValue_actionOf (command : ActionCommand) :
    SameValue (command.actionOf arguments.foldCase) (command.actionOf arguments) := by
  cases command with
  | keep | discard => exact .refl _
  | fileInto | redirect | reject => exact arguments.sameValue_singleString.map _

/-- A command accepts arguments in any case of their tags. -/
theorem BuiltinCommand.sameValue_validateArguments (command : BuiltinCommand) :
    SameValue (command.validateArguments arguments.foldCase)
      (command.validateArguments arguments) := by
  cases command with
  | require => exact arguments.sameValue_stringList.bind fun _ => .refl _
  | branch member =>
      cases member with
      | opening | alternative =>
          rw [validateArguments, validateArguments, arguments.singleTest_foldCase]
          exact .refl _
      | fallback => exact congrArg Except.toOption arguments.nothing_foldCase
  | stop => exact congrArg Except.toOption arguments.nothing_foldCase
  | action own => exact own.sameValue_validateArguments arguments
  | log => exact arguments.sameValue_logMessage.bind fun _ => .refl _

end Accepted

/-! ### Runs -/

namespace Run

variable {α β : Type}

/-- Two computations have ended in the same state, with the same value or with errors of the same
kind at the same position. -/
inductive EndsAlike : EStateM.Result RunError State α → EStateM.Result RunError State α → Prop
  | ok (value : α) (after : State) : EndsAlike (.ok value after) (.ok value after)
  | error {error other : RunError} (kind : other.kind = error.kind)
      (coordinate : other.coordinate = error.coordinate) (after : State) :
      EndsAlike (.error error after) (.error other after)

/-- Two computations that differ in nothing but the words of their errors. -/
def SameButWords (run other : Run α) : Prop := ∀ state, EndsAlike (run state) (other state)

namespace SameButWords

theorem refl (run : Run α) : SameButWords run run := by
  intro state
  cases run state with
  | ok value after => exact .ok value after
  | error error after => exact .error rfl rfl after

theorem trans {first second third : Run α} (here : SameButWords first second)
    (there : SameButWords second third) : SameButWords first third := by
  intro state
  have left := here state
  have right := there state
  generalize first state = ended, second state = between, third state = others at left right
  cases left with
  | ok value after => exact right
  | error kind coordinate after =>
      cases right with
      | error kindThere coordinateThere =>
          exact .error (kindThere.trans kind) (coordinateThere.trans coordinate) after

/-- Two computations in a row differ in the words of errors only, if both do. -/
theorem bind {run other : Run α} {rest others : α → Run β} (here : SameButWords run other)
    (later : ∀ value, SameButWords (rest value) (others value)) :
    SameButWords (run >>= rest) (other >>= others) := by
  intro state
  rw [bind_apply, bind_apply]
  have first := here state
  generalize run state = ended, other state = otherEnded at first
  cases first with
  | ok value after => exact later value after
  | error kind coordinate after => exact .error kind coordinate after

/-- Causes of one kind make errors that differ in their words only. -/
theorem fail {cause other : Cause} (kind : other.kind = cause.kind) :
    SameButWords (Run.fail cause : Run α) (Run.fail other) :=
  fun state =>
    have same : RunError.kind ⟨other, state.coordinate⟩ = RunError.kind ⟨cause, state.coordinate⟩ :=
      kind
    .error same rfl state

/-- Readers that find the same differ at most in their faults. -/
theorem ofShape {left right : Except ShapeFault α} (same : SameValue left right) :
    SameButWords (Run.ofShape left) (Run.ofShape right) := by
  cases left with
  | error fault =>
      cases right with
      | error other => exact fail rfl
      | ok value => cases same
  | ok found =>
      cases right with
      | error other => cases same
      | ok value =>
          obtain rfl : found = value := Option.some.inj same
          exact refl _

/-- A name is found in any case, and quoted as it is written where it is not. -/
theorem create {kind : EntryKind} (registry : Registry kind α) (name : String) :
    SameButWords (ofExcept id (registry.create (Text.foldCase name)))
      (ofExcept id (registry.create name)) := by
  rw [Registry.create, Registry.create, registry.find?_foldCase]
  rcases registry.find? name with _ | constructor
  · exact fail rfl
  · cases constructor with
    | error reason => exact fail rfl
    | ok implementation => exact refl _

/-- A scope adds no difference. -/
theorem inScope {run other : Run α} (inner : SameButWords run other) :
    SameButWords (Run.inScope run) (Run.inScope other) := by
  intro state
  have within := inner { state with scopes := state.scopes.push }
  unfold Run.inScope
  generalize run { state with scopes := state.scopes.push } = ended,
    other { state with scopes := state.scopes.push } = otherEnded at within
  cases within with
  | ok value after => exact .ok value _
  | error kind coordinate after => exact .error kind coordinate _

end SameButWords

end Run

/-- Every operation is the same but for the words of its errors as itself, and sequencing keeps
this. -/
def quoting (host : Host) : Correspondence host host where
  Related := Run.SameButWords
  related_pure value := .refl (pure value)
  related_bind := .bind
  related_fail _ := .refl (Run.fail _)
  related_moveTo coordinate := .refl (Run.moveTo coordinate)
  related_ask call answer := .refl (Run.ask host call answer)
  related_test _ := .refl _
  related_comparator _ := .refl _
  related_command _ := .refl _
  related_order _ := .refl _
  related_feature _ := .refl _
  related_current := .refl _
  related_record _ := .refl _
  related_write _ _ := .refl _
  related_enter _ := .refl _
  related_collect _ := .refl _
  related_update _ := .refl _
  related_leave _ := .refl _
  related_inScope := .inScope

/-! ### Nodes -/

section Nodes

variable {host : Host} (arguments : ArgumentsOf (Run Bool))

/-- A test evaluates folded arguments as it does those written. -/
theorem BuiltinTest.sameButWords_evaluate (test : BuiltinTest) :
    Run.SameButWords (test.evaluate host arguments.foldCase) (test.evaluate host arguments) := by
  cases test with
  | constant value => exact .refl _
  | negation =>
      rw [evaluate, evaluate, arguments.singleTest_foldCase]
      exact .refl _
  | anyOf | allOf =>
      rw [evaluate, evaluate, arguments.listOfTests_foldCase]
      exact .refl _
  | header => exact .bind (.ofShape (arguments.sameValue_matchArguments false)) fun _ => .refl _
  | address => exact .bind (.ofShape (arguments.sameValue_matchArguments true)) fun _ => .refl _
  | presence => exact .bind (.ofShape arguments.sameValue_stringList) fun _ => .refl _
  | size => exact .bind (.ofShape arguments.sameValue_sizeLimit) fun _ => .refl _

/-- A test with its name and its own tags folded. -/
theorem sameButWords_testNode (name : String) (coordinate : Coordinate) :
    Run.SameButWords
      (BuiltinTest.runNode host (Text.foldCase name) arguments.foldCase coordinate)
      (BuiltinTest.runNode host name arguments coordinate) :=
  .bind (.refl _) fun _ =>
    .bind (.create _ name) fun test =>
      .bind (.ofShape (test.sameValue_validateArguments arguments)) fun _ =>
        test.sameButWords_evaluate arguments

variable {β : Type} (block : Option β)

/-- The own part of a command does with folded arguments what it does with those written. -/
theorem BuiltinCommand.sameButWords_act (command : BuiltinCommand) :
    Run.SameButWords (command.act host arguments.foldCase block)
      (command.act host arguments block) := by
  cases command with
  | require => exact .bind (.ofShape arguments.sameValue_stringList) fun _ => .refl _
  | branch member =>
      cases member with
      | opening | alternative =>
          rw [act, act, actGuarded, actGuarded, arguments.singleTest_foldCase]
          exact .refl _
      | fallback => exact .refl _
  | stop => exact .refl _
  | action own => exact .bind (.ofShape (own.sameValue_actionOf arguments)) fun _ => .refl _
  | log => exact .bind (.ofShape arguments.sameValue_logMessage) fun _ => .refl _

/-- The checks of a command find the same in a folded node. -/
theorem BuiltinCommand.sameButWords_prepare (name : String) (coordinate : Coordinate) :
    Run.SameButWords (prepare host (Text.foldCase name) arguments.foldCase block coordinate)
      (prepare host name arguments block coordinate) :=
  .bind (.refl _) fun _ =>
    .bind (.create _ name) fun command =>
      .bind (.refl get) fun _ =>
        .bind (.refl _) fun _ =>
          .bind (.refl (Run.setFlags command.enterFlags)) fun _ =>
            .bind (.ofShape (command.sameValue_validateArguments arguments)) fun _ => .refl _

/-- A command with its name and its own tags folded. -/
theorem sameButWords_commandNode (block : Option (Run Flow)) (name : String)
    (coordinate : Coordinate) :
    Run.SameButWords
      (BuiltinCommand.runNode host (Text.foldCase name) arguments.foldCase block coordinate)
      (BuiltinCommand.runNode host name arguments block coordinate) :=
  .bind (BuiltinCommand.sameButWords_prepare arguments block name coordinate) fun command =>
    .bind (.bind (command.sameButWords_act arguments block) fun _ => .refl _) fun _ => .refl _

end Nodes

/-! ### Trees -/

section Trees

variable (host : Host)

/-- **Tests are evaluated alike in any case of their names and tags.** -/
theorem sameButWords_evaluateTest (test : Test) :
    Run.SameButWords (evaluateTest host test.foldCase) (evaluateTest host test) := by
  induction test using Test.induction with
  | node name arguments coordinate nested =>
      rw [Test.foldCase_mk, evaluateTest_mk, evaluateTest_mk, ArgumentsOf.map_map,
        ← ArgumentsOf.foldCase_map]
      -- the name and the tags of this node first, above folded tests; the hypothesis has the rest
      refine .trans (sameButWords_testNode _ name coordinate) ?_
      exact (quoting host).related_testNode name arguments coordinate nested

variable {host} in
/-- Lists of commands differ in the words of errors only, if each command does. -/
theorem sameButWords_evaluateCommands_of_each {commands : List Command}
    (each : ∀ command ∈ commands,
      Run.SameButWords (evaluateCommand host command.foldCase) (evaluateCommand host command)) :
    Run.SameButWords (evaluateCommands host (commands.map Command.foldCase))
      (evaluateCommands host commands) := by
  rw [evaluateCommands, evaluateCommands, List.map_map]
  exact (quoting host).related_sequence each

/-- **Commands are evaluated alike in any case of their names and tags.** -/
theorem sameButWords_evaluateCommand (command : Command) :
    Run.SameButWords (evaluateCommand host command.foldCase) (evaluateCommand host command) := by
  induction command using Command.induction with
  | node name arguments block coordinate nested =>
      rw [Command.foldCase_mk, evaluateCommand_mk, evaluateCommand_mk, ArgumentsOf.map_map,
        ← ArgumentsOf.foldCase_map, Option.map_map]
      refine .trans (sameButWords_commandNode _ _ name coordinate) ?_
      refine (quoting host).related_commandNode name arguments block coordinate
        (fun guard _ => sameButWords_evaluateTest host guard) fun commands present => ?_
      refine .inScope
        (sameButWords_evaluateCommands_of_each fun command inside => nested command ?_)
      rwa [Option.mem_def.mp present]

/-- Folded commands run as those written do. -/
theorem sameButWords_evaluateCommands (commands : List Command) :
    Run.SameButWords (evaluateCommands host (commands.map Command.foldCase))
      (evaluateCommands host commands) :=
  sameButWords_evaluateCommands_of_each fun command _ => sameButWords_evaluateCommand host command

end Trees

/-! ### Scripts -/

/-- Computations that are the same but for the words of their errors come to such outcomes. -/
theorem Run.SameButWords.outcome {run other : Run Flow} (same : SameButWords run other)
    (state : State) :
    (run.outcome state).state = (other.outcome state).state ∧
      (run.outcome state).result.mapError (fun error => (error.kind, error.coordinate)) =
        (other.outcome state).result.mapError fun error => (error.kind, error.coordinate) := by
  have ended := same state
  unfold Run.outcome
  generalize run state = first, other state = second at ended
  cases ended with
  | ok value after => exact ⟨rfl, rfl⟩
  | error kind coordinate after => exact ⟨rfl, by simp [Except.mapError, kind, coordinate]⟩

/-- **Letter case of names and tags never matters.**  Two scripts that are the same when their names
and tags are folded end in the same state, so with the same actions and the same log, and with the
same flow or with errors of the same kind at the same position. -/
theorem evaluate_of_foldCase_eq (host : Host) {script other : Script}
    (same : script.foldCase = other.foldCase) (message : Message) :
    let first := script.evaluate host message
    let second := other.evaluate host message
    second.state = first.state ∧
      second.result.mapError (fun error => (error.kind, error.coordinate)) =
        first.result.mapError fun error => (error.kind, error.coordinate) := by
  intro first second
  have folded : ∀ tree : Script,
      Run.SameButWords (evaluateCommands host tree.foldCase.commands)
        (evaluateCommands host tree.commands) :=
    fun tree => sameButWords_evaluateCommands host tree.commands
  obtain ⟨state, result⟩ := (folded script).outcome { message }
  obtain ⟨otherState, otherResult⟩ := (folded other).outcome { message }
  rw [same] at state result
  exact ⟨otherState.symm.trans state, otherResult.symm.trans result⟩

/-- A script that shouts keeps the message that the same script keeps in small letters. -/
theorem evaluate_of_foldCase_eq_shouted :
    let host : Host := { registries := .builtin }
    let message : Message := { headers := [⟨"Subject", "The release is out"⟩] }
    let script (choice condition comparator relation action : String) : Script :=
      { commands := [
        { name := choice
          arguments := { tests := some [
            { name := condition
              arguments := { args := [.tag comparator, .stringList ["i;ascii-casemap"],
                .tag relation, .stringList ["Subject"], .stringList ["RELEASE"]] } }] }
          block := some [{ name := action }] }] }
    let shouted := script "IF" "Header" ":COMPARATOR" ":CONTAINS" "KEEP"
    (shouted.evaluate host message).state.message.pending = [.keep] ∧
      (shouted.evaluate host message).result.toOption = some .proceed := by
  intro host message script shouted
  let quiet := script "if" "header" ":comparator" ":contains" "keep"
  have same : quiet.foldCase = shouted.foldCase := by cbv
  obtain ⟨state, result⟩ := evaluate_of_foldCase_eq host same message
  have pending : (quiet.evaluate host message).state.message.pending = [.keep] := by
    decide +kernel
  have proceeds : (quiet.evaluate host message).result.toOption = some .proceed := by
    decide +kernel
  have toOption_mapError (ended : Except RunError Flow) :
      (ended.mapError fun error => (error.kind, error.coordinate)).toOption = ended.toOption := by
    cases ended <;> rfl
  refine ⟨state ▸ pending, ?_⟩
  rw [← toOption_mapError, result, toOption_mapError]
  exact proceeds

end MailSieve
