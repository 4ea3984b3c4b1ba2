import MailSieve.Proofs.Correspondence

/-!
# Well-formed scripts

What can be said of a script before it runs: every name stands for something, every node has the
arguments and the block its implementation asks for, and every command stands where it may.  The
whole tree is looked at, branches that are never taken included.

* `Place` is what a list of commands allows for its next command, told from the commands before.
* `Test.WellFormed` and `WellFormed` are the conditions, on tests and on lists of commands.
* The readers of an implementation succeed on arguments that it has accepted
  (`BuiltinTest.validateArguments`, `BuiltinCommand.validateArguments`).
-/

namespace MailSieve

/-! ### The conditions -/

/-- The comparator of a match, named or default, is one of those that are built in. -/
def Registries.Collates (registries : Registries) (wanted : MatchArguments) : Prop :=
  ∃ collation : Collation,
    registries.comparators.create (wanted.comparator.getD registries.defaultComparator) =
      .ok collation.comparator

/-- A test on headers compares by something that is built in. -/
def BuiltinTest.Comparable (registries : Registries) (test : BuiltinTest) (arguments : Arguments) :
    Prop :=
  match test with
  | header => ∀ wanted, arguments.matchArguments false = .ok wanted → registries.Collates wanted
  | address => ∀ wanted, arguments.matchArguments true = .ok wanted → registries.Collates wanted
  | _ => True

/-- A test whose nodes all have an implementation, and the arguments it asks for. -/
inductive Test.WellFormed (registries : Registries) : Test → Prop
  | node {name : String} {arguments : Arguments} {coordinate : Coordinate} {test : BuiltinTest}
      (made : registries.tests.create name = .ok test)
      (shaped : test.validateArguments arguments = .ok ())
      (comparable : test.Comparable registries arguments)
      (nested : ∀ inner ∈ arguments.testList, inner.WellFormed registries) :
      WellFormed registries ⟨name, arguments, coordinate⟩

/-- Where a command stands in its list. -/
structure Place where
  /-- At the top of the script, and behind prolog commands alone. -/
  inProlog : Bool
  /-- Right behind an `if` or `elsif`. -/
  behindBranch : Bool

namespace Place

/-- The start of a script. -/
def top : Place := ⟨true, false⟩

/-- The start of a block. -/
def block : Place := ⟨false, false⟩

/-- The place behind a command. -/
def after (place : Place) (command : BuiltinCommand) : Place where
  inProlog := place.inProlog && command.kind = .prolog
  behindBranch := command.continuesChain

/-- Whether a command may stand in the place. -/
def Admits (place : Place) : BuiltinCommand → Prop
  | .require => place.inProlog = true
  | .branch .alternative | .branch .fallback => place.behindBranch = true
  | _ => True

end Place

/-- The features that are required are available. -/
def BuiltinCommand.Available (registries : Registries) (command : BuiltinCommand)
    (arguments : Arguments) : Prop :=
  command = require → ∀ features, arguments.stringList = .ok features →
    ∀ feature ∈ features, registries.supportsFeature feature = true

/-- A command that is no `require` asks for no features, so all that it asks for are there. -/
theorem BuiltinCommand.available_of_ne {registries : Registries} {command : BuiltinCommand}
    (other : command ≠ require) (arguments : Arguments) :
    command.Available registries arguments :=
  fun here => absurd here other

/-- What is asked of a command by itself. -/
structure Command.Sound (registries : Registries) (implementation : BuiltinCommand)
    (command : Command) : Prop where
  made : registries.commands.create command.name = .ok implementation
  shaped : implementation.validateArguments command.arguments = .ok ()
  blocked : implementation.validateBlock command.block = .ok ()
  available : implementation.Available registries command.arguments
  tests : ∀ test ∈ command.arguments.testList, test.WellFormed registries

/-- A list of commands in which every command has an implementation and what this asks for, and
stands where it may, in all blocks. -/
inductive WellFormed (registries : Registries) : Place → List Command → Prop
  | nil (place : Place) : WellFormed registries place []
  | cons {place : Place} {command : Command} {rest : List Command}
      {implementation : BuiltinCommand} (sound : command.Sound registries implementation)
      (placed : place.Admits implementation)
      (block : WellFormed registries .block command.blockList)
      (later : WellFormed registries (place.after implementation) rest) :
      WellFormed registries place (command :: rest)

/-! ### Arguments that were accepted -/

/-- What was read and thrown away can be read again. -/
theorem exists_of_discard {ε α : Type} {read : Except ε α} (passed : discard read = .ok ()) :
    ∃ value, read = .ok value := by
  cases read with
  | ok value => exact ⟨value, rfl⟩
  | error reason => cases passed

/-- A check that only reads passes if it can read. -/
theorem exists_of_discard_bind {ε α : Type} {read : Except ε α}
    (passed : (do let _ ← read; .ok ()) = Except.ok ()) : ∃ value, read = .ok value := by
  cases read with
  | ok value => exact ⟨value, rfl⟩
  | error reason => cases passed

/-- An action command whose arguments were accepted knows its action. -/
theorem ActionCommand.exists_actionOf {command : ActionCommand} {arguments : Arguments}
    (shaped : command.validateArguments arguments = .ok ()) :
    ∃ action, command.actionOf arguments = .ok action := by
  cases command with
  | keep => exact ⟨.keep, rfl⟩
  | discard => exact ⟨.discard, rfl⟩
  | fileInto =>
      obtain ⟨text, read⟩ := exists_of_discard_bind shaped
      exact ⟨.fileInto text, by rw [actionOf, read]; rfl⟩
  | reject =>
      obtain ⟨text, read⟩ := exists_of_discard_bind shaped
      exact ⟨.reject text, by rw [actionOf, read]; rfl⟩
  | redirect =>
      cases read : arguments.singleString with
      | ok text => exact ⟨.redirect (Text.trimmed text), by rw [actionOf, read]; rfl⟩
      | error fault =>
          rw [validateArguments, read] at shaped
          cases shaped

/-- A search in which no comparison fails comes to a result. -/
theorem exists_anyM {ε α : Type} {items : List α} {holds : α → Except ε Bool}
    (each : ∀ item, ∃ same, holds item = .ok same) : ∃ found, items.anyM holds = .ok found := by
  induction items with
  | nil => exact ⟨false, rfl⟩
  | cons item rest ih =>
      obtain ⟨same, here⟩ := each item
      rw [List.anyM_cons, here]
      cases same with
      | true => exact ⟨true, rfl⟩
      | false => exact ih

/-- Built-in comparators take every pattern. -/
theorem Collation.exists_compare (collation : Collation) (matchType : MatchType)
    (value key : String) :
    ∃ same, collation.comparator.compare matchType value key = .ok same := by
  cases matchType <;> exact ⟨_, rfl⟩

/-- A built-in comparator always comes to an answer. -/
theorem Collation.exists_compareAny (collation : Collation) (matchType : MatchType)
    (values keys : List String) :
    ∃ found, collation.comparator.compareAny matchType values keys = .ok found := by
  apply exists_anyM
  intro value
  apply exists_anyM
  intro key
  exact collation.exists_compare matchType value key

end MailSieve
