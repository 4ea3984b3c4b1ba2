import MailSieve.Text.Case

/-!
# Script trees

A script is a list of commands.  A command has a name, arguments, perhaps a block of further
commands, and the position in the script where it was written; a test has the same without a
block.  Arguments are strings, numbers and tags, and may end in a list of tests.

Names stay as they were written, for messages quote them.

## Main Definitions

* `ArgumentsOf α`: arguments whose tests are of type `α`.  With `α := Test` they are the arguments
  in a tree; with another `α` they are the same arguments with each test replaced, for instance
  by its evaluation.
* `Test.fold`, `Command.fold`: bottom-up recursion.  Whatever is computed from trees (their
  evaluation, their JSON form) is one of these folds, so it is defined on every tree and needs no
  bound on the depth.
* `Test.induction`, `Command.induction`: the induction principles that go with the folds.
-/

namespace MailSieve

/-- A position in a script, as its author counts. -/
structure Coordinate where
  line : UInt64 := 0
  column : UInt64 := 0
  deriving DecidableEq, Inhabited

/-- A position in words. -/
def Coordinate.text (coordinate : Coordinate) : String :=
  s!"line {coordinate.line}, column {coordinate.column}"

/-- An argument that is not a test. -/
inductive Argument where
  /-- Strings in brackets; a single string is a list of one. -/
  | stringList (items : List String)
  /-- A number with its quantifier already applied. -/
  | number (value : UInt64)
  /-- A word with its leading colon. -/
  | tag (text : String)
  deriving DecidableEq

namespace Argument

/-- The tag of a word that may or may not carry its colon, in small letters. -/
def ofTagName (name : String) : Argument :=
  let folded := Text.foldCase name
  if folded.toList.head? = some ':' then .tag folded else .tag (":" ++ folded)

/-- What sort of argument this is, in words. -/
def sort : Argument → String
  | stringList _ => "string-list"
  | number _ => "number"
  | tag _ => "tag"

end Argument

/-- Positional arguments and perhaps a list of tests.  No list and an empty list differ. -/
structure ArgumentsOf (α : Type) where
  args : List Argument := []
  tests : Option (List α) := none

namespace ArgumentsOf

variable {α β : Type}

instance : Inhabited (ArgumentsOf α) := ⟨{}⟩

/-- The same arguments with each test replaced. -/
def map (f : α → β) (arguments : ArgumentsOf α) : ArgumentsOf β where
  args := arguments.args
  tests := arguments.tests.map (List.map f)

/-- The tests, if there is a list of them. -/
def testList (arguments : ArgumentsOf α) : List α := arguments.tests.getD []

/-- Whether there is nothing at all.  An empty list of tests is something. -/
def isEmpty (arguments : ArgumentsOf α) : Bool :=
  arguments.args.isEmpty && arguments.tests.isNone

@[simp] theorem args_map (f : α → β) (arguments : ArgumentsOf α) :
    (arguments.map f).args = arguments.args := rfl

@[simp] theorem tests_map (f : α → β) (arguments : ArgumentsOf α) :
    (arguments.map f).tests = arguments.tests.map (List.map f) := rfl

end ArgumentsOf

/-- A condition that is true or false of a message. -/
structure Test where
  name : String
  arguments : ArgumentsOf Test := {}
  coordinate : Coordinate := {}

/-- The arguments of a node in a tree. -/
abbrev Arguments := ArgumentsOf Test

/-- A statement of a script. -/
structure Command where
  name : String
  arguments : Arguments := {}
  block : Option (List Command) := none
  coordinate : Coordinate := {}

/-- A list of commands, run in order. -/
structure Script where
  commands : List Command := []

namespace Test

variable {α : Type} (f : String → ArgumentsOf α → Coordinate → α)

mutual

/-- Bottom-up recursion: `f` sees a node whose tests are replaced by their results. -/
def fold : Test → α
  | ⟨name, arguments, coordinate⟩ => f name (foldArguments arguments) coordinate

/-- The arguments with the results of their tests. -/
def foldArguments : ArgumentsOf Test → ArgumentsOf α
  | ⟨args, tests⟩ => ⟨args, foldTests tests⟩

/-- The results of a list of tests, if there is one. -/
def foldTests : Option (List Test) → Option (List α)
  | none => none
  | some tests => some (foldList tests)

/-- The results of tests, in order. -/
def foldList : List Test → List α
  | [] => []
  | test :: rest => fold test :: foldList rest

end

/-- The recursion along a list of tests maps the fold over it. -/
theorem foldList_eq_map (tests : List Test) : foldList f tests = tests.map (fold f) := by
  induction tests with
  | nil => rfl
  | cons test rest ih => simp [foldList, ih]

/-- The recursion into arguments maps the fold over their tests. -/
theorem foldArguments_eq_map (arguments : Arguments) :
    foldArguments f arguments = arguments.map (fold f) := by
  obtain ⟨args, tests⟩ := arguments
  cases tests <;> simp [foldArguments, foldTests, ArgumentsOf.map, foldList_eq_map]

/-- **The equation of the fold**, without its auxiliary recursions. -/
theorem fold_mk (name : String) (arguments : Arguments) (coordinate : Coordinate) :
    fold f ⟨name, arguments, coordinate⟩ = f name (arguments.map (fold f)) coordinate := by
  rw [fold, foldArguments_eq_map]

/-- To prove something of every test, prove it of a node whose nested tests all have it. -/
theorem induction {motive : Test → Prop}
    (node : ∀ name (arguments : Arguments) coordinate,
      (∀ test ∈ arguments.testList, motive test) → motive ⟨name, arguments, coordinate⟩)
    (test : Test) : motive test := by
  refine Test.rec (motive_1 := motive)
    (motive_2 := fun arguments => ∀ test ∈ arguments.testList, motive test)
    (motive_3 := fun tests => ∀ test ∈ tests.getD [], motive test)
    (motive_4 := fun tests => ∀ test ∈ tests, motive test) ?_ ?_ ?_ ?_ ?_ ?_ test
  · intro name arguments coordinate nested
    exact node name arguments coordinate nested
  · intro args tests nested
    exact nested
  · simp
  · intro tests nested
    exact nested
  · simp
  · intro test rest first others other present
    rcases List.mem_cons.mp present with rfl | later
    · exact first
    · exact others other later

end Test

namespace Command

variable {α : Type} (f : String → Arguments → Option (List α) → Coordinate → α)

/-- The commands of the block, if there is one. -/
def blockList (command : Command) : List Command := command.block.getD []

mutual

/-- Bottom-up recursion: `f` sees a node whose block holds the results of its commands. -/
def fold : Command → α
  | ⟨name, arguments, block, coordinate⟩ => f name arguments (foldBlock block) coordinate

/-- The results of the commands of a block, if there is one. -/
def foldBlock : Option (List Command) → Option (List α)
  | none => none
  | some commands => some (foldList commands)

/-- The results of commands, in order. -/
def foldList : List Command → List α
  | [] => []
  | command :: rest => fold command :: foldList rest

end

/-- The recursion along a list of commands maps the fold over it. -/
theorem foldList_eq_map (commands : List Command) :
    foldList f commands = commands.map (fold f) := by
  induction commands with
  | nil => rfl
  | cons command rest ih => simp [foldList, ih]

/-- **The equation of the fold**, without its auxiliary recursions. -/
theorem fold_mk (name : String) (arguments : Arguments) (block : Option (List Command))
    (coordinate : Coordinate) :
    fold f ⟨name, arguments, block, coordinate⟩ =
      f name arguments (block.map (List.map (fold f))) coordinate := by
  cases block <;> simp [fold, foldBlock, foldList_eq_map]

/-- To prove something of every command, prove it of a node whose block all has it. -/
theorem induction {motive : Command → Prop}
    (node : ∀ name arguments (block : Option (List Command)) coordinate,
      (∀ command ∈ block.getD [], motive command) → motive ⟨name, arguments, block, coordinate⟩)
    (command : Command) : motive command := by
  refine Command.rec (motive_1 := motive)
    (motive_2 := fun block => ∀ command ∈ block.getD [], motive command)
    (motive_3 := fun commands => ∀ command ∈ commands, motive command) ?_ ?_ ?_ ?_ ?_ command
  · intro name arguments block coordinate nested
    exact node name arguments block coordinate nested
  · simp
  · intro commands nested
    exact nested
  · simp
  · intro command rest first others other present
    rcases List.mem_cons.mp present with rfl | later
    · exact first
    · exact others other later

end Command

end MailSieve
