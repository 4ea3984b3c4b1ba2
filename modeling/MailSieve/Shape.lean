import MailSieve.Error
import MailSieve.Tag

/-!
# Shapes of arguments

Each command and test asks for arguments of a certain shape.  The readers of this file take what
they ask for out of the arguments, or say what is wrong.  They never look into a test, so they
work alike on arguments whose tests have been replaced: each reader commutes with
`ArgumentsOf.map`.

Where two things are wrong, a reader names the first in the order of its checks.
-/

namespace MailSieve.ArgumentsOf

variable {α β : Type}

/-- No tests may follow. -/
def noTests (arguments : ArgumentsOf α) : Except ShapeFault Unit :=
  if arguments.tests.isSome then .error .testsForbidden else .ok ()

/-- Neither arguments nor tests. -/
def nothing (arguments : ArgumentsOf α) : Except ShapeFault Unit :=
  if arguments.args.isEmpty then arguments.noTests
  else .error (.argumentsForbidden arguments.args.length)

/-- The strings of the only argument. -/
def stringList (arguments : ArgumentsOf α) : Except ShapeFault (List String) := do
  arguments.noTests
  match arguments.args with
  | [.stringList items] => .ok items
  | [other] => .error (.stringListExpected other)
  | args => .error (.oneArgumentExpected args.length)

/-- The only string of the only argument. -/
def singleString (arguments : ArgumentsOf α) : Except ShapeFault String := do
  match ← arguments.stringList with
  | [text] => .ok text
  | items => .error (.oneStringExpected items.length)

/-- The only test, with no argument before it. -/
def singleTest (arguments : ArgumentsOf α) : Except ShapeFault α :=
  if arguments.args.isEmpty then
    match arguments.tests with
    | some [test] => .ok test
    | some tests => .error (.oneTestExpected tests.length)
    | none => .error .testExpected
  else .error (.argumentsBeforeTest arguments.args.length)

/-- The tests, perhaps none, with no argument before them. -/
def listOfTests (arguments : ArgumentsOf α) : Except ShapeFault (List α) :=
  if arguments.args.isEmpty then
    match arguments.tests with
    | some tests => .ok tests
    | none => .error .testListExpected
  else .error (.argumentsBeforeTestList arguments.args.length)

/-- The side and the limit of a size. -/
def sizeLimit (arguments : ArgumentsOf α) : Except ShapeFault (SizeBound × UInt64) := do
  arguments.noTests
  match arguments.args with
  | [.tag tag, .number limit] =>
      match SizeBound.ofTag? tag with
      | some bound => .ok (bound, limit)
      | none => .error (.unknownSizeBound tag)
  | _ => .error .sizeBoundExpected

/-- The level of a log entry, told by a leading tag, and the arguments behind that tag. -/
def leadingLevel : List Argument → Except ShapeFault (LogLevel × List Argument)
  | .tag tag :: rest =>
      match LogLevel.ofTag? tag with
      | some level => .ok (level, rest)
      | none => .error (.unknownLogLevel tag)
  | args => .ok (default, args)

/-- The level and the message of a log entry. -/
def logMessage (arguments : ArgumentsOf α) : Except ShapeFault (LogLevel × String) := do
  arguments.noTests
  match ← leadingLevel arguments.args with
  | (level, [.stringList [message]]) => .ok (level, message)
  | _ => .error .logMessageExpected

@[simp] theorem noTests_map (f : α → β) (arguments : ArgumentsOf α) :
    (arguments.map f).noTests = arguments.noTests := by
  simp [noTests]

@[simp] theorem nothing_map (f : α → β) (arguments : ArgumentsOf α) :
    (arguments.map f).nothing = arguments.nothing := by
  simp [nothing]

@[simp] theorem stringList_map (f : α → β) (arguments : ArgumentsOf α) :
    (arguments.map f).stringList = arguments.stringList := by
  simp [stringList]

@[simp] theorem singleString_map (f : α → β) (arguments : ArgumentsOf α) :
    (arguments.map f).singleString = arguments.singleString := by
  simp [singleString]

@[simp] theorem sizeLimit_map (f : α → β) (arguments : ArgumentsOf α) :
    (arguments.map f).sizeLimit = arguments.sizeLimit := by
  simp [sizeLimit]

@[simp] theorem logMessage_map (f : α → β) (arguments : ArgumentsOf α) :
    (arguments.map f).logMessage = arguments.logMessage := by
  simp [logMessage]

/-- To replace the tests replaces the one that is found, and the fault stays the same. -/
theorem singleTest_map (f : α → β) (arguments : ArgumentsOf α) :
    (arguments.map f).singleTest = arguments.singleTest.map f := by
  obtain ⟨args, tests⟩ := arguments
  cases args with
  | cons => rfl
  | nil =>
    match tests with
    | none => rfl
    | some [] => rfl
    | some [_] => rfl
    | some (_ :: _ :: rest) => simp [singleTest, map, Except.map]

/-- To replace the tests replaces those that are found, and the fault stays the same. -/
theorem listOfTests_map (f : α → β) (arguments : ArgumentsOf α) :
    (arguments.map f).listOfTests = arguments.listOfTests.map (List.map f) := by
  obtain ⟨args, tests⟩ := arguments
  cases args <;> cases tests <;> rfl

end MailSieve.ArgumentsOf

namespace MailSieve

/-- A block must not follow. -/
def noBlock {β : Type} (block : Option β) : Except ShapeFault Unit :=
  if block.isSome then .error .blockForbidden else .ok ()

/-- A block must follow. -/
def requiredBlock {β : Type} (block : Option β) : Except ShapeFault β :=
  match block with
  | some block => .ok block
  | none => .error .blockExpected

end MailSieve
