import MailSieve.Action
import MailSieve.Comparator

/-!
# Built-in commands and tests

The commands and tests that come with the interpreter, by the word under which each is registered.
What they do is defined where scripts are evaluated; here they are names alone.

Commands fall into groups that share rules: the branches `if`, `elsif` and `else` form chains, and
the five action commands each collect one action.
-/

namespace MailSieve

/-- A command that collects an action. -/
inductive ActionCommand where
  | keep
  | discard
  | fileInto
  | redirect
  | reject
  deriving DecidableEq

/-- A member of a chain of branches. -/
inductive BranchCommand where
  /-- `if`, which opens a chain. -/
  | opening
  /-- `elsif`, which continues one. -/
  | alternative
  /-- `else`, which ends one. -/
  | fallback
  deriving DecidableEq

/-- The commands that come with the interpreter. -/
inductive BuiltinCommand where
  /-- Demands that names be available. -/
  | require
  | branch (member : BranchCommand)
  /-- Ends the run. -/
  | stop
  | action (command : ActionCommand)
  /-- Writes to the log. -/
  | log
  deriving DecidableEq

/-- The tests that come with the interpreter. -/
inductive BuiltinTest where
  /-- `true` and `false`. -/
  | constant (value : Bool)
  /-- `not`. -/
  | negation
  | anyOf
  | allOf
  | header
  /-- `exists`. -/
  | presence
  | address
  | size
  deriving DecidableEq

/-- Which rules on order a command is subject to. -/
inductive CommandKind where
  /-- Allowed only before all other commands. -/
  | prolog
  /-- Directs which commands run. -/
  | control
  /-- Collects an action. -/
  | action
  | plain
  deriving DecidableEq

/-- The name of the kind. -/
def CommandKind.label : CommandKind → String
  | prolog => "prolog"
  | control => "control"
  | action => "action"
  | plain => "plain"

/-- The kind of a name, which is taken letter by letter. -/
def CommandKind.ofLabel? (label : String) : Option CommandKind :=
  [prolog, control, action, plain].find? (·.label == label)

/-- The word of the command in a script. -/
def ActionCommand.word : ActionCommand → String
  | keep => "keep"
  | discard => "discard"
  | fileInto => "fileinto"
  | redirect => "redirect"
  | reject => "reject"

/-- The word of the branch in a script. -/
def BranchCommand.word : BranchCommand → String
  | opening => "if"
  | alternative => "elsif"
  | fallback => "else"

namespace BuiltinCommand

/-- Every built-in command, each once. -/
def all : List BuiltinCommand :=
  [require, branch .opening, branch .alternative, branch .fallback, stop, action .keep,
    action .discard, action .fileInto, action .redirect, action .reject, log]

/-- The word under which the command is registered. -/
def word : BuiltinCommand → String
  | require => "require"
  | branch member => member.word
  | stop => "stop"
  | action command => command.word
  | log => "log"

/-- The kind of the command, which says what rule on order it is subject to. -/
def kind : BuiltinCommand → CommandKind
  | require => .prolog
  | branch _ | stop => .control
  | action _ => .action
  | log => .plain

/-- Whether a further branch may follow the command. -/
def continuesChain : BuiltinCommand → Bool
  | branch .opening | branch .alternative => true
  | _ => false

/-- No built-in command is missing from the list. -/
theorem mem_all (command : BuiltinCommand) : command ∈ all := by
  cases command with
  | branch member => cases member <;> simp [all]
  | action command => cases command <;> simp [all]
  | _ => simp [all]

end BuiltinCommand

namespace BuiltinTest

/-- Every built-in test, each once. -/
def all : List BuiltinTest :=
  [constant true, constant false, negation, anyOf, allOf, header, presence, address, size]

/-- The word under which the test is registered. -/
def word : BuiltinTest → String
  | constant true => "true"
  | constant false => "false"
  | negation => "not"
  | anyOf => "anyof"
  | allOf => "allof"
  | header => "header"
  | presence => "exists"
  | address => "address"
  | size => "size"

/-- No built-in test is missing from the list. -/
theorem mem_all (test : BuiltinTest) : test ∈ all := by
  cases test with
  | constant value => cases value <;> simp [all]
  | _ => simp [all]

end BuiltinTest

/-- The built-in comparators. -/
def Collation.all : List Collation := [octet, asciiCasemap, asciiNumeric]

/-- No built-in comparator is missing from the list. -/
theorem Collation.mem_all (collation : Collation) : collation ∈ all := by
  cases collation <;> simp [all]

end MailSieve
