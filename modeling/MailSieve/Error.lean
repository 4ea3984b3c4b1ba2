import MailSieve.Access
import MailSieve.Tree

/-!
# Errors of a run

An error is a cause and the position of the node that failed.  Causes say what is wrong in the
terms of the script; `Cause.message` alone puts them into words.  `stop` is no error.

* `ShapeFault`: arguments or block of a node do not have the shape its name asks for.
* `OrderFault`: a command stands where it may not.
* `PatternFault`: a comparator cannot make sense of a glob pattern.
* `Cause`: these, the ways in which a name can fail to give an implementation, an unsupported
  feature, a failed call on the message, and words a host puts in itself.
-/

namespace MailSieve

/-- What can be registered under a name. -/
inductive EntryKind where
  | command
  | test
  | comparator
  deriving DecidableEq

/-- The kind of the name as an error writes it. -/
def EntryKind.label : EntryKind → String
  | command => "Command"
  | test => "Test"
  | comparator => "Comparator"

/-- How arguments or a block can have the wrong shape. -/
inductive ShapeFault where
  | argumentsForbidden (found : Nat)
  | testsForbidden
  | stringListExpected (found : Argument)
  | oneArgumentExpected (found : Nat)
  | oneStringExpected (found : Nat)
  | argumentsBeforeTest (found : Nat)
  | oneTestExpected (found : Nat)
  | testExpected
  | argumentsBeforeTestList (found : Nat)
  | testListExpected
  | blockForbidden
  | blockExpected
  | redirectAddressExpected
  | comparatorNameExpected
  | repeatedTag (tag : String)
  | unexpectedTag (tag : String)
  | namesAndKeysExpected
  | unknownSizeBound (tag : String)
  | sizeBoundExpected
  | unknownLogLevel (tag : String)
  | logMessageExpected
  deriving DecidableEq

/-- The fault in words, which name what was found or wanted but not the command or test. -/
def ShapeFault.message : ShapeFault → String
  | argumentsForbidden found => s!"No arguments permitted. Found {found}"
  | testsForbidden => "No tests permitted"
  | stringListExpected found => s!"Expecting a string-list, found a {found.sort}"
  | oneArgumentExpected found => s!"Exactly 1 argument permitted. Found {found}"
  | oneStringExpected found => s!"Expecting exactly one string. Found {found}"
  | argumentsBeforeTest found => s!"Found unexpected arguments before the test: {found}"
  | oneTestExpected found => s!"Expecting exactly one test. Found {found}"
  | testExpected => "Expecting a test"
  | argumentsBeforeTestList found => s!"Found unexpected arguments before the test-list: {found}"
  | testListExpected => "Expecting a test-list"
  | blockForbidden => "No block permitted"
  | blockExpected => "Expecting a block"
  | redirectAddressExpected => "Expecting a redirect address"
  | comparatorNameExpected => "Expecting a comparator name after :comparator"
  | repeatedTag tag => s!"Tag {tag} conflicts with an earlier tag"
  | unexpectedTag tag => s!"Unexpected tag {tag}"
  | namesAndKeysExpected =>
      "Expecting a string-list of header names followed by a string-list of keys"
  | unknownSizeBound tag => s!"Expecting :over or :under, found {tag}"
  | sizeBoundExpected => "Expecting :over or :under followed by a number"
  | unknownLogLevel tag => s!"Unknown log level {tag}"
  | logMessageExpected => "Expecting a single log message"

/-- How a command can stand in the wrong place. -/
inductive OrderFault where
  /-- The command belongs before all others. -/
  | prologOver
  /-- The message has been rejected already. -/
  | afterReject
  /-- The message already has actions, so it cannot be rejected. -/
  | rejectAfterAction
  /-- No `if` or `elsif` stands right before the named command. -/
  | noOpenChain (word : String)
  deriving DecidableEq

/-- The fault in words. -/
def OrderFault.message : OrderFault → String
  | prologOver => "Invalid state for a prolog command"
  | afterReject => "Action commands are not allowed after the \"reject\" command"
  | rejectAfterAction => "The \"reject\" command is not allowed with other Action Commands"
  | noOpenChain word => s!"\"{word}\" must follow an \"if\" or \"elsif\" command"

/-- A glob pattern that a comparator cannot interpret. -/
structure PatternFault where
  pattern : String
  reason : String
  deriving DecidableEq

/-- The fault in words, with the pattern as it was written. -/
def PatternFault.message (fault : PatternFault) : String :=
  s!"malformed pattern '{fault.pattern}': {fault.reason}"

/-- The class of an error, by which a host decides what to do about it. -/
inductive ErrorKind where
  | lookup
  | instantiation
  | shape
  | order
  | feature
  | pattern
  | mailAccess
  deriving DecidableEq

/-- The short stable name of the class. -/
def ErrorKind.label : ErrorKind → String
  | lookup => "lookup"
  | instantiation => "instantiation"
  | shape => "syntax"
  | order => "command"
  | feature => "feature"
  | pattern => "pattern"
  | mailAccess => "mail-access"

/-- The words that introduce an error of the class. -/
def ErrorKind.heading : ErrorKind → String
  | lookup => "Lookup error"
  | instantiation => "Instantiation error"
  | shape => "Syntax error"
  | order => "Command error"
  | feature => "Feature error"
  | pattern => "Pattern error"
  | mailAccess => "Mail access error"

/-- Why a run failed. -/
inductive Cause where
  /-- Nothing is registered under the name. -/
  | notMapped (kind : EntryKind) (name : String)
  /-- What is registered under the name cannot be made. -/
  | notCreated (kind : EntryKind) (name reason : String)
  | shape (fault : ShapeFault)
  | order (fault : OrderFault)
  | unsupportedFeature (name : String)
  | pattern (fault : PatternFault)
  | mailAccess (fault : MailFault)
  /-- A host reports an error of some class in its own words. -/
  | stated (kind : ErrorKind) (message : String)
  deriving DecidableEq

namespace Cause

/-- The class of the error that the cause makes. -/
def kind : Cause → ErrorKind
  | notMapped .. => .lookup
  | notCreated .. => .instantiation
  | shape _ => .shape
  | order _ => .order
  | unsupportedFeature _ => .feature
  | pattern _ => .pattern
  | mailAccess _ => .mailAccess
  | stated kind _ => kind

/-- The cause in words, without its class and position. -/
def message : Cause → String
  | notMapped kind name => s!"{kind.label} named '{name}' not mapped"
  | notCreated kind name reason => s!"{kind.label} named '{name}' could not be created: {reason}"
  | shape fault => fault.message
  | order fault => fault.message
  | unsupportedFeature name => s!"Feature \"{name}\" is not supported"
  | pattern fault => fault.message
  | mailAccess fault => fault.message
  | stated _ message => message

end Cause

/-- A failed run: what went wrong, and at which node. -/
structure RunError where
  cause : Cause
  coordinate : Coordinate
  deriving DecidableEq

namespace RunError

/-- The class of the error, which is that of its cause. -/
def kind (error : RunError) : ErrorKind := error.cause.kind

/-- The error in words, position included. -/
def text (error : RunError) : String :=
  s!"{error.kind.heading}: {error.cause.message} at {error.coordinate.text}"

end RunError

end MailSieve
