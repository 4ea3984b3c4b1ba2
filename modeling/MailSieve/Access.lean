import MailSieve.Message

/-!
# Access to a message

A run reaches its message through calls, and any call may fail: the message cannot be read, a
header cannot be decoded, an action is refused.  Which calls fail is not for the run to know, so it
is a parameter of type `Failures`, which may go by the call and by all calls made before it; a call
that fails has no effect.  One that does not fail is answered from the `Message`, as a record of
fields and actions answers it; a host whose messages answer by rules of their own is left out.
-/

namespace MailSieve

/-- Why a call on a message failed. -/
inductive MailFault where
  | unreadable (detail : String)
  | malformedHeader (header : String)
  | actionRefused (detail : String)
  deriving DecidableEq

/-- The fault in words. -/
def MailFault.message : MailFault → String
  | unreadable detail => s!"message unreadable: {detail}"
  | malformedHeader header => s!"header '{header}' could not be decoded"
  | actionRefused detail => s!"action refused: {detail}"

/-- What can be asked of a message. -/
inductive Method where
  | header
  | matchingHeader
  | headerNames
  | size
  | addAction
  deriving DecidableEq

/-- A question or order to a message. -/
inductive Call where
  /-- The values of the fields with exactly this name. -/
  | header (name : String)
  /-- The values of the fields whose name matches. -/
  | matchingHeader (name : String)
  | headerNames
  | size
  | addAction (action : Action)
  deriving DecidableEq

namespace Call

/-- What is asked for, whatever it is about. -/
def method : Call → Method
  | header _ => .header
  | matchingHeader _ => .matchingHeader
  | headerNames => .headerNames
  | size => .size
  | addAction _ => .addAction

/-- What the call is about: the header asked for, or the command behind the action. -/
def subject : Call → String
  | header name | matchingHeader name => name
  | headerNames | size => ""
  | addAction action => action.word

end Call

/-- Which calls fail, and how.  The list holds the calls made before, oldest first, so that the same
call may fail at one time and succeed at another. -/
abbrev Failures := List Call → Call → Option MailFault

/-- A rule by which calls fail: all calls of a method, or those about one subject. -/
structure FailureRule where
  method : Method
  subject : Option String := none
  fault : MailFault

/-- Whether the rule makes the call fail. -/
def FailureRule.covers (rule : FailureRule) (call : Call) : Bool :=
  rule.method == call.method && rule.subject.all (· == call.subject)

namespace Failures

/-- No call fails. -/
def none : Failures := fun _ _ => Option.none

/-- The first rule that covers a call decides how it fails, whatever was called before. -/
def ofRules (rules : List FailureRule) : Failures := fun _ call =>
  (rules.find? (·.covers call)).map (·.fault)

@[simp] theorem ofRules_nil : ofRules [] = none := rfl

/-- The answer to a call after others, unless the call fails. -/
def answer {α : Type} (failures : Failures) (earlier : List Call) (call : Call) (answer : α) :
    Except MailFault α :=
  match failures earlier call with
  | some fault => .error fault
  | Option.none => .ok answer

end Failures

end MailSieve
