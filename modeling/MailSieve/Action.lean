import MailSieve.Text.Quoted

/-!
# Actions

What a script decides to do with a message.  A run only collects actions; they are carried out
afterwards, by whoever holds the message.
-/

namespace MailSieve

/-- An effect a script asks for. -/
inductive Action where
  | keep
  | discard
  | fileInto (mailbox : String)
  | redirect (address : String)
  | reject (message : String)
  deriving DecidableEq, Inhabited

namespace Action

/-- The command that asks for the action. -/
def word : Action → String
  | keep => "keep"
  | discard => "discard"
  | fileInto _ => "fileinto"
  | redirect _ => "redirect"
  | reject _ => "reject"

/-- The mailbox, address or message of the action. -/
def argument : Action → Option String
  | keep | discard => none
  | fileInto text | redirect text | reject text => some text

/-- The action as a person reads it. -/
def text (action : Action) : String :=
  match action.argument with
  | none => action.word
  | some argument => action.word ++ " " ++ Text.quoted argument

/-- Whether this is the action that excludes all others. -/
def isReject : Action → Bool
  | reject _ => true
  | _ => false

end Action

end MailSieve
