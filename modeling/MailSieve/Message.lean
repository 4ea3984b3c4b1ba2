import MailSieve.Action
import MailSieve.Text.Blank
import MailSieve.Text.Case
import MailSieve.Text.Octets

/-!
# Messages

A message as a script sees it: its header fields in order, its size, and the actions collected on
it so far.  Pending actions wait; carrying them out moves them behind those executed before.

* `Message.valuesOf` takes a header name literally, `Message.valuesMatching` by
  `headerNameMatches`, which trims both names and ignores the case of ASCII letters.
* `Message.size` is the stated size, and without one the size of the header block, each field
  taking a colon, a space and a line end besides its name and value.
-/

namespace MailSieve

/-- A header field. -/
structure Header where
  name : String
  value : String
  deriving DecidableEq

/-- Whether a field's name is the wanted one, blanks around it and letter case aside. -/
def headerNameMatches (candidate wanted : String) : Bool :=
  Text.sameIgnoringCase (Text.trimmed candidate) (Text.trimmed wanted)

/-- A message and the actions collected on it. -/
structure Message where
  headers : List Header := []
  statedSize : Option UInt64 := none
  /-- Actions collected and not yet carried out, oldest first. -/
  pending : List Action := []
  /-- Actions carried out, oldest first. -/
  executed : List Action := []
  deriving Inhabited

namespace Message

/-- The values of the fields with exactly this name, in order. -/
def valuesOf (message : Message) (name : String) : List String :=
  (message.headers.filter (·.name == name)).map (·.value)

/-- The values of the fields whose name matches, in order. -/
def valuesMatching (message : Message) (name : String) : List String :=
  (message.headers.filter (headerNameMatches ·.name name)).map (·.value)

/-- The names of the fields, each once, in the order of their code points. -/
def headerNames (message : Message) : List String :=
  ((message.headers.map (·.name)).mergeSort (fun left right => decide (left ≤ right))).eraseDups

/-- How many octets the header fields take. -/
def headerBlockSize (message : Message) : Nat :=
  message.headers.foldr (fun header total =>
    Text.octetCount header.name + Text.octetCount header.value + 4 + total) 0

/-- The size of the message in octets. -/
def size (message : Message) : Nat :=
  match message.statedSize with
  | some size => size.toNat
  | none => message.headerBlockSize

/-- Collect one more action. -/
def addAction (message : Message) (action : Action) : Message :=
  { message with pending := message.pending ++ [action] }

/-- Carry the pending actions out. -/
def executeActions (message : Message) : Message :=
  { message with pending := [], executed := message.executed ++ message.pending }

/-- Forget all actions. -/
def reset (message : Message) : Message := { message with pending := [], executed := [] }

/-- Append a header field. -/
def withHeader (message : Message) (header : Header) : Message :=
  { message with headers := message.headers ++ [header] }

/-- State the size. -/
def withSize (message : Message) (size : UInt64) : Message :=
  { message with statedSize := some size }

end Message

end MailSieve
