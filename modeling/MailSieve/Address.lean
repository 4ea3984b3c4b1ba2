import MailSieve.Tag
import MailSieve.Text.Blank

/-!
# Addresses in header fields

A header field such as `To` lists mailboxes between commas.  A mailbox is an address alone or a
display name with the address in angle brackets; a display name may stand between double quotes,
and a comma between quotes separates nothing.

* `splitAtCommas` cuts a field at its separators.
* `addressOf?` takes the address out of a piece, and drops pieces that hold none: empty ones and
  group labels, which end in a semicolon.
* `splitAddresses` does both; `addressPart` selects a part of an address.
-/

namespace MailSieve.Address

/-- Cut at the commas outside double quotes.  `quoted` says whether the text starts inside. -/
def splitAtCommas (quoted : Bool) : List Char → List (List Char)
  | [] => [[]]
  | c :: rest =>
      if c = ',' ∧ quoted = false then [] :: splitAtCommas quoted rest
      else
        match splitAtCommas (if c = '"' then !quoted else quoted) rest with
        | [] => [[c]]
        | piece :: pieces => (c :: piece) :: pieces

/-- What stands before and what behind the last occurrence of a character. -/
def splitAtLast? (separator : Char) : List Char → Option (List Char × List Char)
  | [] => none
  | c :: rest =>
      match splitAtLast? separator rest with
      | some (before, behind) => some (c :: before, behind)
      | none => if c = separator then some ([], rest) else none

/-- The text between the last `<` and the last `>`, if they stand in this order. -/
def bracketed? (mailbox : List Char) : Option (List Char) := do
  let (_, behind) ← splitAtLast? '<' mailbox
  let (inside, _) ← splitAtLast? '>' behind
  some inside

/-- Whether a text is the label of a group, which is no address. -/
def isGroupLabel (text : List Char) : Bool := text.getLast? == some ';' && !text.contains '@'

/-- The address of a mailbox, if it has one. -/
def addressOf? (mailbox : List Char) : Option (List Char) :=
  let mailbox := Text.trim mailbox
  let address := ((bracketed? mailbox).map Text.trim).getD mailbox
  if address.isEmpty || isGroupLabel address then none else some address

/-- The addresses that a header field lists, in order. -/
def splitAddresses (field : String) : List String :=
  ((splitAtCommas false field.toList).filterMap addressOf?).map String.ofList

/-- The selected part of an address.  Without an `@`, all of it is the local part. -/
def addressPart (part : AddressPart) (address : String) : String :=
  match part, splitAtLast? '@' address.toList with
  | .all, _ => address
  | .localpart, some (before, _) => String.ofList before
  | .localpart, none => address
  | .domain, some (_, behind) => String.ofList behind
  | .domain, none => ""

example : splitAddresses "\"Doe, Jane\" <jane@example.com>, undisclosed-recipients:;" =
    ["jane@example.com"] := by decide +kernel

end MailSieve.Address
