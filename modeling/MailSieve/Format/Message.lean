import MailSieve.Json.Fields
import MailSieve.Message

/-!
# Messages as JSON

The header fields are a list of pairs, and the size is a number or null.  Actions are not part of
the format: a message that is read has none.
-/

namespace MailSieve

namespace Header

/-- The pair of a name and its value. -/
def toJson (header : Header) : Json := .list [.text header.name, .text header.value]

/-- A list of exactly two texts. -/
def ofJson? : Json → Option Header
  | .list [name, value] => do some { name := ← name.text?, value := ← value.text? }
  | _ => none

end Header

namespace Message

/-- The header fields and the stated size; the actions are left out. -/
def toJson (message : Message) : Json :=
  .record [("headers", .list (message.headers.map Header.toJson)),
    ("size", .ofOption .number message.statedSize)]

/-- The header fields in a list; one that cannot be read spoils them all. -/
def headersOfJson? (value : Json) : Option (List Header) := do
  let items ← value.list?
  items.mapM Header.ofJson?

/-- Both fields may be absent. -/
def ofJson? (value : Json) : Option Message := do
  match ← value.layer.fields? ["headers", "size"] with
  | [headers, size] =>
      some {
        headers := ← Json.optional [] headersOfJson? headers
        statedSize := ← Json.optional none (Json.nullable Json.number?) size }
  | _ => none

end Message

end MailSieve
