import MailSieve.Json.Token
import MailSieve.Json.Value

/-!
# Reading JSON

The reader is a fold over the tokens of a text.  Between two tokens it knows the lists and records
that are open, innermost first, and what may come next.

A list or record inside as many others as `limit` allows, or more, is checked for its form and then
`Json.unreadable`; so is a record with a key that cannot be taken in.
-/

namespace MailSieve.Json

/-- A list or record that is open: what has been read of it, last first. -/
inductive Frame where
  | list (items : List Json)
  /-- `key` is the last key read; a key that cannot be taken in is `none`. -/
  | record (fields : List (Option String × Json)) (key : Option String)

/-- What may come next. -/
inductive Place where
  | value
  /-- Right behind an opening bracket: a value or the closing bracket. -/
  | firstItem
  /-- Right behind an opening brace: a key or the closing brace. -/
  | firstKey
  | key
  | colon
  /-- A comma or the closing bracket or brace. -/
  | separator
  deriving DecidableEq

/-- A reader: still inside the value, or past it. -/
inductive Reader where
  | inside (frames : List Frame) (place : Place)
  | finished (value : Json)

namespace Reader

/-- Put a complete value where it belongs. -/
def deliver (value : Json) : List Frame → Reader
  | [] => .finished value
  | .list items :: frames => .inside (.list (value :: items) :: frames) .separator
  | .record fields key :: frames =>
      .inside (.record ((key, value) :: fields) key :: frames) .separator

/-- Whether a value may come. -/
def Place.takesValue (place : Place) : Bool := place == .value || place == .firstItem

/-- The value of a list or record that closes, at the given depth. -/
def close (limit : Option Nat) (depth : Nat) (value : Option Json) : Json :=
  if limit.any (· < depth) then .unreadable else value.getD .unreadable

/-- The fields of a record, if all its keys can be taken in. -/
def recordOf? (fields : List (Option String × Json)) : Option Json := do
  let fields ← fields.reverse.mapM fun (key, value) => do
    let key ← key
    some (key, value)
  some (.record fields)

/-- The value of a token that is one by itself. -/
def scalar? : Token → Option Json
  | .null => some .null
  | .boolean value => some (.boolean value)
  | .number (some value) => some (.number value)
  | .number none => some .otherNumber
  | .text (some value) => some (.text value)
  | .text none => some .unreadable
  | _ => none

/-- Read a token. -/
def read? (limit : Option Nat) (reader : Reader) (token : Token) : Option Reader :=
  match reader with
  | .finished _ => none
  | .inside frames place =>
      match token, place, frames with
      | .text key, .key, .record fields _ :: outer
      | .text key, .firstKey, .record fields _ :: outer =>
          some (.inside (.record fields key :: outer) .colon)
      | .colon, .colon, _ => some (.inside frames .value)
      | .comma, .separator, .list _ :: _ => some (.inside frames .value)
      | .comma, .separator, .record .. :: _ => some (.inside frames .key)
      | .closeList, .separator, .list items :: outer
      | .closeList, .firstItem, .list items :: outer =>
          some (deliver (close limit frames.length (some (.list items.reverse))) outer)
      | .closeRecord, .separator, .record fields _ :: outer
      | .closeRecord, .firstKey, .record fields _ :: outer =>
          some (deliver (close limit frames.length (recordOf? fields)) outer)
      | .openList, place, _ =>
          if Place.takesValue place then some (.inside (.list [] :: frames) .firstItem) else none
      | .openRecord, place, _ =>
          if Place.takesValue place then some (.inside (.record [] none :: frames) .firstKey)
          else none
      | token, place, _ =>
          if Place.takesValue place then (scalar? token).map (deliver · frames) else none

/-- The value read when the tokens have ended. -/
def value? : Reader → Option Json
  | .finished value => some value
  | .inside .. => none

end Reader

/-- How many lists and records may lie inside one another in a file. -/
def nestingLimit : Nat := 127

/-- The value of a JSON text, with an optional limit on its depth. -/
def parse? (limit : Option Nat) (source : String) : Option Json := do
  let tokens ← tokens? source
  let reader ← tokens.foldlM (Reader.read? limit) (.inside [] .value)
  reader.value?

end MailSieve.Json
