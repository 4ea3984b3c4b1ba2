import MailSieve.Json.Value

/-!
# Writing JSON

Two ways to write a value: on one line without blanks, and with each item and field on a line of its
own, indented by two blanks for each level.  In both a text keeps every character but the quotation
mark, the backslash and the controls below U+0020.
-/

namespace MailSieve.Json

/-- A character as it stands in a text between quotation marks. -/
def escapedChar (c : Char) : List Char :=
  if c = '"' then ['\\', '"']
  else if c = '\\' then ['\\', '\\']
  else if c = '\x08' then ['\\', 'b']
  else if c = '\x0c' then ['\\', 'f']
  else if c = '\n' then ['\\', 'n']
  else if c = '\r' then ['\\', 'r']
  else if c = '\t' then ['\\', 't']
  else if c.toNat < 0x20 then
    ['\\', 'u', '0', '0', Nat.digitChar (c.toNat / 16), Nat.digitChar (c.toNat % 16)]
  else [c]

/-- A text between quotation marks. -/
def quotedText (value : String) : String :=
  String.ofList ('"' :: value.toList.flatMap escapedChar ++ ['"'])

/-- A value without values inside.  What cannot be taken in is written as null. -/
def scalar {α : Type} : Layer α → String
  | .boolean true => "true"
  | .boolean false => "false"
  | .number value => toString value.toNat
  | .text value => quotedText value
  | _ => "null"

/-- A value on one line. -/
def compact : Json → String :=
  fold fun layer =>
    match layer with
    | .list items => "[" ++ ",".intercalate items ++ "]"
    | .record fields =>
        "\x7b" ++ ",".intercalate (fields.map fun (key, value) => quotedText key ++ ":" ++ value) ++
          "\x7d"
    | other => scalar other

/-- The start of a line at a level. -/
def lineStart (level : Nat) : String := "\n" ++ String.ofList (List.replicate (2 * level) ' ')

/-- Entries on lines of their own between two brackets; without entries nothing stands between. -/
def bracketedLines (opening closing : String) (level : Nat) (entries : List String) : String :=
  if entries.isEmpty then opening ++ closing
  else
    opening ++ ",".intercalate (entries.map (lineStart (level + 1) ++ ·)) ++ lineStart level ++
      closing

/-- A value on lines of its own, the value itself standing at a given level. -/
def prettyAt : Json → Nat → String :=
  fold fun layer level =>
    match layer with
    | .list items => bracketedLines "[" "]" level (items.map (· (level + 1)))
    | .record fields =>
        bracketedLines "\x7b" "\x7d" level
          (fields.map fun (key, value) => quotedText key ++ ": " ++ value (level + 1))
    | other => scalar other

/-- A value on lines of its own. -/
def pretty (value : Json) : String := value.prettyAt 0

end MailSieve.Json
