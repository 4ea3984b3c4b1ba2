import MailSieve.Text.Printable

/-!
# Quoted text

How the argument of an action is shown to a person: between double quotes, on one line, with
everything that would not be seen as it is written out.  The apostrophe needs no escape, for it is
not the delimiter.
-/

namespace MailSieve.Text

/-- A character by its code point, in the least number of small hexadecimal digits. -/
def codePointEscape (c : Char) : List Char :=
  ['\\', 'u', '\x7b'] ++ Nat.toDigits 16 c.toNat ++ ['\x7d']

/-- A character as it stands between double quotes. -/
def quotedChar (c : Char) : List Char :=
  if c = '"' then ['\\', '"']
  else if c = '\\' then ['\\', '\\']
  else if c = '\n' then ['\\', 'n']
  else if c = '\r' then ['\\', 'r']
  else if c = '\t' then ['\\', 't']
  else if c = '\x00' then ['\\', '0']
  else if isUnprintable c || extendsGrapheme c then codePointEscape c
  else [c]

/-- A text between double quotes. -/
def quoted (text : String) : String :=
  String.ofList ('"' :: text.toList.flatMap quotedChar ++ ['"'])

example : quotedChar '"' = ['\\', '"'] := by decide

example : quotedChar '\x00' = ['\\', '0'] := by decide

example : codePointEscape '\x1b' = ['\\', 'u', '\x7b', '1', 'b', '\x7d'] := by decide

end MailSieve.Text
