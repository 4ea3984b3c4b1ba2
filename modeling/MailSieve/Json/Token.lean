/-!
# JSON tokens

A JSON text is a row of tokens with blanks between them.  The scanner is a fold over the characters:
between two characters it knows the tokens found so far and whether it stands inside a text, inside
a word, or between tokens.  Numbers and the three names are words; a word ends where no character of
one follows, so words must be separated, as in every JSON text they are.
-/

namespace MailSieve.Json

/-- A word of JSON. -/
inductive Token where
  | openList
  | closeList
  | openRecord
  | closeRecord
  | comma
  | colon
  | null
  | boolean (value : Bool)
  /-- A number; `none` if it is not an integer from 0 to 2^64 - 1 written as such. -/
  | number (value : Option UInt64)
  /-- A text; `none` if it holds half a surrogate pair. -/
  | text (value : Option String)
  deriving DecidableEq

/-- The digits at the start, of which there must be one. -/
def digits? (word : List Char) : Option (List Char × List Char) :=
  match word.takeWhile Char.isDigit with
  | [] => none
  | digits => some (digits, word.dropWhile Char.isDigit)

/-- The whole part of a number.  It does not begin with a zero unless it is zero. -/
def wholePart? (word : List Char) : Option (List Char × List Char) :=
  match digits? word with
  | some ('0' :: _ :: _, _) => none
  | result => result

/-- What follows the fraction, if there is one. -/
def afterFraction? : List Char → Option (List Char)
  | '.' :: word => (digits? word).map (·.2)
  | word => some word

/-- What follows the exponent, if there is one. -/
def afterExponent? : List Char → Option (List Char)
  | 'e' :: '+' :: word | 'e' :: '-' :: word | 'E' :: '+' :: word | 'E' :: '-' :: word
  | 'e' :: word | 'E' :: word => (digits? word).map (·.2)
  | word => some word

/-- The number with the given decimal digits. -/
def decimal (digits : List Char) : Nat :=
  digits.foldl (fun value digit => 10 * value + (digit.toNat - '0'.toNat)) 0

/-- A word as a number. -/
def numberOfWord? (word : List Char) : Option Token := do
  let unsigned := match word with
    | '-' :: rest => rest
    | rest => rest
  let (whole, rest) ← wholePart? unsigned
  let rest ← afterExponent? (← afterFraction? rest)
  if rest.isEmpty then
    let value := decimal whole
    if whole = word ∧ value < UInt64.size then some (.number (some (UInt64.ofNat value)))
    else some (.number none)
  else none

/-- A word as a token. -/
def tokenOfWord? (word : List Char) : Option Token :=
  if word = ['n', 'u', 'l', 'l'] then some .null
  else if word = ['t', 'r', 'u', 'e'] then some (.boolean true)
  else if word = ['f', 'a', 'l', 's', 'e'] then some (.boolean false)
  else numberOfWord? word

/-- The value of a hexadecimal digit. -/
def hexDigit? (c : Char) : Option Nat :=
  if c.isDigit then some (c.toNat - '0'.toNat)
  else if 'a' ≤ c ∧ c ≤ 'f' then some (c.toNat - 'a'.toNat + 10)
  else if 'A' ≤ c ∧ c ≤ 'F' then some (c.toNat - 'A'.toNat + 10)
  else none

/-- The code point of an escape letter. -/
def escapeLetter? : Char → Option Nat
  | '"' => some 0x22
  | '\\' => some 0x5C
  | '/' => some 0x2F
  | 'b' => some 0x8
  | 'f' => some 0xC
  | 'n' => some 0xA
  | 'r' => some 0xD
  | 't' => some 0x9
  | _ => none

/-- The code points of a text as it is written, escaped surrogates each by itself; nothing if an
escape is none. -/
def codePoints? : List Char → Option (List Nat)
  | [] => some []
  | '\\' :: 'u' :: a :: b :: c :: d :: rest => do
      let unit := 4096 * (← hexDigit? a) + 256 * (← hexDigit? b) + 16 * (← hexDigit? c) +
        (← hexDigit? d)
      (unit :: ·) <$> codePoints? rest
  | '\\' :: letter :: rest => do
      let codePoint ← escapeLetter? letter
      (codePoint :: ·) <$> codePoints? rest
  | ['\\'] => none
  | c :: rest => (c.toNat :: ·) <$> codePoints? rest

/-- Whether a code unit is the first half of a surrogate pair. -/
def isHighSurrogate (codePoint : Nat) : Bool := 0xD800 ≤ codePoint && codePoint < 0xDC00

/-- Whether a code unit is the second half of a surrogate pair. -/
def isLowSurrogate (codePoint : Nat) : Bool := 0xDC00 ≤ codePoint && codePoint < 0xE000

/-- The characters with the given code points, surrogates taken in pairs; nothing if one has no
partner. -/
def charsOfCodePoints? : List Nat → Option (List Char)
  | [] => some []
  | first :: rest =>
      if isHighSurrogate first then
        match rest with
        | second :: rest =>
            if isLowSurrogate second then
              let codePoint := 0x10000 + (first - 0xD800) * 0x400 + (second - 0xDC00)
              (Char.ofNat codePoint :: ·) <$> charsOfCodePoints? rest
            else none
        | [] => none
      else if isLowSurrogate first then none
      else (Char.ofNat first :: ·) <$> charsOfCodePoints? rest

/-- A text as it is written between quotation marks, as a token. -/
def tokenOfText? (written : List Char) : Option Token := do
  let codePoints ← codePoints? written
  some (.text ((charsOfCodePoints? codePoints).map String.ofList))

/-- Where a scanner stands.  What it has read of a text or word is kept last character first. -/
inductive ScanMode where
  | between
  | word (read : List Char)
  | text (read : List Char)
  /-- In a text, behind a backslash. -/
  | escape (read : List Char)

/-- A scanner: where it stands, and the tokens found so far, last first. -/
structure Scanner where
  mode : ScanMode := .between
  found : List Token := []

namespace Scanner

/-- Whether the character may stand in a number or name. -/
def isWordChar (c : Char) : Bool := c.isAlphanum || c == '+' || c == '-' || c == '.'

/-- Whether a character may stand between tokens. -/
def isBlank (c : Char) : Bool := c == ' ' || c == '\t' || c == '\n' || c == '\r'

/-- The token of a character that is one by itself. -/
def symbol? : Char → Option Token
  | '[' => some .openList
  | ']' => some .closeList
  | '\x7b' => some .openRecord
  | '\x7d' => some .closeRecord
  | ',' => some .comma
  | ':' => some .colon
  | _ => none

/-- Read a character that begins something. -/
def start? (found : List Token) (c : Char) : Option Scanner :=
  if isBlank c then some { found }
  else if c = '"' then some { mode := .text [], found }
  else if isWordChar c then some { mode := .word [c], found }
  else (symbol? c).map fun token => { found := token :: found }

/-- Read a character.  A text holds no controls. -/
def read? (scanner : Scanner) (c : Char) : Option Scanner :=
  match scanner.mode with
  | .between => start? scanner.found c
  | .word read =>
      if isWordChar c then some { scanner with mode := .word (c :: read) }
      else (tokenOfWord? read.reverse).bind fun token => start? (token :: scanner.found) c
  | .text read =>
      if c = '"' then
        (tokenOfText? read.reverse).map fun token => { found := token :: scanner.found }
      else if c.toNat < 0x20 then none
      else if c = '\\' then some { scanner with mode := .escape (c :: read) }
      else some { scanner with mode := .text (c :: read) }
  | .escape read =>
      if c.toNat < 0x20 then none else some { scanner with mode := .text (c :: read) }

/-- The tokens found when the text has ended. -/
def finish? (scanner : Scanner) : Option (List Token) :=
  match scanner.mode with
  | .between => some scanner.found.reverse
  | .word read => (tokenOfWord? read.reverse).map fun token => (token :: scanner.found).reverse
  | .text _ | .escape _ => none

end Scanner

/-- The tokens of a text. -/
def tokens? (source : String) : Option (List Token) :=
  (source.toList.foldlM Scanner.read? {}).bind Scanner.finish?

end MailSieve.Json
