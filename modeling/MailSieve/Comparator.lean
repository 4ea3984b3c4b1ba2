import MailSieve.Error
import MailSieve.Glob
import MailSieve.Tag
import MailSieve.Text.Octets

/-!
# Comparators

A comparator is a way to compare texts: for equality, for one standing inside the other, and
against a glob pattern.  A host may bring its own, and such a comparator may refuse a pattern.  The
three `Collation`s are built in and never refuse one.  Each compares texts by the octets of a key:

* `i;octet`: the text as it is,
* `i;ascii-casemap`: the text with `A` to `Z` written small,
* `i;ascii-numeric`: one octet for each character, the digit itself or a stand-in for all that is
  no digit.  The pattern goes through the same, so its wildcards lose their meaning.
-/

namespace MailSieve

/-- A way to compare texts. -/
structure Comparator where
  equals : (left right : String) → Bool
  /-- Whether `content` stands somewhere in `container`. -/
  contains : (container content : String) → Bool
  /-- Whether the pattern matches the whole value. -/
  matchesGlob : (value pattern : String) → Except PatternFault Bool

/-- How a value compares with a key under a match type. -/
def Comparator.compare (comparator : Comparator) (matchType : MatchType) (value key : String) :
    Except PatternFault Bool :=
  match matchType with
  | .is => .ok (comparator.equals value key)
  | .contains => .ok (comparator.contains value key)
  | .glob => comparator.matchesGlob value key

/-- Whether some value compares true with some key.  Values are taken in order, and the keys in
order for each; the first pair that compares true or fails decides. -/
def Comparator.compareAny (comparator : Comparator) (matchType : MatchType)
    (values keys : List String) : Except PatternFault Bool :=
  values.anyM fun value => keys.anyM fun key => comparator.compare matchType value key

/-- The same comparator, except that it refuses every pattern for the given reason. -/
def Comparator.refusingGlobs (comparator : Comparator) (reason : String) : Comparator :=
  { comparator with matchesGlob := fun _ pattern => .error ⟨pattern, reason⟩ }

/-- A built-in way to compare texts. -/
inductive Collation where
  | octet
  | asciiCasemap
  | asciiNumeric
  deriving DecidableEq

namespace Collation

/-- The name under which the comparator is registered. -/
def word : Collation → String
  | octet => "i;octet"
  | asciiCasemap => "i;ascii-casemap"
  | asciiNumeric => "i;ascii-numeric"

/-- What stands for every character that is no digit. -/
def nonDigit : UInt8 := 0xFF

/-- The octet of a digit, or the stand-in. -/
def digitOctet (c : Char) : UInt8 := if c.isDigit then c.toUInt8 else nonDigit

/-- The octets by which a text is compared. -/
def key : Collation → String → List UInt8
  | octet, text => Text.octets text
  | asciiCasemap, text => Text.octets (Text.foldCase text)
  | asciiNumeric, text => text.toList.map digitOctet

/-- The comparator that compares texts by their keys. -/
def comparator (collation : Collation) : Comparator where
  equals left right := collation.key left == collation.key right
  contains container content := Text.hasInfix (collation.key content) (collation.key container)
  matchesGlob value pattern := .ok (Glob.isMatch (collation.key value) (collation.key pattern))

end Collation

end MailSieve
