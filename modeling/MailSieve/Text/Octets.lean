/-!
# Octets of a text

Comparators and glob patterns look at a text as the octets of its UTF-8 form.

* `octets` is that form, one character after the other.
* `hasInfix` looks for a run of octets inside another; `hasInfix_iff` says that it decides `<:+:`.
-/

namespace MailSieve.Text

/-- The UTF-8 form of a text. -/
def octets (text : String) : List UInt8 := text.toList.flatMap String.utf8EncodeChar

/-- How many octets a text takes. -/
def octetCount (text : String) : Nat := (octets text).length

/-- Whether `needle` stands somewhere in `haystack` without a gap; the empty run always does. -/
def hasInfix (needle : List UInt8) : List UInt8 → Bool
  | [] => needle.isEmpty
  | octet :: rest => needle.isPrefixOf (octet :: rest) || hasInfix needle rest

/-- The search finds just the infixes. -/
theorem hasInfix_iff (needle haystack : List UInt8) :
    hasInfix needle haystack = true ↔ needle <:+: haystack := by
  induction haystack with
  | nil => simp [hasInfix]
  | cons octet rest ih => simp [hasInfix, ih, List.infix_cons_iff, List.isPrefixOf_iff_prefix]

end MailSieve.Text
