/-!
# Glob patterns

A pattern is a row of octets in which `*` stands for any run of octets, the empty one included,
`?` for exactly one octet, and every other octet for itself.  There is no way to take the special
meaning away.

* `Matches` is the meaning of a pattern, rule by rule.
* `isMatch` decides it.  A pattern without wildcards is compared as it is.  Otherwise a `Cursor`
  walks text and pattern side by side, and a mismatch goes back to the last star alone: the star
  swallows one octet more and the walk resumes behind it.

## Why the walk ends

Both positions of a cursor may move backwards, so neither measures progress.  `Cursor.remaining`
does: it counts first the octets the last star has not swallowed, then the rest of the pattern.
`isMatch` walks at most that many steps from the start, and one more for the verdict.
-/

namespace MailSieve.Glob

/-- The wildcard `*`, any run of octets. -/
def anyRun : UInt8 := 0x2A

/-- The wildcard `?`, any single octet. -/
def anyOctet : UInt8 := 0x3F

/-- The meaning of a pattern: which texts it matches as a whole. -/
inductive Matches : (pattern text : List UInt8) → Prop where
  | nil : Matches [] []
  | run (skipped : List UInt8) {pattern text : List UInt8} (rest : Matches pattern text) :
      Matches (anyRun :: pattern) (skipped ++ text)
  | single (octet : UInt8) {pattern text : List UInt8} (rest : Matches pattern text) :
      Matches (anyOctet :: pattern) (octet :: text)
  | literal {octet : UInt8} {pattern text : List UInt8} (notRun : octet ≠ anyRun)
      (notSingle : octet ≠ anyOctet) (rest : Matches pattern text) :
      Matches (octet :: pattern) (octet :: text)

/-- Where a walk over a text and a pattern stands. -/
structure Cursor where
  /-- How many octets of the text are accounted for. -/
  text : Nat := 0
  /-- How many octets of the pattern are used up. -/
  pattern : Nat := 0
  /-- The last star met: where it stands in the pattern, and up to where in the text it
  swallows. -/
  star : Option (Nat × Nat) := none
  deriving DecidableEq

/-- What one step of a walk comes to. -/
inductive Step where
  | verdict (isMatch : Bool)
  | moved (cursor : Cursor)
  deriving DecidableEq

namespace Cursor

/-- Up to where the last star swallows; the start while no star has been met. -/
def swallowed (cursor : Cursor) : Nat := (cursor.star.map Prod.snd).getD 0

/-- How much of a walk is left at most. -/
def remaining (text pattern : Array UInt8) (cursor : Cursor) : Nat :=
  (text.size - cursor.swallowed) * (pattern.size + 1) + (pattern.size - cursor.pattern)

/-- Let the last star swallow one octet more; without a star there is nothing left to try. -/
def retry (cursor : Cursor) : Step :=
  match cursor.star with
  | none => .verdict false
  | some (star, upTo) =>
      .moved { text := upTo + 1, pattern := star + 1, star := some (star, upTo + 1) }

/-- One step of the walk.  At the end of the text only stars may remain of the pattern. -/
def step (text pattern : Array UInt8) (cursor : Cursor) : Step :=
  match text[cursor.text]? with
  | none => .verdict ((pattern.toList.drop cursor.pattern).all (· == anyRun))
  | some octet =>
      match pattern[cursor.pattern]? with
      | none => cursor.retry
      | some wanted =>
          if wanted = anyRun then
            .moved { cursor with
              pattern := cursor.pattern + 1
              star := some (cursor.pattern, cursor.text) }
          else if wanted = anyOctet ∨ wanted = octet then
            .moved { cursor with text := cursor.text + 1, pattern := cursor.pattern + 1 }
          else cursor.retry

/-- The verdict of a walk of at most the given number of steps. -/
def walk (text pattern : Array UInt8) : Nat → Cursor → Bool
  | 0, _ => false
  | steps + 1, cursor =>
      match cursor.step text pattern with
      | .verdict isMatch => isMatch
      | .moved next => walk text pattern steps next

end Cursor

/-- Whether an octet of the pattern is a wildcard. -/
def isWildcard (octet : UInt8) : Bool := octet == anyRun || octet == anyOctet

/-- Whether the pattern matches the whole text. -/
def isMatch (text pattern : List UInt8) : Bool :=
  if pattern.any isWildcard then
    let start : Cursor := {}
    start.walk text.toArray pattern.toArray (start.remaining text.toArray pattern.toArray + 1)
  else pattern == text

end MailSieve.Glob
