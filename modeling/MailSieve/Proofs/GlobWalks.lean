import MailSieve.Text.Octets
import MailSieve.Proofs.GlobPatterns

/-!
# Every walk over a glob pattern ends

A mismatch sends a walk back to the last star, and with it both the position in the text and the
position in the pattern.  Neither of them tells how far a walk has come, so it is not plain that it
ends, nor that it reads octets only where there are some.

What a single step preserves and what it uses up is said by `Cursor.InRange.step` and
`Cursor.InRange.remaining_lt`.  Here this is carried along whole walks.

* `Cursor.advance` follows a walk for some number of moves, without a budget of steps that could
  cut it short.
* `Cursor.InRange.of_advance`: wherever a walk comes, its positions are in range.
* `Cursor.InRange.exists_verdict`: a walk reaches its verdict in at most as many moves as remain at
  its start.
* `Cursor.walk_eq_of_verdict`: with steps to spare, `Cursor.walk` answers with that verdict.
* `walk_bounded` puts this together for the walk that `isMatch` takes.
-/

namespace MailSieve.Glob

namespace Cursor

variable {text pattern : List UInt8} {cursor later next : Cursor} {moves : Nat}

/-- Where a walk stands after some number of moves; nowhere if its verdict comes before. -/
def advance (text pattern : Array UInt8) : Nat → Cursor → Option Cursor
  | 0, cursor => some cursor
  | moves + 1, cursor =>
      match cursor.step text pattern with
      | .verdict _ => none
      | .moved next => advance text pattern moves next

/-! ### One step more -/

/-- What is listed, for a step whose outcome is known. -/
theorem steps_of_step {step : Step} (stepped : cursor.step text.toArray pattern.toArray = step) :
    Steps text pattern cursor step :=
  stepped ▸ steps_step text pattern cursor

/-- One move, and then the others from where it leads. -/
theorem advance_succ_of_moved {text pattern : Array UInt8}
    (moved : cursor.step text pattern = .moved next) :
    advance text pattern (moves + 1) cursor = advance text pattern moves next := by
  rw [advance, moved]

/-- A walk of one move more starts with a move, and goes on from there. -/
theorem exists_of_advance_succ {text pattern : Array UInt8}
    (came : advance text pattern (moves + 1) cursor = some later) :
    ∃ next, cursor.step text pattern = .moved next ∧
      advance text pattern moves next = some later := by
  rw [advance] at came
  split at came
  · cases came
  · rename_i next moved
    exact ⟨next, moved, came⟩

/-! ### Whole walks -/

/-- **Wherever a walk comes, its positions are in range.** -/
theorem InRange.of_advance (inRange : InRange text pattern cursor)
    (came : advance text.toArray pattern.toArray moves cursor = some later) :
    InRange text pattern later := by
  induction moves generalizing cursor with
  | zero =>
      obtain rfl : cursor = later := Option.some.inj came
      exact inRange
  | succ moves ih =>
      obtain ⟨next, moved, came⟩ := exists_of_advance_succ came
      exact ih (inRange.step (steps_of_step moved)) came

/-- **A walk reaches its verdict** in at most as many moves as remain at its start. -/
theorem InRange.exists_verdict {cursor : Cursor} (inRange : InRange text pattern cursor) :
    ∃ moves ≤ cursor.remaining text.toArray pattern.toArray, ∃ last isMatch,
      advance text.toArray pattern.toArray moves cursor = some last ∧
      last.step text.toArray pattern.toArray = .verdict isMatch := by
  cases stepped : cursor.step text.toArray pattern.toArray with
  | verdict isMatch => exact ⟨0, Nat.zero_le _, cursor, isMatch, rfl, stepped⟩
  | moved next =>
      have fewer := inRange.remaining_lt (steps_of_step stepped)
      obtain ⟨moves, within, last, isMatch, came, decided⟩ :=
        (inRange.step (steps_of_step stepped)).exists_verdict
      have onward := (advance_succ_of_moved stepped).trans came
      exact ⟨moves + 1, by omega, last, isMatch, onward, decided⟩
-- a retry takes both positions back, so the recursion has no position to follow
termination_by cursor.remaining text.toArray pattern.toArray

/-- A walk that has come somewhere goes on from there with the steps that are left. -/
theorem walk_of_advance {text pattern : Array UInt8} (steps : Nat)
    (came : advance text pattern moves cursor = some later) :
    walk text pattern (moves + steps) cursor = walk text pattern steps later := by
  induction moves generalizing cursor with
  | zero =>
      obtain rfl : cursor = later := Option.some.inj came
      rw [Nat.zero_add]
  | succ moves ih =>
      obtain ⟨next, moved, came⟩ := exists_of_advance_succ came
      rw [Nat.succ_add, walk, moved]
      exact ih came

/-- With steps to spare, the verdict of a walk is the one that it comes to. -/
theorem walk_eq_of_verdict {text pattern : Array UInt8} {steps : Nat} {isMatch : Bool}
    (came : advance text pattern moves cursor = some later)
    (decided : later.step text pattern = .verdict isMatch) (enough : moves < steps) :
    walk text pattern steps cursor = isMatch := by
  obtain ⟨spare, rfl⟩ := Nat.exists_eq_add_of_lt enough
  rw [Nat.add_assoc, walk_of_advance _ came, walk, decided]

end Cursor

/-- **A walk stays in range, and every move uses up some of it.**  Wherever the walk from the start
comes, its positions lie inside text and pattern, and the saved star is a star behind which the walk
stands; if it moves on, less of it remains.  So it ends, and its verdict is the answer of `isMatch`.
The number of its moves grows with the product of the two lengths and no faster. -/
theorem walk_bounded (text pattern : List UInt8) :
    (∀ moves cursor,
      Cursor.advance text.toArray pattern.toArray moves {} = some cursor →
        cursor.InRange text pattern ∧
        ∀ next, cursor.step text.toArray pattern.toArray = .moved next →
          next.remaining text.toArray pattern.toArray <
            cursor.remaining text.toArray pattern.toArray) ∧
    ∃ moves ≤ text.length * (pattern.length + 1) + pattern.length, ∃ last,
      Cursor.advance text.toArray pattern.toArray moves {} = some last ∧
      last.step text.toArray pattern.toArray = .verdict (isMatch text pattern) := by
  have start : Cursor.InRange text pattern {} := .start
  constructor
  · intro moves cursor came
    have inRange := start.of_advance came
    exact ⟨inRange, fun next moved => inRange.remaining_lt (Cursor.steps_of_step moved)⟩
  · obtain ⟨moves, within, last, verdict, came, decided⟩ := start.exists_verdict
    have answer : isMatch text pattern = verdict := by
      rw [isMatch_eq_walk]
      exact Cursor.walk_eq_of_verdict came decided (Nat.lt_succ_of_le within)
    exact ⟨moves, within, last, came, answer ▸ decided⟩

/-- Before the `b` of `*aab` stands the third `a` of `aaab`: the walk goes back in the text as well
as in the pattern, and yet less of it remains. -/
theorem walk_bounded_retry :
    let text := (Text.octets "aaab").toArray
    let pattern := (Text.octets "*aab").toArray
    let before : Cursor := { text := 2, pattern := 3, star := some (0, 0) }
    let behind : Cursor := { text := 1, pattern := 1, star := some (0, 1) }
    Cursor.advance text pattern 3 {} = some before ∧ before.step text pattern = .moved behind ∧
      before.InRange (Text.octets "aaab") (Text.octets "*aab") ∧
      behind.remaining text pattern < before.remaining text pattern := by
  intro text pattern before behind
  have came : Cursor.advance text pattern 3 {} = some before := by decide
  have moved : before.step text pattern = .moved behind := by decide
  obtain ⟨inRange, less⟩ :=
    (walk_bounded (Text.octets "aaab") (Text.octets "*aab")).1 3 before came
  exact ⟨came, moved, inRange, less behind moved⟩

end MailSieve.Glob
