/-!
# Letter case of ASCII text

Names, tags and header fields are compared without regard to the case of the letters `A` to `Z`.
No other letter has a case here: `É` and `é` differ, and so do `K` and the Kelvin sign.

* `foldCase` writes the letters `A` to `Z` small and leaves all else alone.
* `sameIgnoringCase` is equality of the folded texts, so it is an equivalence relation by its
  definition.
-/

namespace MailSieve.Text

/-- The text with each of the letters `A` to `Z` written small. -/
def foldCase (text : String) : String := text.map Char.toLower

/-- Whether two texts differ at most in the case of the letters `A` to `Z`. -/
def sameIgnoringCase (left right : String) : Bool := foldCase left == foldCase right

/-- Letters are folded one by one. -/
theorem toList_foldCase (text : String) :
    (foldCase text).toList = text.toList.map Char.toLower := String.toList_map

/-- The code of a small letter lies a fixed way behind that of the large one. -/
theorem val_toLower (c : Char) :
    c.toLower.val = if 'A'.val ≤ c.val ∧ c.val ≤ 'Z'.val then c.val + 0x20 else c.val := by
  unfold Char.toLower
  split <;> rfl

/-- What is folded has no case left to fold. -/
@[simp] theorem foldCase_foldCase (text : String) : foldCase (foldCase text) = foldCase text := by
  have once : ∀ c : Char, c.toLower.toLower = c.toLower := by
    intro c
    refine Char.ext ?_
    simp only [val_toLower]
    grind
  rw [foldCase, foldCase, String.map_map]
  exact congrArg (String.map · text) (funext once)

/-- Two strings are the same but for letter case just if they are folded to the same. -/
theorem sameIgnoringCase_iff (left right : String) :
    sameIgnoringCase left right = true ↔ foldCase left = foldCase right := beq_iff_eq

theorem sameIgnoringCase_iff_map (left right : String) :
    sameIgnoringCase left right = true ↔
      left.toList.map Char.toLower = right.toList.map Char.toLower := by
  rw [sameIgnoringCase_iff, ← String.toList_inj, toList_foldCase, toList_foldCase]

@[simp] theorem sameIgnoringCase_foldCase (left right : String) :
    sameIgnoringCase (foldCase left) right = sameIgnoringCase left right := by
  rw [sameIgnoringCase, sameIgnoringCase, foldCase_foldCase]

end MailSieve.Text
