/-!
# Blank characters and trimming

A character is blank if Unicode gives it the property `White_Space`.  Header names, addresses and
redirect targets are trimmed by this class, which is wider than the blanks of ASCII: it holds the
next-line and no-break spaces, the spaces of typography and the ideographic space, but neither the
zero-width space nor the byte order mark.

`trim_eq_iff` says what trimming leaves: blanks come off as far as they go, and nothing else does.
-/

namespace MailSieve.Text

variable {text core before after : List Char}

/-- Whether Unicode counts the character as white space. -/
def isBlank (c : Char) : Bool :=
  (0x9 ≤ c.val && c.val ≤ 0xD) || c.val == 0x20 || c.val == 0x85 || c.val == 0xA0 ||
    c.val == 0x1680 || (0x2000 ≤ c.val && c.val ≤ 0x200A) || c.val == 0x2028 || c.val == 0x2029 ||
    c.val == 0x202F || c.val == 0x205F || c.val == 0x3000

/-- The text without the blanks it starts with. -/
def trimStart (text : List Char) : List Char := text.dropWhile isBlank

/-- The text without the blanks it ends with. -/
def trimEnd (text : List Char) : List Char := (text.reverse.dropWhile isBlank).reverse

/-- The text without the blanks around it. -/
def trim (text : List Char) : List Char := trimEnd (trimStart text)

/-- The string without the blanks around it. -/
def trimmed (text : String) : String := String.ofList (trim text.toList)

@[simp] theorem trim_nil : trim [] = [] := rfl

/-! ### What trimming leaves -/

/-- All characters of the text are blank. -/
def Blanks (text : List Char) : Prop := ∀ c ∈ text, isBlank c = true

/-- Neither the first nor the last character of the text is blank. -/
structure Bare (text : List Char) : Prop where
  head : ∀ c ∈ text.head?, isBlank c = false
  last : ∀ c ∈ text.getLast?, isBlank c = false

instance (text : List Char) : Decidable (Blanks text) :=
  decidable_of_iff (text.all isBlank = true) List.all_eq_true

instance (text : List Char) : Decidable (Bare text) :=
  decidable_of_iff
      (text.head?.all (!isBlank ·) = true ∧ text.getLast?.all (!isBlank ·) = true) <| by
    simp only [Option.all_eq_true, Bool.not_eq_true']
    exact ⟨fun ends => ⟨ends.1, ends.2⟩, fun bare => ⟨bare.head, bare.last⟩⟩

/-- What blanks leave when they are taken off the start of a text. -/
theorem trimStart_append (blanks : Blanks before) (head : ∀ c ∈ core.head?, isBlank c = false) :
    trimStart (before ++ core) = core := by
  rw [trimStart, List.dropWhile_append_of_pos blanks]
  cases core with
  | nil => rfl
  | cons c rest => exact List.dropWhile_cons_of_neg (Bool.eq_false_iff.mp (head c rfl))

/-- Blanks behind a text that does not end in one come off, and nothing more. -/
theorem trimEnd_append (blanks : Blanks after) (last : ∀ c ∈ core.getLast?, isBlank c = false) :
    trimEnd (core ++ after) = core := by
  have ahead : Blanks after.reverse := fun c present => blanks c (List.mem_reverse.mp present)
  have stripped : trimStart (after.reverse ++ core.reverse) = core.reverse :=
    trimStart_append ahead (by rwa [List.head?_reverse])
  rw [trimEnd, List.reverse_append]
  exact (congrArg List.reverse stripped).trans core.reverse_reverse

/-- What comes off the start is blank, and what is left does not start with a blank. -/
theorem exists_trimStart (text : List Char) : ∃ before, Blanks before ∧
    text = before ++ trimStart text ∧ ∀ c ∈ (trimStart text).head?, isBlank c = false := by
  refine ⟨text.takeWhile isBlank, List.all_eq_true.mp List.all_takeWhile,
    List.takeWhile_append_dropWhile.symm, fun c first => ?_⟩
  have kept := List.head?_dropWhile_not isBlank text
  rw [← trimStart, Option.mem_def.mp first] at kept
  exact kept

/-- What comes off the end is blank, and what is left does not end in a blank. -/
theorem exists_trimEnd (text : List Char) : ∃ after, Blanks after ∧
    text = trimEnd text ++ after ∧ ∀ c ∈ (trimEnd text).getLast?, isBlank c = false := by
  obtain ⟨ahead, blanks, whole, head⟩ := exists_trimStart text.reverse
  refine ⟨ahead.reverse, fun c present => blanks c (List.mem_reverse.mp present), ?_, ?_⟩
  · rw [trimEnd, ← trimStart, ← List.reverse_append, ← whole, List.reverse_reverse]
  · rwa [trimEnd, List.getLast?_reverse]

/-- **What trimming leaves**: the part of the text between blanks that is not blank at its ends. -/
theorem trim_eq_iff : trim text = core ↔
    Bare core ∧
      ∃ before after, Blanks before ∧ Blanks after ∧ text = before ++ (core ++ after) := by
  constructor
  · rintro rfl
    obtain ⟨before, blanksBefore, whole, head⟩ := exists_trimStart text
    obtain ⟨after, blanksAfter, split, last⟩ := exists_trimEnd (trimStart text)
    refine ⟨⟨fun c first => ?_, last⟩, before, after, blanksBefore, blanksAfter, ?_⟩
    · -- the first character of what is left is the first of what it was taken off the end of
      refine head c ?_
      rw [Option.mem_def, trim] at first
      rw [split, List.head?_append, first]
      rfl
    · rw [trim, ← split, ← whole]
  · rintro ⟨bare, before, after, blanksBefore, blanksAfter, rfl⟩
    cases core with
    | nil =>
        have blank : Blanks (before ++ after) := fun c present =>
          (List.mem_append.mp present).elim (blanksBefore c) (blanksAfter c)
        have stripped : trimStart (before ++ after ++ []) = [] := trimStart_append blank nofun
        rw [List.nil_append, trim, ← List.append_nil (before ++ after), stripped]
        rfl
    | cons c rest =>
        have kept : trimStart (before ++ (c :: rest ++ after)) = c :: rest ++ after :=
          trimStart_append blanksBefore bare.head
        rw [trim, kept, trimEnd_append blanksAfter bare.last]

/-- A text without blanks at its ends is left as it is. -/
theorem trim_eq_self (bare : Bare text) : trim text = text :=
  trim_eq_iff.mpr ⟨bare, [], [], nofun, nofun, (List.append_nil text).symm⟩

/-- A trimmed text has no blank at either end. -/
theorem bare_trim (text : List Char) : Bare (trim text) := (trim_eq_iff.mp rfl).1

/-- What trimming leaves is a part of the text. -/
theorem trim_isInfix (text : List Char) : trim text <:+: text := by
  obtain ⟨-, before, after, -, -, whole⟩ := trim_eq_iff.mp (rfl : trim text = trim text)
  exact ⟨before, after, by rw [List.append_assoc, ← whole]⟩

end MailSieve.Text
