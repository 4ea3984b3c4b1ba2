import MailSieve.Text.Case
import MailSieve.Text.Octets
import Mathlib.Data.List.Infix

/-!
# Characters in a row of octets

Comparators search in octets, and what they find should be a piece of the text.  In UTF-8 it is: the
first octet of a character differs from all octets inside of characters, so a run of octets that is
the form of some text can only begin where a character begins.  And no character is the beginning of
another, so from there on character after character is the same.

* `isFirstOctet_iff` says which octets of a character begin one, and `eq_nil_or_behind` that a
  character cannot begin inside another.
* `octets_infix_iff` carries the search over to characters.
* `mem_octets_iff`: an octet of ASCII stands for its character wherever it occurs.
* `octets_foldCase`: folding the letters of a text folds its octets one by one.
-/

namespace MailSieve.Text

variable {c : Char} {octet : UInt8} {before after : List UInt8} {needle haystack : List Char}

/-! ### Where characters begin -/

/-- Of the octets of a character the first begins one, and no other. -/
theorem isFirstOctet_iff (split : String.utf8EncodeChar c = before ++ octet :: after) :
    octet.IsUTF8FirstByte ↔ before = [] := by
  have inside : before.length < (String.utf8EncodeChar c).length := by simp [split]
  have there : (String.utf8EncodeChar c)[before.length] = octet := by simp [split]
  rw [← there, UInt8.isUTF8FirstByte_getElem_utf8EncodeChar, List.length_eq_zero_iff]

/-- **Inside a character no character begins**: what begins one stands at the start of the first
character or behind it. -/
theorem eq_nil_or_behind {rest : List UInt8} (isFirst : octet.IsUTF8FirstByte)
    (whole : before ++ octet :: after = String.utf8EncodeChar c ++ rest) :
    before = [] ∨ ∃ between, before = String.utf8EncodeChar c ++ between ∧
      rest = between ++ octet :: after := by
  rcases List.append_eq_append_iff.mp whole with ⟨inside, split, ahead⟩ | behind
  · cases inside with
    | nil =>
        -- the octet is the next after the character
        exact .inr ⟨[], by simpa using split.symm, by simpa using ahead.symm⟩
    | cons first inside =>
        obtain ⟨rfl, -⟩ := List.cons_eq_cons.mp ahead
        exact .inl ((isFirstOctet_iff split).mp isFirst)
  · exact .inr behind

/-- A text begins with another if its octets do. -/
theorem prefix_of_octets
    (found : needle.flatMap String.utf8EncodeChar <+: haystack.flatMap String.utf8EncodeChar) :
    needle <+: haystack := by
  obtain ⟨after, whole⟩ := found
  refine List.isPrefix_of_utf8Encode_append_eq_utf8Encode after.toByteArray ?_
  rw [List.utf8Encode, List.utf8Encode, ← List.toByteArray_append, whole]

/-- A text that is not empty begins with the first octet of a character. -/
theorem exists_firstOctet (first : Char) (later : List Char) :
    ∃ octet following, octet.IsUTF8FirstByte ∧
      (first :: later).flatMap String.utf8EncodeChar = octet :: following := by
  obtain ⟨octet, inside, starts⟩ :=
    List.exists_cons_of_ne_nil (String.utf8EncodeChar_ne_nil (c := first))
  refine ⟨octet, inside ++ later.flatMap String.utf8EncodeChar, ?_, ?_⟩
  · have atStart : String.utf8EncodeChar first = [] ++ octet :: inside := starts
    exact (isFirstOctet_iff atStart).mpr rfl
  · rw [List.flatMap_cons, starts, List.cons_append]

/-- A text is a piece of another if its octets are.  The induction is on the text that is searched:
the octets begin at its first character or behind it. -/
theorem infix_of_octets
    (found : needle.flatMap String.utf8EncodeChar <:+: haystack.flatMap String.utf8EncodeChar) :
    needle <:+: haystack := by
  cases needle with
  | nil => exact List.nil_infix
  | cons first later =>
      obtain ⟨octet, following, isFirst, starts⟩ := exists_firstOctet first later
      rw [starts] at found
      induction haystack with
      | nil => exact absurd (List.eq_nil_of_infix_nil found) (List.cons_ne_nil _ _)
      | cons c rest ih =>
          obtain ⟨before, after, whole⟩ := found
          rw [List.append_assoc, List.cons_append, List.flatMap_cons] at whole
          -- a first octet starts a character: the match starts at this one or behind it
          rcases eq_nil_or_behind isFirst whole with rfl | ⟨between, -, behind⟩
          · refine (prefix_of_octets ⟨after, ?_⟩).isInfix
            rw [starts, List.flatMap_cons]
            exact whole
          · refine List.infix_cons (ih ⟨between, after, ?_⟩)
            rw [List.append_assoc, List.cons_append, behind]

/-! ### Texts and their octets -/

/-- **Octets are found in a text exactly where its characters are found.** -/
theorem octets_infix_iff (needle haystack : String) :
    octets needle <:+: octets haystack ↔ needle.toList <:+: haystack.toList :=
  ⟨infix_of_octets, (·.flatMap _)⟩

/-- The octets of two texts in a row are their octets in a row. -/
theorem octets_append (left right : String) :
    octets (left ++ right) = octets left ++ octets right := by
  simp only [octets, String.toList_append, List.flatMap_append]

theorem octets_singleton (c : Char) : octets (String.singleton c) = String.utf8EncodeChar c := by
  rw [octets, String.toList_singleton, List.flatMap_singleton]

/-! ### Characters of ASCII -/

/-- A character of ASCII is one octet. -/
theorem utf8EncodeChar_of_ascii (ascii : c.val ≤ 0x7F) : String.utf8EncodeChar c = [c.toUInt8] := by
  rw [String.utf8EncodeChar_eq_singleton (Char.utf8Size_eq_one_iff.mpr ascii), Char.toUInt8_val]

/-- An octet of ASCII stands for its character wherever it occurs. -/
theorem mem_octets_iff {text : String} (ascii : c.val ≤ 0x7F) :
    c.toUInt8 ∈ octets text ↔ c ∈ text.toList := by
  rw [← List.singleton_infix_iff, ← utf8EncodeChar_of_ascii ascii, ← octets_singleton,
    octets_infix_iff, String.toList_singleton, List.singleton_infix_iff]

/-- The octet with the letters `A` to `Z` written small. -/
def lowerOctet (octet : UInt8) : UInt8 :=
  if 0x41 ≤ octet ∧ octet ≤ 0x5A then octet + 0x20 else octet

/-- A large letter can be written small as a character or as an octet. -/
theorem lowerOctet_toUInt8 (letter : 'A'.val ≤ c.val ∧ c.val ≤ 'Z'.val) :
    lowerOctet c.toUInt8 = c.toLower.toUInt8 := by
  have lower : c.toLower.val = c.val + 0x20 := by rw [val_toLower, if_pos letter]
  have inRange : 0x41 ≤ c.val.toUInt8 ∧ c.val.toUInt8 ≤ 0x5A := by
    have low : 0x41 ≤ c.val.toNat := UInt32.le_iff_toNat_le.mp letter.1
    have high : c.val.toNat ≤ 0x5A := UInt32.le_iff_toNat_le.mp letter.2
    simp only [UInt8.le_iff_toNat_le, UInt32.toNat_toUInt8, UInt8.reduceToNat]
    omega
  rw [lowerOctet, ← Char.toUInt8_val, ← Char.toUInt8_val, if_pos inRange, lower, UInt32.toUInt8_add]
  rfl

/-- In a character that is no letter of `A` to `Z` no octet is that of such a letter. -/
theorem lowerOctet_of_mem (noLetter : ¬ ('A'.val ≤ c.val ∧ c.val ≤ 'Z'.val))
    (present : octet ∈ String.utf8EncodeChar c) : lowerOctet octet = octet := by
  refine if_neg fun inRange => noLetter ?_
  have code : (Char.ofUInt8 octet).val = octet.toUInt32 := rfl
  have back : (Char.ofUInt8 octet).toUInt8 = octet := by
    rw [← Char.toUInt8_val, code, UInt8.toUInt8_toUInt32]
  have letter : 'A'.val ≤ octet.toUInt32 ∧ octet.toUInt32 ≤ 'Z'.val := by
    simp only [UInt32.le_iff_toNat_le, UInt8.le_iff_toNat_le, UInt8.toNat_toUInt32] at inRange ⊢
    exact inRange
  have itself : Char.ofUInt8 octet = c := by
    rwa [← octets_singleton, ← back, mem_octets_iff (by grind), String.toList_singleton,
      List.mem_singleton] at present
  rwa [← itself, code]

/-- A character and its small letter. -/
theorem utf8EncodeChar_toLower (c : Char) :
    String.utf8EncodeChar c.toLower = (String.utf8EncodeChar c).map lowerOctet := by
  by_cases letter : 'A'.val ≤ c.val ∧ c.val ≤ 'Z'.val
  · have ascii : c.val ≤ 0x7F := by grind
    have lowerAscii : c.toLower.val ≤ 0x7F := by grind [val_toLower]
    rw [utf8EncodeChar_of_ascii ascii, utf8EncodeChar_of_ascii lowerAscii, List.map_singleton,
      lowerOctet_toUInt8 letter]
  · have same : c.toLower = c := Char.ext (by rw [val_toLower, if_neg letter])
    rw [same]
    exact ((List.map_congr_left fun _ => lowerOctet_of_mem letter).trans (List.map_id _)).symm

/-- **Folding the letters of a text folds its octets one by one.** -/
theorem octets_foldCase (text : String) :
    octets (foldCase text) = (octets text).map lowerOctet := by
  rw [octets, octets, toList_foldCase, List.map_flatMap, List.flatMap_map]
  simp only [utf8EncodeChar_toLower]

end MailSieve.Text
