import MailSieve.Comparator
import MailSieve.Proofs.GlobPatterns
import MailSieve.Proofs.OctetBoundaries
import Mathlib.Data.List.Forall2

/-!
# What the built-in comparators mean

Each built-in comparator compares texts by the octets of a key.  Seen from outside, it takes certain
characters for the same and compares texts character by character: `i;octet` tells all characters
apart, `i;ascii-casemap` takes a letter of `A` to `Z` for its small letter, and `i;ascii-numeric`
takes all that is no digit for one character.

* `Collation.representative` is the character taken for a character, and `Collation.seen` what is
  left of a text.  `Collation.equals_iff` and `Collation.contains_iff` say that the octets of keys
  compare as what is seen does, so no match begins or ends inside a character.
* `Collation.matchesGlob_eq_ok_iff` is the meaning of a pattern for the octets of keys.
* `contains_iff_exists_piece`: what is contained is equal to a piece of the text.
* `matchTypes_agree`: the three match types agree where a pattern has no wildcards, and where they
  stand around it.
* `collations_coarsen`: each comparator compares by an equivalence and never tells equals apart, and
  each takes for the same whatever the one before it does.
-/

namespace MailSieve

variable {collation : Collation}

/-! ### Keys -/

namespace Collation

/-- The key of two texts in a row is their keys in a row. -/
theorem key_append (collation : Collation) (left right : String) :
    collation.key (left ++ right) = collation.key left ++ collation.key right := by
  cases collation with
  | octet => exact Text.octets_append left right
  | asciiCasemap => simp [key, Text.octets, Text.toList_foldCase]
  | asciiNumeric => simp [key]

/-- The key of `i;ascii-casemap` folds octets, and leaves the octets of other characters alone. -/
theorem key_asciiCasemap (text : String) :
    asciiCasemap.key text = (octet.key text).map Text.lowerOctet :=
  Text.octets_foldCase text

/-- The character that is taken for a character. -/
def representative : Collation → Char → Char
  | octet, c => c
  | asciiCasemap, c => c.toLower
  | asciiNumeric, c => if c.isDigit then c else '\uFFFD'

/-- The text with each character as it is taken. -/
def seen (collation : Collation) (text : String) : List Char :=
  text.toList.map collation.representative

@[simp] theorem seen_octet (text : String) : octet.seen text = text.toList :=
  List.map_id text.toList

@[simp] theorem seen_append (collation : Collation) (left right : String) :
    collation.seen (left ++ right) = collation.seen left ++ collation.seen right := by
  simp [seen]

theorem toNat_of_isDigit {c : Char} (digit : c.isDigit = true) :
    0x30 ≤ c.toNat ∧ c.toNat ≤ 0x39 := by
  simp only [Char.isDigit, Bool.and_eq_true, decide_eq_true_eq] at digit
  exact ⟨UInt32.le_iff_toNat_le.mp digit.1, UInt32.le_iff_toNat_le.mp digit.2⟩

/-- A digit stands for itself, and every other character for an octet that no digit has. -/
theorem toNat_digitOctet (c : Char) :
    (digitOctet c).toNat = if c.isDigit then c.toNat else 0xFF := by
  unfold digitOctet
  split
  · rename_i digit
    have := (toNat_of_isDigit digit).2
    rw [← Char.toUInt8_val, UInt32.toNat_toUInt8]
    exact Nat.mod_eq_of_lt (by change c.toNat < _; omega)
  · rfl

/-- Octets stand for what is seen: those of two digits differ, and none is the stand-in. -/
theorem digitOctet_eq_iff (c d : Char) :
    digitOctet c = digitOctet d ↔
      asciiNumeric.representative c = asciiNumeric.representative d := by
  have seenCode (c : Char) : (asciiNumeric.representative c).toNat =
      if c.isDigit then c.toNat else 0xFFFD := by
    rw [representative]
    split <;> rfl
  rw [← UInt8.toNat_inj, ← Char.toNat_inj, toNat_digitOctet, toNat_digitOctet, seenCode, seenCode]
  grind [toNat_of_isDigit]

/-- Keys are found in each other where what is seen is. -/
theorem key_infix_iff (content container : String) :
    collation.key content <:+: collation.key container ↔
      collation.seen content <:+: collation.seen container := by
  cases collation with
  | octet =>
      rw [seen_octet, seen_octet]
      exact Text.octets_infix_iff content container
  | asciiCasemap =>
      rw [key, key, Text.octets_infix_iff, Text.toList_foldCase, Text.toList_foldCase]
      rfl
  | asciiNumeric =>
      have same (l m : List Char) : l.map digitOctet = m.map digitOctet ↔
          l.map asciiNumeric.representative = m.map asciiNumeric.representative := by
        simp only [← List.forall₂_eq_eq_eq, List.forall₂_map_left_iff, List.forall₂_map_right_iff,
          digitOctet_eq_iff]
      simp only [key, seen, List.infix_map_iff, same]

/-- Two texts have one key just if they are seen alike: what is seen can be told from the key. -/
theorem key_eq_iff {left right : String} :
    collation.key left = collation.key right ↔ collation.seen left = collation.seen right := by
  -- equal is what is found in each other
  rw [← antisymm_iff (r := List.IsInfix), ← antisymm_iff (r := List.IsInfix), key_infix_iff,
    key_infix_iff]

/-- Two texts are equal to a collation just if they have one key. -/
theorem equals_iff_key {left right : String} :
    collation.comparator.equals left right = true ↔ collation.key left = collation.key right :=
  beq_iff_eq

/-- Two texts are equal to a collation just if it sees them alike. -/
theorem equals_iff {left right : String} :
    collation.comparator.equals left right = true ↔
      collation.seen left = collation.seen right :=
  equals_iff_key.trans key_eq_iff

/-- A text is contained in another just if what is seen of it is a piece of what is seen of the
other. -/
theorem contains_iff {container content : String} :
    collation.comparator.contains container content = true ↔
      collation.seen content <:+: collation.seen container :=
  (Text.hasInfix_iff _ _).trans (key_infix_iff _ _)

/-- A pattern is matched by its meaning for the octets of keys, and never refused. -/
theorem matchesGlob_eq_ok_iff {value pattern : String} {holds : Bool} :
    collation.comparator.matchesGlob value pattern = .ok holds ↔
      (Glob.Matches (collation.key pattern) (collation.key value) ↔ holds = true) := by
  have decides : Glob.isMatch (collation.key value) (collation.key pattern) = true ↔
      Glob.Matches (collation.key pattern) (collation.key value) := by
    rw [Glob.isMatch_eq_walk]
    exact Glob.Cursor.Tracks.start.walk_iff (Nat.lt_succ_self _)
  rw [← decides, ← Bool.eq_iff_iff]
  exact ⟨Except.ok.inj, congrArg Except.ok⟩

end Collation

/-- **What is contained is equal to a piece of the text**, for every built-in comparator. -/
theorem contains_iff_exists_piece (collation : Collation) (container content : String) :
    collation.comparator.contains container content = true ↔
      ∃ before piece after : String, container = before ++ piece ++ after ∧
        collation.comparator.equals piece content = true := by
  simp only [Collation.contains_iff, Collation.equals_iff]
  constructor
  · intro found
    obtain ⟨piece, ⟨before, after, whole⟩, same⟩ := List.infix_map_iff.mp found
    refine ⟨.ofList before, .ofList piece, .ofList after, ?_, ?_⟩
    · simp [← String.toList_inj, whole]
    · rw [Collation.seen, String.toList_ofList]
      exact same.symm
  · rintro ⟨before, piece, after, rfl, same⟩
    exact ⟨collation.seen before, collation.seen after, by simp [same]⟩

/-! ### Wildcards in keys -/

namespace Collation

/-- Folding octets keeps the stars and makes no others. -/
theorem lowerOctet_eq_anyRun_iff (octet : UInt8) :
    Text.lowerOctet octet = Glob.anyRun ↔ octet = Glob.anyRun := by
  grind [Glob.anyRun, Text.lowerOctet]

/-- Folding octets keeps the question marks and makes no others. -/
theorem lowerOctet_eq_anyOctet_iff (octet : UInt8) :
    Text.lowerOctet octet = Glob.anyOctet ↔ octet = Glob.anyOctet := by
  grind [Glob.anyOctet, Text.lowerOctet]

/-- A text without wildcards has none among its octets. -/
theorem any_isWildcard_octets {text : String} (noStar : '*' ∉ text.toList)
    (noQuestionMark : '?' ∉ text.toList) : (Text.octets text).any Glob.isWildcard = false := by
  rw [List.any_eq_false]
  intro octet present wild
  rcases (Bool.or_eq_true _ _).mp wild with star | questionMark
  · rw [beq_iff_eq.mp star] at present
    exact noStar ((Text.mem_octets_iff (c := '*') (by decide)).mp present)
  · rw [beq_iff_eq.mp questionMark] at present
    exact noQuestionMark ((Text.mem_octets_iff (c := '?') (by decide)).mp present)

/-- Where octets are compared, a key has no wildcards that the text has not. -/
theorem any_isWildcard_key {pattern : String} (textual : collation ∈ [octet, asciiCasemap])
    (noStar : '*' ∉ pattern.toList) (noQuestionMark : '?' ∉ pattern.toList) :
    (collation.key pattern).any Glob.isWildcard = false := by
  have plain := any_isWildcard_octets noStar noQuestionMark
  rcases List.mem_pair.mp textual with rfl | rfl
  · exact plain
  · rw [key_asciiCasemap, List.any_map, ← plain]
    simp only [Function.comp_def, Glob.isWildcard, Bool.beq_eq_decide_eq, lowerOctet_eq_anyRun_iff,
      lowerOctet_eq_anyOctet_iff]
    rfl

/-- A pattern without wildcards matches what is equal to it. -/
theorem matchesGlob_of_plain {pattern : String} (value : String)
    (plain : (collation.key pattern).any Glob.isWildcard = false) :
    collation.comparator.matchesGlob value pattern =
      .ok (collation.comparator.equals value pattern) := by
  rw [matchesGlob_eq_ok_iff, Glob.matches_iff_eq plain, equals_iff_key, eq_comm]

/-- The key of `i;ascii-numeric` has no wildcards, whatever the text. -/
theorem any_isWildcard_key_asciiNumeric (pattern : String) :
    (asciiNumeric.key pattern).any Glob.isWildcard = false := by
  have plain (c : Char) : Glob.isWildcard (digitOctet c) = false := by
    have star : Glob.anyRun.toNat = 0x2A := rfl
    have questionMark : Glob.anyOctet.toNat = 0x3F := rfl
    simp only [Glob.isWildcard, Bool.or_eq_false_iff, beq_eq_false_iff_ne, ne_eq,
      ← UInt8.toNat_inj, toNat_digitOctet, star, questionMark]
    grind [toNat_of_isDigit]
  simp [key, List.any_map, plain]

end Collation

/-- **The three match types agree where they overlap.**  Without wildcards a pattern is equal to
what it matches, and between two stars it is contained in it; `i;ascii-numeric` knows no wildcards
at all.  Every text matches itself, and no pattern is refused. -/
theorem matchTypes_agree :
    (∀ collation ∈ [Collation.octet, .asciiCasemap], ∀ value key : String,
      '*' ∉ key.toList → '?' ∉ key.toList →
        collation.comparator.matchesGlob value key =
            .ok (collation.comparator.equals value key) ∧
          collation.comparator.matchesGlob value ("*" ++ key ++ "*") =
            .ok (collation.comparator.contains value key)) ∧
    (∀ value pattern : String,
      Collation.asciiNumeric.comparator.matchesGlob value pattern =
        .ok (Collation.asciiNumeric.comparator.equals value pattern)) ∧
    (∀ (collation : Collation) (text : String),
      collation.comparator.matchesGlob text text = .ok true) ∧
    ∀ (collation : Collation) (value pattern : String),
      ∃ holds, collation.comparator.matchesGlob value pattern = .ok holds := by
  refine ⟨fun collation textual value key noStar noQuestionMark => ?_, fun value pattern => ?_,
    fun collation text => ?_, fun collation value pattern => ⟨_, rfl⟩⟩
  · have plain := Collation.any_isWildcard_key textual noStar noQuestionMark
    refine ⟨Collation.matchesGlob_of_plain value plain, ?_⟩
    have star : collation.key "*" = [Glob.anyRun] := by
      rcases List.mem_pair.mp textual with rfl | rfl <;> decide +kernel
    rw [Collation.matchesGlob_eq_ok_iff, Collation.key_append, Collation.key_append, star,
      List.append_assoc, List.singleton_append, Glob.matches_between_stars_iff plain,
      ← Text.hasInfix_iff]
    rfl
  · exact Collation.matchesGlob_of_plain value (Collation.any_isWildcard_key_asciiNumeric pattern)
  · exact Collation.matchesGlob_eq_ok_iff.mpr (iff_of_true (.refl _) rfl)

/-- The match types on words with accents, on a pattern with wildcards, and on numbers: `É` is no
letter of ASCII, and the star of `1*` is one character like any other. -/
theorem matchTypes_agree_accents :
    let casemap := Collation.asciiCasemap.comparator
    let octet := Collation.octet.comparator
    let numeric := Collation.asciiNumeric.comparator
    casemap.matchesGlob "Im CAFé heute" ("*" ++ "café" ++ "*") = .ok true ∧
      casemap.matchesGlob "Im CAFÉ heute" ("*" ++ "café" ++ "*") = .ok false ∧
      octet.matchesGlob "a*b?c" "a*b?c" = .ok true ∧
      numeric.matchesGlob "1x" "1*" = .ok true ∧ numeric.matchesGlob "1xy" "1*" = .ok false := by
  intro casemap octet numeric
  obtain ⟨textual, numbers, itself, -⟩ := matchTypes_agree
  have contained (value : String) := (textual .asciiCasemap (by simp) value "café"
    (by decide +kernel) (by decide +kernel)).2
  have inside : casemap.contains "Im CAFé heute" "café" = true :=
    Collation.contains_iff.mpr (by decide +kernel)
  have outside : casemap.contains "Im CAFÉ heute" "café" = false :=
    Bool.eq_false_iff.mpr (Collation.contains_iff.not.mpr (by decide +kernel))
  refine ⟨(contained _).trans (congrArg _ inside), (contained _).trans (congrArg _ outside),
    itself .octet _, (numbers _ _).trans ?_, (numbers _ _).trans ?_⟩ <;> decide +kernel

/-! ### From comparator to comparator -/

/-- Equality of the comparator is an equivalence, and the comparator never tells equals apart. -/
structure Comparator.Congruent (comparator : Comparator) : Prop where
  equivalence : Equivalence fun left right => comparator.equals left right = true
  contains_eq : ∀ {container content otherContainer otherContent : String},
    comparator.equals container otherContainer = true →
      comparator.equals content otherContent = true →
        comparator.contains otherContainer otherContent = comparator.contains container content
  matchesGlob_eq : ∀ {value pattern otherValue otherPattern : String},
    comparator.equals value otherValue = true → comparator.equals pattern otherPattern = true →
      comparator.matchesGlob otherValue otherPattern = comparator.matchesGlob value pattern

/-- Whatever the comparator finds equal or contained, the other one does. -/
structure Comparator.FinerThan (comparator other : Comparator) : Prop where
  equals : ∀ {left right : String},
    comparator.equals left right = true → other.equals left right = true
  contains : ∀ {container content : String},
    comparator.contains container content = true → other.contains container content = true

/-- No built-in comparator tells apart what it calls equal. -/
theorem Collation.congruent (collation : Collation) : collation.comparator.Congruent where
  equivalence := by
    simp only [equals_iff_key]
    exact InvImage.equivalence Eq collation.key eq_equivalence
  contains_eq sameContainer sameContent := by
    rw [equals_iff_key] at sameContainer sameContent
    simp only [comparator, sameContainer, sameContent]
  matchesGlob_eq sameValue samePattern := by
    rw [equals_iff_key] at sameValue samePattern
    simp only [comparator, sameValue, samePattern]

/-- A collation is finer than another that sees no more than what it sees. -/
theorem Collation.finerThan_of_representative {collation other : Collation}
    (sees : ∀ c, other.representative (collation.representative c) = other.representative c) :
    collation.comparator.FinerThan other.comparator := by
  have seen_eq (text : String) :
      other.seen text = (collation.seen text).map other.representative := by
    simp only [seen, List.map_map]
    exact List.map_congr_left fun c _ => (sees c).symm
  constructor
  · intro left right
    rw [equals_iff, equals_iff, seen_eq, seen_eq]
    exact congrArg _
  · intro container content
    rw [contains_iff, contains_iff, seen_eq, seen_eq]
    exact (·.map _)

/-- **The built-in comparators are a chain of coarser and coarser congruences.**  Each compares by
an equivalence and never tells equals apart.  `i;ascii-casemap` is `i;octet` on texts whose letters
are folded, and so compares octet by octet; it finds all that `i;octet` finds, and `i;ascii-numeric`
all that it finds, except that a pattern of numbers has no wildcards. -/
theorem collations_coarsen :
    (∀ collation : Collation, collation.comparator.Congruent) ∧
    (∀ left right : String,
      let casemap := Collation.asciiCasemap.comparator
      let octet := Collation.octet.comparator
      (casemap.equals left right = true ↔
          (Text.octets left).map Text.lowerOctet = (Text.octets right).map Text.lowerOctet) ∧
        casemap.equals left right = octet.equals (Text.foldCase left) (Text.foldCase right) ∧
        casemap.contains left right = octet.contains (Text.foldCase left) (Text.foldCase right) ∧
        casemap.matchesGlob left right =
          octet.matchesGlob (Text.foldCase left) (Text.foldCase right)) ∧
    Collation.octet.comparator.FinerThan Collation.asciiCasemap.comparator ∧
    Collation.asciiCasemap.comparator.FinerThan Collation.asciiNumeric.comparator ∧
    ∀ value pattern : String, Collation.octet.comparator.matchesGlob value pattern = .ok true →
      Collation.asciiCasemap.comparator.matchesGlob value pattern = .ok true := by
  refine ⟨Collation.congruent, fun left right => ⟨?_, rfl, rfl, rfl⟩, ?_, ?_,
    fun value pattern => ?_⟩
  · rw [Collation.equals_iff_key, Collation.key_asciiCasemap, Collation.key_asciiCasemap]
    rfl
  · exact Collation.finerThan_of_representative fun c => rfl
  · refine Collation.finerThan_of_representative fun c => ?_
    simp only [Collation.representative]
    grind [Text.val_toLower, Char.isDigit, Char.ext_iff]
  · simp only [Collation.matchesGlob_eq_ok_iff, iff_true, Collation.key_asciiCasemap]
    exact .map Collation.lowerOctet_eq_anyRun_iff Collation.lowerOctet_eq_anyOctet_iff

/-- A reply matches its pattern as it is written, so it matches in any case of its letters, the
pattern shouted or not. -/
theorem collations_coarsen_reply :
    let octet := Collation.octet.comparator
    let casemap := Collation.asciiCasemap.comparator
    octet.matchesGlob "Re: Urgent" "Re:*Urg?nt" = .ok true ∧
      casemap.matchesGlob "RE: URGENT" "re:*URG?NT" = .ok true := by
  intro octet casemap
  obtain ⟨congruent, -, -, -, coarser⟩ := collations_coarsen
  have written : octet.matchesGlob "Re: Urgent" "Re:*Urg?nt" = .ok true := by
    decide +kernel
  refine ⟨written, ?_⟩
  have sameValue : casemap.equals "Re: Urgent" "RE: URGENT" = true :=
    Collation.equals_iff.mpr (by decide +kernel)
  have samePattern : casemap.equals "Re:*Urg?nt" "re:*URG?NT" = true :=
    Collation.equals_iff.mpr (by decide +kernel)
  rw [(congruent .asciiCasemap).matchesGlob_eq sameValue samePattern]
  exact coarser _ _ written

end MailSieve
