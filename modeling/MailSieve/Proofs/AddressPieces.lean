import Mathlib.Algebra.Group.Nat.Even
import Mathlib.Data.List.Forall2
import MailSieve.Address

/-!
# The pieces of an address field

A comma separates if an even number of double quotes stands before it in the field.  `splitAtCommas`
carries this number along as a flag, and what it cuts out is determined by the separators alone.

* `IsCut` says what it is to cut a field at its separators, and `isCut_iff` that exactly one list of
  pieces does it.
* `splitAtCommas_append`: a separator between two fields keeps them apart.
* `Yields` says what address a piece holds, if any, and `yields_iff` that it is found.
* `splitAddresses_laws` puts the two together.
-/

namespace MailSieve.Address

variable {ahead field text before after rest piece inside : List Char}
  {pieces others : List (List Char)} {c : Char} {quoted : Bool}

/-! ### Separators -/

/-- Whether what follows a text stands inside double quotes. -/
def insideQuotes (ahead : List Char) : Bool := !decide (Even (ahead.count '"'))

/-- What follows stands outside of quotes just if the quotes before it come in pairs. -/
theorem insideQuotes_eq_false_iff : insideQuotes ahead = false ↔ Even (ahead.count '"') := by
  rw [insideQuotes, Bool.not_eq_false', decide_eq_true_eq]

/-- A double quote leads in or out. -/
theorem insideQuotes_append_singleton (ahead : List Char) (c : Char) :
    insideQuotes (ahead ++ [c]) =
      if c = '"' then !insideQuotes ahead else insideQuotes ahead := by
  by_cases isQuote : c = '"'
  · subst isQuote
    rw [if_pos rfl, insideQuotes, List.count_append, List.count_singleton_self, insideQuotes]
    simp only [Nat.even_add_one, decide_not]
  · have none : [c].count '"' = 0 := List.count_eq_zero.mpr (by simpa using Ne.symm isQuote)
    rw [if_neg isQuote, insideQuotes, List.count_append, none, Nat.add_zero, insideQuotes]

/-- At a separator a piece ends. -/
theorem splitAtCommas_separator (rest : List Char) :
    splitAtCommas false (',' :: rest) = [] :: splitAtCommas false rest := rfl

/-- There is always a first piece. -/
theorem exists_splitAtCommas (quoted : Bool) (field : List Char) :
    ∃ piece pieces, splitAtCommas quoted field = piece :: pieces := by
  cases field with
  | nil => exact ⟨[], [], rfl⟩
  | cons c rest =>
      rw [splitAtCommas]
      repeat' split
      all_goals exact ⟨_, _, rfl⟩

/-- Any character that is no separator belongs to the piece that it stands before. -/
theorem splitAtCommas_character (noSeparator : ¬ (c = ',' ∧ quoted = false)) (rest : List Char) :
    ∃ piece pieces, splitAtCommas (if c = '"' then !quoted else quoted) rest = piece :: pieces ∧
      splitAtCommas quoted (c :: rest) = (c :: piece) :: pieces := by
  obtain ⟨piece, pieces, cut⟩ :=
    exists_splitAtCommas (if c = '"' then !quoted else quoted) rest
  refine ⟨piece, pieces, cut, ?_⟩
  rw [splitAtCommas, if_neg noSeparator, cut]

/-- **Separators keep fields apart**: what stands before a separator and what stands behind it are
cut as fields of their own. -/
theorem splitAtCommas_append (outside : insideQuotes (ahead ++ before) = false) :
    splitAtCommas (insideQuotes ahead) (before ++ ',' :: after) =
      splitAtCommas (insideQuotes ahead) before ++ splitAtCommas false after := by
  induction before generalizing ahead with
  | nil =>
      rw [List.append_nil] at outside
      rw [outside]
      rfl
  | cons c rest ih =>
      have behind : insideQuotes (ahead ++ [c] ++ rest) = false := by rwa [List.append_assoc]
      have onward := ih behind
      rw [insideQuotes_append_singleton] at onward
      by_cases separator : c = ',' ∧ insideQuotes ahead = false
      · obtain ⟨rfl, outer⟩ := separator
        rw [outer] at onward ⊢
        exact congrArg ([] :: ·) onward
      · obtain ⟨first, others, cut, here⟩ := splitAtCommas_character separator rest
        obtain ⟨piece, pieces, cutAll, whole⟩ :=
          splitAtCommas_character separator (rest ++ ',' :: after)
        rw [cutAll, cut, List.cons_append] at onward
        cases onward
        rw [List.cons_append, whole, here, List.cons_append]

/-! ### What a cut is -/

/-- `before` stands ahead of one of the commas that put the pieces in a row. -/
inductive Joint : List (List Char) → List Char → Prop
  | here (piece next : List Char) (others : List (List Char)) :
      Joint (piece :: next :: others) piece
  | later (piece : List Char) {others : List (List Char)} {before : List Char}
      (joint : Joint others before) : Joint (piece :: others) (piece ++ ',' :: before)

/-- `field`, which stands behind `ahead`, is cut into the pieces: put in a row with commas they are
the field again, and the commas between them are those with an even number of double quotes before
them. -/
structure IsCut (ahead field : List Char) (pieces : List (List Char)) : Prop where
  ne_nil : pieces ≠ []
  joined : field = [','].intercalate pieces
  joint_iff : ∀ before after, field = before ++ ',' :: after →
    (Even ((ahead ++ before).count '"') ↔ Joint pieces before)

theorem not_joint_singleton : ¬ Joint [piece] before := by
  rintro (- | ⟨-, joint⟩)
  cases joint

/-- Only an empty piece has a comma at its start. -/
theorem Joint.of_nil (joint : Joint pieces []) :
    ∃ next others, pieces = [] :: next :: others := by
  generalize start : [] = before at joint
  cases joint with
  | here piece next others => exact ⟨next, others, by rw [← start]⟩
  | later piece =>
      exact absurd start.symm (List.append_ne_nil_of_right_ne_nil piece (List.cons_ne_nil _ _))

/-- Behind an empty piece the joints are those of the other pieces. -/
theorem joint_nil_cons_iff : Joint ([] :: others) (',' :: before) ↔ Joint others before := by
  constructor
  · intro joint
    generalize split : ',' :: before = all at joint
    cases joint with
    | here => cases split
    | later _ joint =>
        cases split
        exact joint
  · exact fun joint => .later [] joint

/-- The first character of a piece stands ahead of all joints. -/
theorem joint_cons_iff : Joint ((c :: piece) :: others) before ↔
    ∃ behind, before = c :: behind ∧ Joint (piece :: others) behind := by
  constructor
  · rintro (⟨-, next, others⟩ | ⟨-, joint⟩)
    · exact ⟨piece, rfl, .here piece next others⟩
    · exact ⟨_, List.cons_append, .later piece joint⟩
  · rintro ⟨behind, rfl, ⟨-, next, others⟩ | ⟨-, joint⟩⟩
    · exact .here _ next others
    · exact .later _ joint

/-- An empty field is cut into one empty piece, and into nothing else. -/
theorem isCut_nil_iff : IsCut ahead [] pieces ↔ pieces = [[]] := by
  constructor
  · rintro ⟨nonempty, joined, -⟩
    obtain ⟨piece, others, rfl⟩ := List.exists_cons_of_ne_nil nonempty
    cases others with
    | nil => rw [joined, List.intercalate_singleton]
    | cons next others => simp at joined
  · rintro rfl
    exact ⟨List.cons_ne_nil _ _, rfl, fun before after split => by simp at split⟩

/-- At a separator a piece ends, which is empty if nothing of it has been read. -/
theorem isCut_separator_iff (outside : Even (ahead.count '"')) :
    IsCut ahead (',' :: rest) pieces ↔
      ∃ others, pieces = [] :: others ∧ IsCut (ahead ++ [',']) rest others := by
  constructor
  · rintro ⟨nonempty, joined, joint_iff⟩
    have joint : Joint pieces [] := (joint_iff [] rest rfl).mp (by rwa [List.append_nil])
    obtain ⟨next, others, rfl⟩ := joint.of_nil
    refine ⟨next :: others, rfl, List.cons_ne_nil _ _, ?_, fun before after split => ?_⟩
    · rw [List.intercalate_cons_cons] at joined
      exact List.tail_eq_of_cons_eq joined
    · have there := joint_iff (',' :: before) after (congrArg (',' :: ·) split)
      rwa [joint_nil_cons_iff, List.append_cons] at there
  · rintro ⟨others, rfl, nonempty, joined, joint_iff⟩
    obtain ⟨next, others, rfl⟩ := List.exists_cons_of_ne_nil nonempty
    refine ⟨List.cons_ne_nil _ _, ?_, fun before after split => ?_⟩
    · rw [List.intercalate_cons_cons, ← joined]
      rfl
    · cases before with
      | nil => exact iff_of_true (by rwa [List.append_nil]) (.here [] next others)
      | cons c before =>
          obtain ⟨rfl, behind⟩ := List.cons_eq_cons.mp split
          rw [joint_nil_cons_iff, List.append_cons]
          exact joint_iff before after behind

/-- A character at the start of the first piece stands at the start of the row. -/
theorem intercalate_cons_head (c : Char) (piece : List Char) (others : List (List Char)) :
    [','].intercalate ((c :: piece) :: others) = c :: [','].intercalate (piece :: others) := by
  cases others with
  | nil => rw [List.intercalate_singleton, List.intercalate_singleton]
  | cons next others =>
      rw [List.intercalate_cons_cons, List.intercalate_cons_cons, List.cons_append,
        List.cons_append]

/-- A character that does not separate stands at the start of the first piece. -/
theorem isCut_character_iff (noSeparator : ¬ (c = ',' ∧ Even (ahead.count '"'))) :
    IsCut ahead (c :: rest) pieces ↔
      ∃ piece others, pieces = (c :: piece) :: others ∧
        IsCut (ahead ++ [c]) rest (piece :: others) := by
  constructor
  · rintro ⟨nonempty, joined, joint_iff⟩
    obtain ⟨piece, others, rfl⟩ := List.exists_cons_of_ne_nil nonempty
    cases piece with
    | nil =>
        -- an empty first piece ends at a separator, and the field starts with none
        cases others with
        | nil => cases joined
        | cons next others =>
            obtain ⟨rfl, -⟩ := List.cons_eq_cons.mp (joined.trans List.intercalate_cons_cons)
            have outside := (joint_iff [] rest rfl).mpr (.here [] next others)
            exact absurd ⟨rfl, by rwa [List.append_nil] at outside⟩ noSeparator
    | cons first piece =>
        rw [intercalate_cons_head] at joined
        obtain ⟨rfl, inRow⟩ := List.cons_eq_cons.mp joined
        refine ⟨piece, others, rfl, List.cons_ne_nil _ _, inRow, fun before after split => ?_⟩
        have there := joint_iff (c :: before) after (congrArg (c :: ·) split)
        rw [List.append_cons, joint_cons_iff] at there
        simpa using there
  · rintro ⟨piece, others, rfl, -, joined, joint_iff⟩
    refine ⟨List.cons_ne_nil _ _, ?_, fun before after split => ?_⟩
    · rw [intercalate_cons_head, ← joined]
    · rw [joint_cons_iff]
      cases before with
      | nil =>
          obtain ⟨rfl, -⟩ := List.cons_eq_cons.mp split
          rw [List.append_nil]
          exact iff_of_false (fun outside => noSeparator ⟨rfl, outside⟩) nofun
      | cons first before =>
          obtain ⟨rfl, behind⟩ := List.cons_eq_cons.mp split
          rw [List.append_cons, joint_iff before after behind]
          simp

/-- **A field is cut into pieces in one way**, and `splitAtCommas` finds it. -/
theorem isCut_iff : IsCut ahead field pieces ↔
    pieces = splitAtCommas (insideQuotes ahead) field := by
  induction field generalizing ahead pieces with
  | nil => exact isCut_nil_iff
  | cons c rest ih =>
      -- the next character ends the first piece or belongs to it
      by_cases separator : c = ',' ∧ Even (ahead.count '"')
      · obtain ⟨rfl, outside⟩ := separator
        have behind : insideQuotes (ahead ++ [',']) = false := by
          rw [insideQuotes_append_singleton]
          exact insideQuotes_eq_false_iff.mpr outside
        simp only [isCut_separator_iff outside, ih, behind, exists_eq_right]
        rw [insideQuotes_eq_false_iff.mpr outside, splitAtCommas_separator]
      · rw [isCut_character_iff separator]
        simp only [ih, insideQuotes_append_singleton]
        rw [← insideQuotes_eq_false_iff] at separator
        obtain ⟨first, later, cut, here⟩ := splitAtCommas_character separator rest
        rw [cut, here]
        constructor
        · rintro ⟨piece, others, rfl, same⟩
          cases same
          rfl
        · rintro rfl
          exact ⟨first, later, rfl, rfl⟩

/-! ### The address of a piece -/

/-- The first character parts a text only if there is no later place that does. -/
theorem splitAtLast?_cons (separator c : Char) (rest : List Char) :
    splitAtLast? separator (c :: rest) =
      ((splitAtLast? separator rest).map fun parts => (c :: parts.1, parts.2)).or
        (if c = separator then some ([], rest) else none) := by
  rw [splitAtLast?]
  cases splitAtLast? separator rest <;> rfl

/-- A text cannot be parted at a character that it does not hold. -/
theorem splitAtLast?_eq_none_iff : splitAtLast? c text = none ↔ c ∉ text := by
  induction text with
  | nil => exact iff_of_true rfl List.not_mem_nil
  | cons first rest ih =>
      rw [splitAtLast?_cons, Option.or_eq_none_iff, Option.map_eq_none_iff, ih, List.mem_cons]
      by_cases same : first = c
      · simp [same]
      · simp [same, Ne.symm same]

/-- **A text is parted at the last place where the character stands.** -/
theorem splitAtLast?_eq_some_iff : splitAtLast? c text = some (before, after) ↔
    text = before ++ c :: after ∧ c ∉ after := by
  constructor
  · intro parted
    induction text generalizing before with
    | nil => cases parted
    | cons first rest ih =>
        rw [splitAtLast?_cons, Option.or_eq_some_iff, Option.map_eq_some_iff,
          Option.map_eq_none_iff, splitAtLast?_eq_none_iff, Option.ite_none_right_eq_some] at parted
        rcases parted with ⟨⟨behind, _⟩, later, same⟩ | ⟨absent, rfl, here⟩
        · cases same
          exact ⟨congrArg (first :: ·) (ih later).1, (ih later).2⟩
        · cases here
          exact ⟨rfl, absent⟩
  · rintro ⟨rfl, absent⟩
    induction before with
    | nil =>
        have noLater := splitAtLast?_eq_none_iff.mpr absent
        rw [List.nil_append, splitAtLast?_cons, noLater, if_pos rfl]
        rfl
    | cons first before ih =>
        rw [List.cons_append, splitAtLast?_cons, ih]
        rfl

/-- `inside` is the text between the last `<` and the last `>` of the mailbox, in this order. -/
def Bracketed (mailbox inside : List Char) : Prop :=
  ∃ before after, mailbox = before ++ '<' :: (inside ++ '>' :: after) ∧
    '<' ∉ inside ++ '>' :: after ∧ '>' ∉ after

/-- The text in the last brackets is found if there is one, and nothing else is. -/
theorem bracketed?_eq_some_iff : bracketed? text = some inside ↔ Bracketed text inside := by
  constructor
  · intro found
    obtain ⟨⟨before, behind⟩, atOpen, found⟩ := Option.bind_eq_some_iff.mp found
    obtain ⟨⟨within, after⟩, atClose, same⟩ := Option.bind_eq_some_iff.mp found
    cases same
    obtain ⟨rfl, noOpen⟩ := splitAtLast?_eq_some_iff.mp atOpen
    obtain ⟨rfl, noClose⟩ := splitAtLast?_eq_some_iff.mp atClose
    exact ⟨before, after, rfl, noOpen, noClose⟩
  · rintro ⟨before, after, rfl, noOpen, noClose⟩
    refine Option.bind_eq_some_iff.mpr ⟨(before, inside ++ '>' :: after), ?_, ?_⟩
    · exact splitAtLast?_eq_some_iff.mpr ⟨rfl, noOpen⟩
    · refine Option.bind_eq_some_iff.mpr ⟨(inside, after), ?_, rfl⟩
      exact splitAtLast?_eq_some_iff.mpr ⟨rfl, noClose⟩

/-- The text in which a piece names its address: what stands in brackets, or else all of it. -/
inductive Names (piece : List Char) : List Char → Prop
  | bracketed {inside : List Char} (brackets : Bracketed (Text.trim piece) inside) :
      Names piece (Text.trim inside)
  | whole (noBrackets : ∀ inside, ¬ Bracketed (Text.trim piece) inside) :
      Names piece (Text.trim piece)

/-- A text that is no address: nothing at all, or the label of a group. -/
def IsNoAddress (text : List Char) : Prop :=
  text = [] ∨ (text.getLast? = some ';' ∧ '@' ∉ text)

/-- The addresses that a piece yields, at most one. -/
inductive Yields (piece : List Char) : List (List Char) → Prop
  | address {text : List Char} (names : Names piece text) (isAddress : ¬ IsNoAddress text) :
      Yields piece [text]
  | nothing {text : List Char} (names : Names piece text) (noAddress : IsNoAddress text) :
      Yields piece []

/-- A piece names its address in one text only. -/
theorem names_iff : Names piece text ↔
    text = ((bracketed? (Text.trim piece)).map Text.trim).getD (Text.trim piece) := by
  constructor
  · rintro (brackets | noBrackets)
    · rw [bracketed?_eq_some_iff.mpr brackets]
      rfl
    · have none : bracketed? (Text.trim piece) = none := by
        rw [Option.eq_none_iff_forall_not_mem]
        exact fun inside found => noBrackets inside (bracketed?_eq_some_iff.mp found)
      rw [none]
      rfl
  · rintro rfl
    cases found : bracketed? (Text.trim piece) with
    | none =>
        refine .whole fun inside brackets => ?_
        rw [← bracketed?_eq_some_iff, found] at brackets
        cases brackets
    | some inside => exact .bracketed (bracketed?_eq_some_iff.mp found)

theorem isNoAddress_iff : IsNoAddress text ↔ (text.isEmpty || isGroupLabel text) = true := by
  simp [IsNoAddress, isGroupLabel]

/-- The text in which a piece names its address is taken unless it is no address. -/
theorem addressOf?_of_names (names : Names piece text) :
    addressOf? piece = if text.isEmpty || isGroupLabel text then none else some text := by
  rw [names_iff.mp names]
  rfl

/-- A text that is an address is taken out of the piece that names it. -/
theorem addressOf?_of_address (names : Names piece text) (isAddress : ¬ IsNoAddress text) :
    addressOf? piece = some text := by
  rw [addressOf?_of_names names, if_neg (mt isNoAddress_iff.mpr isAddress)]

/-- **What a piece yields** is what `addressOf?` takes out of it. -/
theorem yields_iff {addresses : List (List Char)} :
    Yields piece addresses ↔ addresses = (addressOf? piece).toList := by
  constructor
  · rintro (⟨names, isAddress⟩ | ⟨names, noAddress⟩)
    · rw [addressOf?_of_address names isAddress]
      rfl
    · rw [addressOf?_of_names names, if_pos (isNoAddress_iff.mp noAddress)]
      rfl
  · rintro rfl
    have names : Names piece _ := names_iff.mpr rfl
    rw [addressOf?_of_names names]
    split
    · exact .nothing names (isNoAddress_iff.mpr ‹_›)
    · exact .address names (mt isNoAddress_iff.mp ‹_›)

/-- An address is a part of its piece, without blanks at its ends. -/
theorem addressOf?_spec (found : addressOf? piece = some text) :
    text ≠ [] ∧ Text.Bare text ∧ text <:+: piece := by
  have yields : Yields piece [text] := yields_iff.mpr (by rw [found]; rfl)
  cases yields with
  | address names isAddress =>
      refine ⟨fun empty => isAddress (.inl empty), ?_⟩
      cases names with
      | whole => exact ⟨Text.bare_trim _, Text.trim_isInfix _⟩
      | @bracketed inside brackets =>
          obtain ⟨before, after, mailbox, -, -⟩ := brackets
          have within : inside <:+: Text.trim piece :=
            ⟨before ++ ['<'], '>' :: after, by simp [mailbox]⟩
          exact ⟨Text.bare_trim _,
            (Text.trim_isInfix _).trans (within.trans (Text.trim_isInfix _))⟩

/-! ### The addresses of a field -/

/-- Every piece is a part of the row that it stands in. -/
theorem infix_intercalate (present : piece ∈ pieces) : piece <:+: [','].intercalate pieces := by
  induction pieces with
  | nil => cases present
  | cons first others ih =>
      cases others with
      | nil =>
          refine ⟨[], [], ?_⟩
          rw [List.nil_append, List.append_nil, List.intercalate_singleton,
            List.mem_singleton.mp present]
      | cons next others =>
          rw [List.intercalate_cons_cons]
          rcases List.mem_cons.mp present with rfl | later
          · exact ⟨[], _, (List.append_assoc _ _ _).symm⟩
          · exact List.IsInfix.trans (ih later) (List.suffix_append _ _).isInfix

/-- Every piece yields what `addressOf?` takes out of it, and nothing else. -/
theorem forall₂_yields_iff {yielded : List (List (List Char))} :
    List.Forall₂ Yields pieces yielded ↔
      yielded = pieces.map fun piece => (addressOf? piece).toList := by
  constructor
  · intro each
    induction each with
    | nil => rfl
    | cons yields _ ih => rw [yields_iff.mp yields, ih, List.map_cons]
  · rintro rfl
    rw [List.forall₂_map_right_iff, List.forall₂_same]
    exact fun _ _ => yields_iff.mpr rfl

/-- **A separator parts a field into two fields**, whose addresses are listed in a row. -/
theorem splitAddresses_append {earlier later : String}
    (outside : Even (earlier.toList.count '"')) :
    splitAddresses (earlier ++ "," ++ later) = splitAddresses earlier ++ splitAddresses later := by
  have inRow : (earlier ++ "," ++ later).toList = earlier.toList ++ ',' :: later.toList := by
    rw [String.toList_append, String.toList_append]
    exact List.append_assoc _ _ _
  have cut : splitAtCommas false (earlier.toList ++ ',' :: later.toList) =
      splitAtCommas false earlier.toList ++ splitAtCommas false later.toList :=
    splitAtCommas_append (insideQuotes_eq_false_iff.mpr outside : insideQuotes ([] ++ _) = false)
  rw [splitAddresses, inRow, cut, List.filterMap_append, List.map_append]
  rfl

/-- **The addresses of a field are those of its pieces.**  The pieces are what separators part, and
each yields its address if it holds one; a separator between two fields parts their addresses; and
all of them are parts of the field, trimmed and not empty. -/
theorem splitAddresses_laws :
    (∀ field addresses, splitAddresses field = addresses ↔
      ∃ pieces yielded, IsCut [] field.toList pieces ∧ List.Forall₂ Yields pieces yielded ∧
        addresses = yielded.flatten.map String.ofList) ∧
    (∀ earlier later : String, Even (earlier.toList.count '"') →
      splitAddresses (earlier ++ "," ++ later) =
        splitAddresses earlier ++ splitAddresses later) ∧
    ∀ field, ∀ address ∈ splitAddresses field,
      address ≠ "" ∧ Text.Bare address.toList ∧ address.toList <:+: field.toList := by
  refine ⟨fun field addresses => ?_, fun _ _ => splitAddresses_append, fun field _ listed => ?_⟩
  · have listed : splitAddresses field = ((splitAtCommas false field.toList).map
        fun piece => (addressOf? piece).toList).flatten.map String.ofList := by
      rw [splitAddresses, List.filterMap_eq_flatMap_toList, List.flatMap_def]
    constructor
    · rintro rfl
      exact ⟨_, _, isCut_iff.mpr rfl, forall₂_yields_iff.mpr rfl, listed⟩
    · rintro ⟨pieces, yielded, cut, each, rfl⟩
      rw [forall₂_yields_iff.mp each, isCut_iff.mp cut]
      exact listed
  · obtain ⟨text, found, rfl⟩ := List.mem_map.mp listed
    obtain ⟨piece, present, yielded⟩ := List.mem_filterMap.mp found
    obtain ⟨nonempty, bare, part⟩ := addressOf?_spec yielded
    have cut : IsCut [] field.toList (splitAtCommas false field.toList) := isCut_iff.mpr rfl
    rw [String.toList_ofList]
    refine ⟨?_, bare, part.trans ?_⟩
    · rwa [Ne, String.ofList_eq_empty_iff]
    · rw [cut.joined]
      exact infix_intercalate present

/-- The comma of `"Grüße, <Ω>"` separates nothing, and the double quote behind the separator, which
nothing closes, stays in the address of its piece. -/
theorem splitAddresses_laws_openQuote :
    Even ("\"Grüße, <Ω>\" <ω@example.com>".toList.count '"') ∧
      splitAddresses "\"Grüße, <Ω>\" <ω@example.com>, \"Bob, b@x" =
        ["ω@example.com", "\"Bob, b@x"] ∧
      splitAddresses ("\"Grüße, <Ω>\" <ω@example.com>" ++ "," ++ " \"Bob, b@x") =
        splitAddresses "\"Grüße, <Ω>\" <ω@example.com>" ++ splitAddresses " \"Bob, b@x" ∧
      Text.Bare "\"Bob, b@x".toList :=
  have outside : Even ("\"Grüße, <Ω>\" <ω@example.com>".toList.count '"') := by decide +kernel
  have listed : "\"Bob, b@x" ∈ splitAddresses " \"Bob, b@x" := by decide +kernel
  ⟨outside, by decide +kernel, splitAddresses_laws.2.1 _ _ outside,
    (splitAddresses_laws.2.2 _ _ listed).2.1⟩

end MailSieve.Address
