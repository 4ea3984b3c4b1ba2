import MailSieve.Proofs.AddressPieces

/-!
# Written address lists are read back

A mailbox is written as an address alone or behind a display name in angle brackets, and blanks
around it count for nothing.  A list of mailboxes written between commas is read back as the list of
their addresses: each mailbox closes the quotes that it opens, so the comma behind it separates, and
the last brackets in it are those of its address, whatever its display name holds.

* `Unparted` says that a text closes its quotes and holds no separator.  Plain texts and quoted
  texts are unparted, and so is one behind the other.
* `PlainAddress`, `DisplayName` and `Mailbox` carry what makes them fit to be written.
* `Mailbox.WrittenAs.splitAddresses_eq` reads one mailbox back, and `addressLists_roundTrip` a list
  of them.
-/

namespace MailSieve.Address

variable {text piece before after first second : List Char}

/-! ### Texts without separators -/

/-- A text that closes its double quotes and has all its commas between them. -/
structure Unparted (text : List Char) : Prop where
  closed : Even (text.count '"')
  quoted : ∀ before after, text = before ++ ',' :: after → ¬ Even (before.count '"')

namespace Unparted

/-- A text without double quotes and commas is unparted. -/
theorem of_plain (noQuote : '"' ∉ text) (noComma : ',' ∉ text) : Unparted text where
  closed := by
    rw [List.count_eq_zero.mpr noQuote]
    exact Even.zero
  quoted before after split := absurd (by simp [split]) noComma

/-- Between double quotes commas separate nothing. -/
theorem of_quoted (noQuote : '"' ∉ text) : Unparted ('"' :: (text ++ ['"'])) where
  closed := by
    rw [List.count_cons_self, List.count_append, List.count_singleton_self,
      List.count_eq_zero.mpr noQuote]
    exact ⟨1, rfl⟩
  quoted before after split := by
    cases before with
    | nil => cases split
    | cons first within =>
        obtain ⟨rfl, behind⟩ := List.cons_eq_cons.mp split
        rcases List.append_eq_append_iff.mp behind with ⟨tail, -, atEnd⟩ | ⟨tail, rfl, -⟩
        · -- the comma would stand behind the text, where the closing quote is alone
          have commaIsQuote : ',' ∈ ['"'] := atEnd ▸ List.mem_append_right tail List.mem_cons_self
          exact absurd commaIsQuote (by decide)
        · have noQuoteWithin : '"' ∉ within := mt (List.mem_append_left tail) noQuote
          rw [List.count_cons_self, List.count_eq_zero.mpr noQuoteWithin]
          exact Nat.not_even_one

/-- A text behind another is unparted if both are. -/
protected theorem append (earlier : Unparted first) (later : Unparted second) :
    Unparted (first ++ second) where
  closed := by
    rw [List.count_append]
    exact earlier.closed.add later.closed
  quoted before after split := by
    rcases List.append_eq_append_iff.mp split with ⟨within, rfl, behind⟩ | ⟨tail, rfl, behind⟩
    · rw [List.count_append, Nat.even_add, iff_true_left earlier.closed]
      exact later.quoted within after behind
    · cases tail with
      | nil => exact absurd Even.zero (later.quoted [] after behind.symm)
      | cons c tail =>
          obtain ⟨rfl, -⟩ := List.cons_eq_cons.mp behind
          exact earlier.quoted before tail rfl

/-- An unparted text is a single piece. -/
theorem splitAtCommas_eq (unparted : Unparted text) : splitAtCommas false text = [text] := by
  have cut : IsCut [] text [text] := {
    ne_nil := List.cons_ne_nil _ _
    joined := List.intercalate_singleton.symm
    joint_iff := fun before after split =>
      iff_of_false (unparted.quoted before after split) not_joint_singleton }
  exact (isCut_iff.mp cut).symm

end Unparted

/-! ### Reading one mailbox -/

/-- A text without brackets, between blanks, is the address of its piece. -/
theorem addressOf?_of_plain (noOpen : '<' ∉ text) (bare : Text.Bare text)
    (isAddress : ¬ IsNoAddress text) (blanksBefore : Text.Blanks before)
    (blanksAfter : Text.Blanks after) : addressOf? (before ++ (text ++ after)) = some text := by
  have trimmed : Text.trim (before ++ (text ++ after)) = text :=
    Text.trim_eq_iff.mpr ⟨bare, before, after, blanksBefore, blanksAfter, rfl⟩
  refine addressOf?_of_address ?_ isAddress
  have names : Names (before ++ (text ++ after)) (Text.trim (before ++ (text ++ after))) := by
    refine .whole fun inside brackets => ?_
    obtain ⟨ahead, behind, mailbox, -⟩ := brackets
    rw [trimmed] at mailbox
    exact noOpen (by simp [mailbox])
  rwa [trimmed] at names

/-- Blanks around a mailbox that ends with a bracket are taken off up to its label. -/
theorem trim_bracketed (label text : List Char) (blanks : Text.Blanks after) :
    Text.trim (label ++ '<' :: (text ++ '>' :: after)) =
      Text.trimStart label ++ '<' :: (text ++ ['>']) := by
  obtain ⟨before, blanksBefore, split, head⟩ := Text.exists_trimStart label
  refine Text.trim_eq_iff.mpr ⟨⟨?_, ?_⟩, before, after, blanksBefore, blanks, ?_⟩
  · intro c first
    rw [List.head?_append] at first
    cases start : (Text.trimStart label).head? with
    | none =>
        rw [start] at first
        cases first
        decide
    | some other =>
        rw [start] at first
        cases first
        exact head c start
  · intro c last
    rw [← List.cons_append, ← List.append_assoc, List.getLast?_concat] at last
    cases last
    decide
  · simp only [List.append_assoc, List.cons_append, List.nil_append]
    rw [← List.append_assoc, ← split]

/-- The text in the brackets at the end of a mailbox is its address, whatever label it has. -/
theorem addressOf?_of_bracketed (label : List Char) (noOpen : '<' ∉ text) (bare : Text.Bare text)
    (isAddress : ¬ IsNoAddress text) (blanks : Text.Blanks after) :
    addressOf? (label ++ '<' :: (text ++ '>' :: after)) = some text := by
  refine addressOf?_of_address ?_ isAddress
  have brackets : Bracketed (Text.trim (label ++ '<' :: (text ++ '>' :: after))) text := by
    refine ⟨Text.trimStart label, [], trim_bracketed label text blanks, ?_, List.not_mem_nil⟩
    simp [noOpen]
  have names := Names.bracketed brackets
  rwa [Text.trim_eq_self bare] at names

/-! ### Mailboxes -/

/-- An address that can be written as it is: nothing in it separates, quotes or closes a bracket, no
blanks are taken off it, and it is not taken for the label of a group. -/
structure PlainAddress where
  text : String
  ne_empty : text ≠ ""
  bare : Text.Bare text.toList
  unmarked : ∀ c ∈ text.toList, c ∉ [',', '"', '<', '>']
  noLabel : '@' ∈ text.toList ∨ text.toList.getLast? ≠ some ';'

/-- A display name that can be written before an address in brackets: as it is, or between double
quotes. -/
inductive DisplayName
  | plain (name : String) (noQuote : '"' ∉ name.toList) (noComma : ',' ∉ name.toList)
  | quoted (name : String) (noQuote : '"' ∉ name.toList)

/-- The display name as it is written. -/
def DisplayName.written : DisplayName → String
  | .plain name _ _ => name
  | .quoted name _ => "\"" ++ name ++ "\""

/-- An address alone or behind a display name. -/
structure Mailbox where
  name? : Option DisplayName
  address : PlainAddress

/-- The mailbox as it is written. -/
def Mailbox.written : Mailbox → String
  | ⟨none, address⟩ => address.text
  | ⟨some name, address⟩ => name.written ++ " <" ++ address.text ++ ">"

/-- The text is the mailbox with any blanks around it. -/
def Mailbox.WrittenAs (mailbox : Mailbox) (text : String) : Prop :=
  ∃ before after : String, Text.Blanks before.toList ∧ Text.Blanks after.toList ∧
    text = before ++ mailbox.written ++ after

/-- A plain address is neither empty nor the label of a group. -/
theorem PlainAddress.isAddress (address : PlainAddress) : ¬ IsNoAddress address.text.toList := by
  rintro (empty | ⟨semicolon, noAt⟩)
  · exact address.ne_empty (String.toList_eq_nil_iff.mp empty)
  · exact address.noLabel.elim noAt fun other => other semicolon

/-- A plain address holds neither quotes nor commas, so nothing separates it. -/
theorem PlainAddress.unparted (address : PlainAddress) : Unparted address.text.toList :=
  .of_plain (fun present => address.unmarked _ present (by decide))
    fun present => address.unmarked _ present (by decide)

theorem PlainAddress.noOpen (address : PlainAddress) : '<' ∉ address.text.toList :=
  fun present => address.unmarked _ present (by decide)

/-- Blanks are unparted, since neither a quote nor a comma is blank. -/
theorem Unparted.of_blanks (blanks : Text.Blanks text) : Unparted text :=
  .of_plain (fun present => nomatch blanks _ present) fun present => nomatch blanks _ present

/-- A display name is unparted: without quotes it has no comma, and else quotes stand around it. -/
theorem DisplayName.unparted (name : DisplayName) : Unparted name.written.toList := by
  cases name with
  | plain name noQuote noComma => exact .of_plain noQuote noComma
  | quoted name noQuote =>
      rw [written, String.toList_append, String.toList_append]
      exact .of_quoted noQuote

/-- A mailbox is unparted, since its display name and its address are. -/
theorem Mailbox.unparted (mailbox : Mailbox) : Unparted mailbox.written.toList := by
  obtain ⟨_ | name, address⟩ := mailbox
  · exact address.unparted
  · simp only [written, String.toList_append]
    have bracket : Unparted " <".toList := .of_plain (by decide) (by decide)
    have closing : Unparted ">".toList := .of_plain (by decide) (by decide)
    exact ((name.unparted.append bracket).append address.unparted).append closing

theorem Mailbox.WrittenAs.unparted {mailbox : Mailbox} {text : String}
    (written : mailbox.WrittenAs text) : Unparted text.toList := by
  obtain ⟨before, after, blanksBefore, blanksAfter, rfl⟩ := written
  simp only [String.toList_append]
  exact ((Unparted.of_blanks blanksBefore).append mailbox.unparted).append (.of_blanks blanksAfter)

/-- **A mailbox is read back as its address.** -/
theorem Mailbox.WrittenAs.splitAddresses_eq {mailbox : Mailbox} {text : String}
    (written : mailbox.WrittenAs text) : splitAddresses text = [mailbox.address.text] := by
  have found : addressOf? text.toList = some mailbox.address.text.toList := by
    obtain ⟨before, after, blanksBefore, blanksAfter, rfl⟩ := written
    obtain ⟨_ | name, address⟩ := mailbox
    · simp only [Mailbox.written, String.toList_append, List.append_assoc]
      exact addressOf?_of_plain address.noOpen address.bare address.isAddress blanksBefore
        blanksAfter
    · have label : (before ++ Mailbox.written ⟨some name, address⟩ ++ after).toList =
          (before ++ name.written ++ " ").toList ++
            '<' :: (address.text.toList ++ '>' :: after.toList) := by
        simp [Mailbox.written, String.toList_append]
      rw [label]
      exact addressOf?_of_bracketed _ address.noOpen address.bare address.isAddress blanksAfter
  rw [splitAddresses, written.unparted.splitAtCommas_eq, List.filterMap_cons_some found,
    List.filterMap_nil, List.map_singleton, String.ofList_toList]

/-! ### Reading a list -/

/-- **Written mailboxes between commas are read back as their addresses.** -/
theorem splitAddresses_written {mailboxes : List Mailbox} {texts : List String}
    (written : List.Forall₂ Mailbox.WrittenAs mailboxes texts) :
    splitAddresses (",".intercalate texts) = mailboxes.map fun mailbox => mailbox.address.text := by
  induction written with
  | nil => rfl
  | @cons mailbox text mailboxes texts one others ih =>
      cases others with
      | nil => rw [String.intercalate_singleton, one.splitAddresses_eq, List.map_singleton]
      | cons next others =>
          rw [String.intercalate_cons_cons, splitAddresses_append one.unparted.closed,
            one.splitAddresses_eq, ih]
          rfl

/-- **The parts of an address with `@` are the address**, and it is parted at the last one. -/
theorem addressPart_append {address : String} (hasAt : '@' ∈ address.toList) :
    addressPart .localpart address ++ "@" ++ addressPart .domain address = address ∧
      '@' ∉ (addressPart .domain address).toList := by
  obtain ⟨⟨before, behind⟩, parted⟩ := Option.ne_none_iff_exists'.mp
    fun none => splitAtLast?_eq_none_iff.mp none hasAt
  obtain ⟨whole, absent⟩ := splitAtLast?_eq_some_iff.mp parted
  simp only [addressPart, parted]
  refine ⟨String.toList_inj.mp ?_, by rwa [String.toList_ofList]⟩
  simp [whole]

/-- **Written address lists are read back.** -/
theorem addressLists_roundTrip :
    (∀ (mailboxes : List Mailbox) (texts : List String),
      List.Forall₂ Mailbox.WrittenAs mailboxes texts →
        splitAddresses (",".intercalate texts) =
          mailboxes.map fun mailbox => mailbox.address.text) ∧
    ∀ address : String, '@' ∈ address.toList →
      addressPart .localpart address ++ "@" ++ addressPart .domain address = address ∧
        '@' ∉ (addressPart .domain address).toList :=
  ⟨fun _ _ => splitAddresses_written, fun _ => addressPart_append⟩

/-- An address with a letter beyond ASCII in its domain. -/
def sampleAddress : PlainAddress where
  text := "jane@bücher.example"
  ne_empty := by decide +kernel
  bare := by decide +kernel
  unmarked := by simp
  noLabel := .inl (by decide +kernel)

/-- A comma, brackets and letters beyond ASCII between quotes change nothing for the mailbox, nor
for the one behind it. -/
theorem addressLists_roundTrip_quotedBrackets :
    List.Forall₂ Mailbox.WrittenAs
      [⟨some (.quoted "Bücher, <Neu>" (by decide)), sampleAddress⟩, ⟨none, sampleAddress⟩]
      ["\"Bücher, <Neu>\" <jane@bücher.example> ", "\tjane@bücher.example"] ∧
      splitAddresses (",".intercalate
        ["\"Bücher, <Neu>\" <jane@bücher.example> ", "\tjane@bücher.example"]) =
        ["jane@bücher.example", "jane@bücher.example"] ∧
      addressPart .localpart "jane@bücher.example" ++ "@" ++
        addressPart .domain "jane@bücher.example" = "jane@bücher.example" := by
  have written : List.Forall₂ Mailbox.WrittenAs
      [⟨some (.quoted "Bücher, <Neu>" (by decide)), sampleAddress⟩, ⟨none, sampleAddress⟩]
      ["\"Bücher, <Neu>\" <jane@bücher.example> ", "\tjane@bücher.example"] :=
    .cons ⟨"", " ", by decide +kernel, by decide +kernel, by decide +kernel⟩
      (.cons ⟨"\t", "", by decide +kernel, by decide +kernel, by decide +kernel⟩ .nil)
  exact ⟨written, addressLists_roundTrip.1 _ _ written,
    (addressLists_roundTrip.2 "jane@bücher.example" (by decide +kernel)).1⟩

end MailSieve.Address
