import MailSieve.Evaluation.State
import MailSieve.MatchArguments
import Mathlib.Data.List.Forall2

/-!
# The grammar of a match

The tests on headers take groups of tags in any order, no two of a kind, and behind them the header
names and the keys.  The reader of these arguments goes through them once and fills a place for each
kind of group.

* `TagGroup` is a group by its value, and `TagGroup.Written` says how it may be written: in any case
  of the letters of its tag, and an address part only where address parts are allowed.
* `ArgumentsOf.AsksFor` is the grammar, said without the reader, and `MatchArguments.ofGroups` what
  arguments of this form mean.
* `readMatchTags_written` is the step of the reader over one group.  `Advance` lists what it has
  gone over: the reader gets from one state to another where there is an `Advance`, and nowhere
  else.
* `matchArguments_grammar` is the result: what has the form is read as what it means, in whatever
  order the groups stand, and all else is a syntax error at the position of the node.
-/

namespace MailSieve

/-! ### Tags -/

/-- Of words that are each found under themselves, a text finds the one that it spells. -/
theorem find?_tag_eq_some_iff {ι : Type} {tag : ι → String} {all : List ι}
    (found : ∀ item, all.find? (tag · == Text.foldCase (tag item)) = some item) {text : String}
    {item : ι} :
    all.find? (tag · == Text.foldCase text) = some item ↔
      Text.sameIgnoringCase text (tag item) = true := by
  rw [Text.sameIgnoringCase_iff]
  constructor
  · intro read
    have spelt : tag item = Text.foldCase text := by simpa using List.find?_some read
    rw [spelt, Text.foldCase_foldCase]
  · intro same
    rw [same]
    exact found item

/-- A word says how to compare just if it is the tag for that, letter case aside. -/
theorem MatchType.ofTag?_eq_some_iff {text : String} {matchType : MatchType} :
    ofTag? text = some matchType ↔ Text.sameIgnoringCase text matchType.tag = true :=
  find?_tag_eq_some_iff ofTag?_tag

/-- A word says which part of an address is meant just if it is the tag for that, letter case
aside. -/
theorem AddressPart.ofTag?_eq_some_iff {text : String} {part : AddressPart} :
    ofTag? text = some part ↔ Text.sameIgnoringCase text part.tag = true :=
  find?_tag_eq_some_iff ofTag?_tag

/-! ### Groups of tags -/

/-- A group of tags before the names and keys of a match. -/
inductive TagGroup where
  | comparator (name : String)
  | matchType (wanted : MatchType)
  | addressPart (part : AddressPart)
  deriving DecidableEq

namespace TagGroup

/-- What a group is about. -/
inductive Kind where
  | comparator
  | matchType
  | addressPart
  deriving DecidableEq

/-- Which of the three sorts of group it is. -/
def kind : TagGroup → Kind
  | comparator _ => .comparator
  | matchType _ => .matchType
  | addressPart _ => .addressPart

/-- The tag of a group, in small letters. -/
def word : TagGroup → String
  | comparator _ => comparatorTag
  | matchType wanted => wanted.tag
  | addressPart part => part.tag

/-- The name of the comparator, in a group that names one. -/
def comparator? : TagGroup → Option String
  | comparator name => some name
  | _ => none

/-- How to compare, in a group that says so. -/
def matchType? : TagGroup → Option MatchType
  | matchType wanted => some wanted
  | _ => none

/-- The part of an address, in a group that says which. -/
def addressPart? : TagGroup → Option AddressPart
  | addressPart part => some part
  | _ => none

/-- The arguments as which a group may be written. -/
inductive Written (addressParts : Bool) : TagGroup → List Argument → Prop where
  /-- The name of a comparator stands behind its tag, in a list of its own. -/
  | comparator {tag name : String}
      (spelt : Text.sameIgnoringCase tag (word (.comparator name)) = true) :
      Written addressParts (.comparator name) [.tag tag, .stringList [name]]
  | matchType {tag : String} {wanted : MatchType}
      (spelt : Text.sameIgnoringCase tag (word (.matchType wanted)) = true) :
      Written addressParts (.matchType wanted) [.tag tag]
  | addressPart {tag : String} {part : AddressPart} (allowed : addressParts = true)
      (spelt : Text.sameIgnoringCase tag (word (.addressPart part)) = true) :
      Written addressParts (.addressPart part) [.tag tag]

/-- No tag spells groups of two kinds. -/
theorem kind_eq_of_spelt {tag : String} (group other : TagGroup)
    (spelt : Text.sameIgnoringCase tag group.word = true)
    (alsoSpelt : Text.sameIgnoringCase tag other.word = true) : group.kind = other.kind := by
  rw [Text.sameIgnoringCase_iff] at spelt alsoSpelt
  have same : Text.foldCase group.word = Text.foldCase other.word := spelt.symm.trans alsoSpelt
  have typeIsNoComparator (wanted : MatchType) :
      Text.foldCase wanted.tag ≠ Text.foldCase comparatorTag := by
    cases wanted <;> decide +kernel
  have partIsNoComparator (part : AddressPart) :
      Text.foldCase part.tag ≠ Text.foldCase comparatorTag := by
    cases part <;> decide +kernel
  have partIsNoType (wanted : MatchType) (part : AddressPart) :
      Text.foldCase wanted.tag ≠ Text.foldCase part.tag := by
    cases wanted <;> cases part <;> decide +kernel
  cases group <;> cases other <;> grind [word, kind]

/-- A tag that spells a group of another kind is not before the name of a comparator. -/
theorem not_comparatorTag_of_spelt {tag : String} {group : TagGroup}
    (spelt : Text.sameIgnoringCase tag group.word = true) (otherKind : group.kind ≠ .comparator) :
    ¬ Text.sameIgnoringCase tag comparatorTag = true :=
  fun isComparator => otherKind (kind_eq_of_spelt group (.comparator "") spelt isComparator)

end TagGroup

/-- What a match with these groups asks for.  Where a group is missing, its default stands. -/
def MatchArguments.ofGroups (groups : List TagGroup) (headerNames keys : List String) :
    MatchArguments where
  comparator := groups.findSome? TagGroup.comparator?
  matchType := (groups.findSome? TagGroup.matchType?).getD .is
  addressPart := (groups.findSome? TagGroup.addressPart?).getD .all
  headerNames
  keys

/-- The form of the arguments of a match: groups of tags, no two of a kind, then the header names,
then the keys, and no tests. -/
structure ArgumentsOf.AsksFor {α : Type} (arguments : ArgumentsOf α) (addressParts : Bool)
    (groups : List TagGroup) (headerNames keys : List String) : Prop where
  noTests : arguments.tests = none
  once : (groups.map TagGroup.kind).Nodup
  written : ∃ pieces, List.Forall₂ (TagGroup.Written addressParts) groups pieces ∧
    arguments.args = pieces.flatten ++ [.stringList headerNames, .stringList keys]

/-- Of groups of different kinds at most one has a value of a certain kind, wherever it stands. -/
theorem TagGroup.findSome?_eq_of_perm {β : Type} {value? : TagGroup → Option β} {kind : Kind}
    (about : ∀ group value, value? group = some value → group.kind = kind)
    {groups reordered : List TagGroup} (perm : groups.Perm reordered)
    (once : (groups.map TagGroup.kind).Nodup) :
    groups.findSome? value? = reordered.findSome? value? := by
  induction perm with
  | nil => rfl
  | cons group _ ih =>
      rw [List.findSome?_cons, List.findSome?_cons, ih (List.nodup_cons.mp once).2]
  | swap first second rest =>
      simp only [List.findSome?_cons]
      cases left : value? first with
      | none => cases value? second <;> rfl
      | some value =>
          cases right : value? second with
          | none => rfl
          | some other =>
              have same : second.kind = first.kind :=
                (about second other right).trans (about first value left).symm
              simp [same] at once
  | trans here _ ih ih' =>
      exact (ih once).trans (ih' ((here.map TagGroup.kind).nodup_iff.mp once))

/-- The order of the groups does not count. -/
theorem MatchArguments.ofGroups_eq_of_perm {groups reordered : List TagGroup}
    (perm : groups.Perm reordered) (once : (groups.map TagGroup.kind).Nodup)
    (headerNames keys : List String) :
    ofGroups groups headerNames keys = ofGroups reordered headerNames keys := by
  have comparators : ∀ group name, TagGroup.comparator? group = some name →
      group.kind = .comparator := by
    rintro ⟨⟩ _ ⟨⟩
    rfl
  have matchTypes : ∀ group wanted, TagGroup.matchType? group = some wanted →
      group.kind = .matchType := by
    rintro ⟨⟩ _ ⟨⟩
    rfl
  have addressParts : ∀ group part, TagGroup.addressPart? group = some part →
      group.kind = .addressPart := by
    rintro ⟨⟩ _ ⟨⟩
    rfl
  rw [ofGroups, ofGroups, TagGroup.findSome?_eq_of_perm comparators perm once,
    TagGroup.findSome?_eq_of_perm matchTypes perm once,
    TagGroup.findSome?_eq_of_perm addressParts perm once]

/-! ### Places for the groups -/

namespace MatchTags

variable {tags : MatchTags}

/-- Whether the place for a kind of group is still empty. -/
def IsFree (tags : MatchTags) : TagGroup.Kind → Prop
  | .comparator => tags.comparator = none
  | .matchType => tags.matchType = none
  | .addressPart => tags.addressPart = none

/-- The places after some groups; what was there before stays. -/
def filled (tags : MatchTags) (groups : List TagGroup) : MatchTags where
  comparator := tags.comparator.or (groups.findSome? TagGroup.comparator?)
  matchType := tags.matchType.or (groups.findSome? TagGroup.matchType?)
  addressPart := tags.addressPart.or (groups.findSome? TagGroup.addressPart?)

@[simp] theorem filled_nil (tags : MatchTags) : tags.filled [] = tags := by
  simp [filled]

/-- Groups fill their places one after the other. -/
theorem filled_cons (tags : MatchTags) (group : TagGroup) (groups : List TagGroup) :
    tags.filled (group :: groups) = (tags.filled [group]).filled groups := by
  rw [← List.singleton_append]
  simp only [filled, List.findSome?_append, Option.or_assoc]

/-- A group goes to the place of its kind if that is free, and the other places stay. -/
theorem filled_comparator (free : tags.IsFree .comparator) (name : String) :
    tags.filled [.comparator name] = { tags with comparator := some name } := by
  have empty : tags.comparator = none := free
  simp [filled, empty, TagGroup.comparator?, TagGroup.matchType?, TagGroup.addressPart?]

theorem filled_matchType (free : tags.IsFree .matchType) (wanted : MatchType) :
    tags.filled [.matchType wanted] = { tags with matchType := some wanted } := by
  have empty : tags.matchType = none := free
  simp [filled, empty, TagGroup.comparator?, TagGroup.matchType?, TagGroup.addressPart?]

theorem filled_addressPart (free : tags.IsFree .addressPart) (part : AddressPart) :
    tags.filled [.addressPart part] = { tags with addressPart := some part } := by
  have empty : tags.addressPart = none := free
  simp [filled, empty, TagGroup.comparator?, TagGroup.matchType?, TagGroup.addressPart?]

/-- A group takes up the place of its own kind alone. -/
theorem isFree_filled_singleton {group : TagGroup} {kind : TagGroup.Kind} :
    (tags.filled [group]).IsFree kind ↔ kind ≠ group.kind ∧ tags.IsFree kind := by
  cases group <;> cases kind <;>
    simp [filled, IsFree, TagGroup.kind, TagGroup.comparator?, TagGroup.matchType?,
      TagGroup.addressPart?]

/-- There is a place for each of the groups. -/
def TakesIn (tags : MatchTags) (groups : List TagGroup) : Prop :=
  (groups.map TagGroup.kind).Nodup ∧ ∀ group ∈ groups, tags.IsFree group.kind

theorem takesIn_nil (tags : MatchTags) : tags.TakesIn [] := by
  simp [TakesIn]

/-- Groups are taken in one after the other. -/
theorem takesIn_cons_iff {group : TagGroup} {groups : List TagGroup} :
    tags.TakesIn (group :: groups) ↔
      tags.IsFree group.kind ∧ (tags.filled [group]).TakesIn groups := by
  simp only [TakesIn, List.map_cons, List.nodup_cons, List.mem_map, List.forall_mem_cons,
    isFree_filled_singleton]
  grind

/-- All places are empty at first. -/
theorem takesIn_default_iff {groups : List TagGroup} :
    ({} : MatchTags).TakesIn groups ↔ (groups.map TagGroup.kind).Nodup := by
  refine and_iff_left fun group _ => ?_
  cases group <;> rfl

end MatchTags

/-! ### The reader -/

section Reader

variable {addressParts : Bool} {tags read : MatchTags} {group : TagGroup}
  {args rest piece : List Argument} {groups : List TagGroup}

/-- A value gets into a place, and is used there, only if the place holds none yet. -/
theorem placeOnce_bind_eq_ok_iff {α β : Type} {place : Option α} {value : α} {tag : String}
    {next : Option α → Except ShapeFault β} {result : β} :
    (placeOnce place value tag >>= next) = .ok result ↔
      place = none ∧ next (some value) = .ok result := by
  cases place with
  | none => exact (and_iff_right rfl).symm
  | some earlier => exact iff_of_false nofun nofun

/-- **One step of the reader**: it takes in a written group whose place is free. -/
theorem readMatchTags_written (written : group.Written addressParts piece)
    (free : tags.IsFree group.kind) (rest : List Argument) :
    readMatchTags addressParts tags (piece ++ rest) =
      readMatchTags addressParts (tags.filled [group]) rest := by
  cases written with
  | @comparator tag name spelt =>
      have empty : tags.comparator = none := free
      rw [MatchTags.filled_comparator free, List.cons_append, readMatchTags_comparator _ spelt,
        empty]
      rfl
  | @matchType tag wanted spelt =>
      have empty : tags.matchType = none := free
      have noComparator := TagGroup.not_comparatorTag_of_spelt spelt nofun
      rw [MatchTags.filled_matchType free, List.cons_append,
        readMatchTags_matchType _ noComparator (MatchType.ofTag?_eq_some_iff.mpr spelt), empty]
      rfl
  | @addressPart tag part allowed spelt =>
      obtain rfl := allowed
      have empty : tags.addressPart = none := free
      have noComparator := TagGroup.not_comparatorTag_of_spelt spelt nofun
      have noMatchType : MatchType.ofTag? tag = none := by
        refine Option.eq_none_iff_forall_ne_some.mpr fun wanted isWanted => ?_
        have alsoSpelt := MatchType.ofTag?_eq_some_iff.mp isWanted
        exact nomatch TagGroup.kind_eq_of_spelt _ (.matchType wanted) spelt alsoSpelt
      rw [MatchTags.filled_addressPart free, List.cons_append,
        readMatchTags_addressPart _ noComparator noMatchType
          (AddressPart.ofTag?_eq_some_iff.mpr spelt), empty]
      rfl

/-- What lies between two states of the reader: written groups, for each of which there was a
place. -/
structure Advance (addressParts : Bool) (tags read : MatchTags) (args rest : List Argument)
    (groups : List TagGroup) : Prop where
  written : ∃ pieces, List.Forall₂ (TagGroup.Written addressParts) groups pieces ∧
    args = pieces.flatten ++ rest
  takesIn : tags.TakesIn groups
  filled : read = tags.filled groups

namespace Advance

theorem refl (tags : MatchTags) (args : List Argument) :
    Advance addressParts tags tags args args [] :=
  ⟨⟨[], .nil, rfl⟩, tags.takesIn_nil, tags.filled_nil.symm⟩

/-- One group more, if it is written in front and there is a place for it. -/
theorem cons (written : group.Written addressParts piece) (free : tags.IsFree group.kind)
    (later : Advance addressParts (tags.filled [group]) read args rest groups) :
    Advance addressParts tags read (piece ++ args) rest (group :: groups) := by
  obtain ⟨⟨pieces, others, split⟩, takesIn, filled⟩ := later
  refine ⟨⟨piece :: pieces, .cons written others, ?_⟩, ?_, ?_⟩
  · rw [split, List.flatten_cons, List.append_assoc]
  · exact MatchTags.takesIn_cons_iff.mpr ⟨free, takesIn⟩
  · rw [filled, ← MatchTags.filled_cons]

/-- The reader gets over all groups for which there is a place. -/
theorem readMatchTags_eq (advance : Advance addressParts tags read args rest groups) :
    readMatchTags addressParts tags args = readMatchTags addressParts read rest := by
  obtain ⟨⟨pieces, written, rfl⟩, takesIn, rfl⟩ := advance
  induction written generalizing tags with
  | nil => rw [List.flatten_nil, List.nil_append, MatchTags.filled_nil]
  | cons here _ ih =>
      obtain ⟨free, later⟩ := MatchTags.takesIn_cons_iff.mp takesIn
      rw [List.flatten_cons, List.append_assoc, readMatchTags_written here free, ih later,
        ← MatchTags.filled_cons]

end Advance

/-- **The reader gets over nothing else.**  The induction is on its own recursion: each tag that it
accepts is the start of a group for which there is a place. -/
theorem exists_advance_of_readMatchTags
    (done : readMatchTags addressParts tags args = .ok (read, rest)) :
    ∃ groups, Advance addressParts tags read args rest groups := by
  -- along the recursion of the reader: a case that goes on has taken in one group more
  induction tags, args using readMatchTags.induct addressParts with
  | case1 tags tag isComparator name others ih =>
      rw [readMatchTags_comparator _ isComparator] at done
      obtain ⟨free, later⟩ := placeOnce_bind_eq_ok_iff.mp done
      obtain ⟨groups, advance⟩ := ih _ later
      rw [← MatchTags.filled_comparator free] at advance
      exact ⟨.comparator name :: groups, .cons (.comparator isComparator) free advance⟩
  | case2 tags tag others isComparator unnamed =>
      rw [readMatchTags_comparator _ isComparator] at done
      split at done
      · exact (unnamed _ _ rfl).elim
      · cases done
  | case3 tags tag others noComparator wanted isWanted ih =>
      rw [readMatchTags_matchType _ noComparator isWanted] at done
      obtain ⟨free, later⟩ := placeOnce_bind_eq_ok_iff.mp done
      obtain ⟨groups, advance⟩ := ih _ later
      rw [← MatchTags.filled_matchType free] at advance
      have spelt := MatchType.ofTag?_eq_some_iff.mp isWanted
      exact ⟨.matchType wanted :: groups, .cons (.matchType spelt) free advance⟩
  | case4 tags tag others noComparator part allowed isPart noMatchType ih =>
      obtain rfl := allowed
      rw [readMatchTags_addressPart _ noComparator noMatchType isPart] at done
      obtain ⟨free, later⟩ := placeOnce_bind_eq_ok_iff.mp done
      obtain ⟨groups, advance⟩ := ih _ later
      rw [← MatchTags.filled_addressPart free] at advance
      have spelt := AddressPart.ofTag?_eq_some_iff.mp isPart
      exact ⟨.addressPart part :: groups, .cons (.addressPart rfl spelt) free advance⟩
  | case5 tags tag others noComparator noMatchType noPart =>
      have unread : MatchType.ofTag? tag = none := Option.eq_none_iff_forall_ne_some.mpr noMatchType
      rw [readMatchTags_unexpected _ noComparator unread fun part => noPart part unread] at done
      cases done
  | case6 tags args untagged =>
      rw [readMatchTags_untagged untagged] at done
      cases done
      exact ⟨[], .refl _ _⟩

end Reader

/-! ### The arguments as a whole -/

section Whole

variable {α : Type} {addressParts : Bool} {arguments : ArgumentsOf α} {wanted : MatchArguments}

/-- Behind the tags there must be two lists, and nothing else. -/
theorem ArgumentsOf.exists_of_matchArguments
    (read : arguments.matchArguments addressParts = .ok wanted) :
    arguments.tests = none ∧ ∃ tags headerNames keys,
      readMatchTags addressParts {} arguments.args =
          .ok (tags, [.stringList headerNames, .stringList keys]) ∧
        wanted = ⟨tags.comparator, tags.matchType.getD .is, tags.addressPart.getD .all, headerNames,
          keys⟩ := by
  obtain ⟨args, _ | tests⟩ := arguments
  · refine ⟨rfl, ?_⟩
    rw [matchArguments] at read
    cases done : readMatchTags addressParts {} args with
    | error fault =>
        rw [done] at read
        cases read
    | ok ended =>
        obtain ⟨tags, rest⟩ := ended
        rw [done] at read
        simp only [noTests, bind, Except.bind, Option.isSome_none, Bool.false_eq_true, if_false]
          at read
        split at read
        · cases read
          exact ⟨tags, _, _, rfl, rfl⟩
        · cases read
  · cases read

/-- **Arguments are read where they have the form of a match**, as what their groups mean. -/
theorem ArgumentsOf.matchArguments_eq_ok_iff :
    arguments.matchArguments addressParts = .ok wanted ↔
      ∃ groups headerNames keys, arguments.AsksFor addressParts groups headerNames keys ∧
        wanted = .ofGroups groups headerNames keys := by
  constructor
  · intro read
    obtain ⟨noTests, tags, headerNames, keys, done, rfl⟩ := exists_of_matchArguments read
    obtain ⟨groups, written, takesIn, rfl⟩ := exists_advance_of_readMatchTags done
    have once := MatchTags.takesIn_default_iff.mp takesIn
    exact ⟨groups, headerNames, keys, ⟨noTests, once, written⟩, rfl⟩
  · obtain ⟨args, tests⟩ := arguments
    rintro ⟨groups, headerNames, keys, ⟨rfl, once, written⟩, rfl⟩
    have advance : Advance addressParts {} (MatchTags.filled {} groups) args
        [.stringList headerNames, .stringList keys] groups :=
      ⟨written, MatchTags.takesIn_default_iff.mpr once, rfl⟩
    simp only [matchArguments, noTests, advance.readMatchTags_eq]
    rfl

/-- **The arguments of a match are read exactly where they have its form**, and as what their groups
mean: the value of each group, and the default where there is none.  So the order of the groups does
not count.  All other arguments are a syntax error at the position of the node that has them. -/
theorem matchArguments_grammar (addressParts : Bool) (arguments : ArgumentsOf α) (state : State) :
    let parsed := Run.ofShape (arguments.matchArguments addressParts) state
    (∀ wanted after, parsed = .ok wanted after ↔
      after = state ∧ ∃ groups headerNames keys,
        arguments.AsksFor addressParts groups headerNames keys ∧
          wanted = .ofGroups groups headerNames keys) ∧
    ((¬ ∃ groups headerNames keys, arguments.AsksFor addressParts groups headerNames keys) →
      ∃ fault, parsed = .error ⟨.shape fault, state.coordinate⟩ state) ∧
    ∀ groups headerNames keys, arguments.AsksFor addressParts groups headerNames keys →
      ∀ (reordered : List TagGroup) (other : ArgumentsOf α), groups.Perm reordered →
        other.AsksFor addressParts reordered headerNames keys →
          Run.ofShape (other.matchArguments addressParts) state = parsed := by
  intro parsed
  refine ⟨fun wanted after => ?_, fun formless => ?_, ?_⟩
  · rw [← ArgumentsOf.matchArguments_eq_ok_iff]
    show Run.ofShape (arguments.matchArguments addressParts) state = _ ↔ _
    cases arguments.matchArguments addressParts with
    | error fault => simp
    | ok found => simp [eq_comm, and_comm]
  · show ∃ fault, Run.ofShape (arguments.matchArguments addressParts) state = _
    cases read : arguments.matchArguments addressParts with
    | error fault => exact ⟨fault, rfl⟩
    | ok wanted =>
        obtain ⟨groups, headerNames, keys, form, -⟩ := ArgumentsOf.matchArguments_eq_ok_iff.mp read
        exact absurd ⟨groups, headerNames, keys, form⟩ formless
  · intro groups headerNames keys form reordered other perm otherForm
    have read := ArgumentsOf.matchArguments_eq_ok_iff.mpr ⟨_, _, _, form, rfl⟩
    have reread := ArgumentsOf.matchArguments_eq_ok_iff.mpr ⟨_, _, _, otherForm, rfl⟩
    show _ = Run.ofShape (arguments.matchArguments addressParts) state
    rw [read, reread, MatchArguments.ofGroups_eq_of_perm perm form.once]

end Whole

/-- The same match with its three groups the other way round, and their tags in capitals.  A test
that takes no address part refuses the match. -/
theorem matchArguments_grammar_reversed :
    let lists : List Argument := [.stringList ["From", "Sender"], .stringList ["example"]]
    let quiet : Arguments :=
      { args := [.tag ":domain", .tag ":comparator", .stringList ["i;ascii-casemap"],
          .tag ":contains"] ++ lists }
    let shouted : Arguments :=
      { args := [.tag ":CONTAINS", .tag ":COMPARATOR", .stringList ["i;ascii-casemap"],
          .tag ":DOMAIN"] ++ lists }
    let state : State := { coordinate := ⟨3, 7⟩ }
    Run.ofShape (quiet.matchArguments true) state =
        .ok ⟨some "i;ascii-casemap", .contains, .domain, ["From", "Sender"], ["example"]⟩ state ∧
      Run.ofShape (shouted.matchArguments true) state =
        Run.ofShape (quiet.matchArguments true) state ∧
      ∃ fault, Run.ofShape (quiet.matchArguments false) state =
        .error ⟨.shape fault, ⟨3, 7⟩⟩ state := by
  intro lists quiet shouted state
  let groups : List TagGroup :=
    [.addressPart .domain, .comparator "i;ascii-casemap", .matchType .contains]
  let reversed : List TagGroup :=
    [.matchType .contains, .comparator "i;ascii-casemap", .addressPart .domain]
  have form : quiet.AsksFor true groups ["From", "Sender"] ["example"] := by
    refine ⟨rfl, by decide, [[.tag ":domain"],
      [.tag ":comparator", .stringList ["i;ascii-casemap"]], [.tag ":contains"]],
      .cons (.addressPart rfl ?_) (.cons (.comparator ?_) (.cons (.matchType ?_) .nil)), rfl⟩ <;>
    decide +kernel
  have otherForm : shouted.AsksFor true reversed ["From", "Sender"] ["example"] := by
    refine ⟨rfl, by decide, [[.tag ":CONTAINS"],
      [.tag ":COMPARATOR", .stringList ["i;ascii-casemap"]], [.tag ":DOMAIN"]],
      .cons (.matchType ?_) (.cons (.comparator ?_) (.cons (.addressPart rfl ?_) .nil)), rfl⟩ <;>
    exact (Text.sameIgnoringCase_iff_map _ _).mpr (by decide +kernel)
  obtain ⟨reads, -, inAnyOrder⟩ := matchArguments_grammar true quiet state
  obtain ⟨readsWithoutParts, refuses, -⟩ := matchArguments_grammar false quiet state
  refine ⟨?_, ?_, refuses ?_⟩
  · exact (reads (.ofGroups groups ["From", "Sender"] ["example"]) state).mpr
      ⟨rfl, _, _, _, form, rfl⟩
  · exact inAnyOrder _ _ _ form reversed shouted groups.reverse_perm.symm otherForm
  · rintro ⟨_, _, _, formed⟩
    have unexpected : quiet.matchArguments false = .error (.unexpectedTag ":domain") := by
      decide +kernel
    have read := (readsWithoutParts _ _).mpr ⟨rfl, _, _, _, formed, rfl⟩
    rw [unexpected] at read
    cases read

end MailSieve
