import MailSieve.Shape

/-!
# Arguments of a match

The tests on headers take tags in any order, each kind at most once, and behind them a list of
header names and a list of keys:

    [:comparator <name>] [<match type>] [<address part>] <header names> <keys>

An address part is a tag only to tests that compare addresses.

* `MatchTags` holds the tags read so far, and fills each of its places once.
* `readMatchTags` reads tags until an argument is no tag.
* `ArgumentsOf.matchArguments` reads the whole.
-/

namespace MailSieve

/-- The tags of a match, each perhaps absent. -/
structure MatchTags where
  comparator : Option String := none
  matchType : Option MatchType := none
  addressPart : Option AddressPart := none
  deriving DecidableEq

/-- A value in a place that holds none yet; `tag` is to blame if it does. -/
def placeOnce {α : Type} (place : Option α) (value : α) (tag : String) :
    Except ShapeFault (Option α) :=
  match place with
  | none => .ok (some value)
  | some _ => .error (.repeatedTag tag)

/-- The tag before the name of a comparator. -/
def comparatorTag : String := ":comparator"

/-- Read tags until an argument is no tag. -/
def readMatchTags (addressParts : Bool) :
    MatchTags → List Argument → Except ShapeFault (MatchTags × List Argument)
  | tags, .tag tag :: rest =>
      if Text.sameIgnoringCase tag comparatorTag then
        match rest with
        | .stringList [name] :: rest => do
            let comparator ← placeOnce tags.comparator name tag
            readMatchTags addressParts { tags with comparator } rest
        | _ => .error .comparatorNameExpected
      else
        match MatchType.ofTag? tag, AddressPart.ofTag? tag, addressParts with
        | some matchType, _, _ => do
            let matchType ← placeOnce tags.matchType matchType tag
            readMatchTags addressParts { tags with matchType } rest
        | none, some part, true => do
            let addressPart ← placeOnce tags.addressPart part tag
            readMatchTags addressParts { tags with addressPart } rest
        | _, _, _ => .error (.unexpectedTag tag)
  | tags, args => .ok (tags, args)

section Equations

variable {addressParts : Bool} {tags : MatchTags} {tag : String} (rest : List Argument)

/-- The tag for a comparator takes the next argument along, which must be a single string, and may
come once. -/
theorem readMatchTags_comparator (isComparator : Text.sameIgnoringCase tag comparatorTag = true) :
    readMatchTags addressParts tags (.tag tag :: rest) =
      match rest with
      | .stringList [name] :: rest => do
          let comparator ← placeOnce tags.comparator name tag
          readMatchTags addressParts { tags with comparator } rest
      | _ => .error .comparatorNameExpected := by
  rw [readMatchTags.eq_def]
  exact if_pos isComparator

/-- A tag that says how to compare stands by itself and may come once. -/
theorem readMatchTags_matchType {matchType : MatchType}
    (noComparator : ¬ Text.sameIgnoringCase tag comparatorTag = true)
    (read : MatchType.ofTag? tag = some matchType) :
    readMatchTags addressParts tags (.tag tag :: rest) = (do
      let matchType ← placeOnce tags.matchType matchType tag
      readMatchTags addressParts { tags with matchType } rest) := by
  rw [readMatchTags.eq_def]
  simp only [if_neg noComparator, read]

/-- Where parts of addresses are allowed, a tag for one stands by itself and may come once. -/
theorem readMatchTags_addressPart {part : AddressPart}
    (noComparator : ¬ Text.sameIgnoringCase tag comparatorTag = true)
    (noMatchType : MatchType.ofTag? tag = none) (read : AddressPart.ofTag? tag = some part) :
    readMatchTags true tags (.tag tag :: rest) = (do
      let addressPart ← placeOnce tags.addressPart part tag
      readMatchTags true { tags with addressPart } rest) := by
  rw [readMatchTags.eq_def]
  simp only [if_neg noComparator, noMatchType, read]

/-- A tag of no group is refused, and so is one for a part of an address where there are no
addresses. -/
theorem readMatchTags_unexpected
    (noComparator : ¬ Text.sameIgnoringCase tag comparatorTag = true)
    (noMatchType : MatchType.ofTag? tag = none)
    (noPart : ∀ part, AddressPart.ofTag? tag = some part → addressParts ≠ true) :
    readMatchTags addressParts tags (.tag tag :: rest) = .error (.unexpectedTag tag) := by
  rw [readMatchTags.eq_def]
  simp only [if_neg noComparator, noMatchType]
  cases read : AddressPart.ofTag? tag with
  | none => rfl
  | some part =>
      obtain rfl := Bool.eq_false_iff.mpr (noPart part read)
      rfl

/-- The tags end at the first argument that is none. -/
theorem readMatchTags_untagged {args : List Argument}
    (untagged : ∀ tag rest, args ≠ .tag tag :: rest) :
    readMatchTags addressParts tags args = .ok (tags, args) := by
  rcases args with _ | ⟨argument, rest⟩
  · rfl
  · cases argument with
    | stringList | number => rfl
    | tag text => exact absurd rfl (untagged text rest)

end Equations

/-- What a test on headers compares, and how. -/
structure MatchArguments where
  /-- The comparator named, if one is. -/
  comparator : Option String
  matchType : MatchType
  addressPart : AddressPart
  headerNames : List String
  keys : List String
  deriving DecidableEq

/-- The arguments of a test on headers; tags that are absent take their defaults. -/
def ArgumentsOf.matchArguments {α : Type} (addressParts : Bool) (arguments : ArgumentsOf α) :
    Except ShapeFault MatchArguments := do
  arguments.noTests
  let (tags, rest) ← readMatchTags addressParts {} arguments.args
  match rest with
  | [.stringList headerNames, .stringList keys] =>
      .ok {
        comparator := tags.comparator
        matchType := tags.matchType.getD default
        addressPart := tags.addressPart.getD default
        headerNames, keys }
  | _ => .error .namesAndKeysExpected

@[simp] theorem ArgumentsOf.matchArguments_map {α β : Type} (f : α → β) (addressParts : Bool)
    (arguments : ArgumentsOf α) :
    (arguments.map f).matchArguments addressParts = arguments.matchArguments addressParts := by
  simp [matchArguments]

end MailSieve
