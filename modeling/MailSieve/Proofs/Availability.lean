import MailSieve.Proofs.Accuracy
import MailSieve.Proofs.HeaderTests
import MailSieve.Proofs.OctetBoundaries
import MailSieve.Proofs.Prolog
import MailSieve.Proofs.Restriction

/-!
# What a script may require

A `require` asks the registries whether a feature is there, and nothing is made.  A name is used
elsewhere: at commands, tests and comparators, which are made under their names.  The two agree: a
`require` grants exactly the features whose use is never refused for want of a name, and the feature
it refuses is the first whose every use would be.

* `CommandFound`, `TestFound`, `ComparatorFound`: no use of the name is told that there is none.
* `Available`: one of these holds of a feature; `available_iff` decides it.
* `comparatorOfFeature?_eq_some_iff` says which features name a comparator.  The word before the
  name takes eleven octets, so a feature that has no cut there names none.
* `Verdict` is how a `require` ends, and `require_agrees` the agreement.
-/

namespace MailSieve

variable {host : Host} {name feature : String}

/-! ### Names that are registered -/

/-- A name is supported if it is registered in any case of its letters. -/
theorem Registry.supports_ofList {kind : EntryKind} {ι : Type}
    (registrations : List (String × Constructor ι)) :
    (ofList registrations : Registry kind ι).supports = fun name =>
      registrations.any fun registration =>
        name.toList.map Char.toLower == registration.1.toList.map Char.toLower := by
  funext name
  rw [supports, find?_ofList, Option.isSome_map, Bool.eq_iff_iff, List.find?_isSome,
    List.any_eq_true]
  simp only [List.mem_reverse, decide_eq_true_eq, beq_iff_eq, ← Text.toList_foldCase,
    String.toList_inj]

/-! ### Features that name a comparator -/

namespace Registries

/-- A feature names a comparator behind the word for comparators, in any case of its letters. -/
theorem comparatorOfFeature?_eq_some_iff : comparatorOfFeature? feature = some name ↔
    ∃ word, feature = word ++ name ∧ Text.foldCase word = comparatorFeature := by
  unfold comparatorOfFeature?
  constructor
  · intro named
    dsimp only at named
    split at named
    · rename_i folded
      cases named
      refine ⟨String.ofList (feature.toList.take comparatorFeature.toList.length), ?_, ?_⟩
      · rw [← String.ofList_append, List.take_append_drop, String.ofList_toList]
      · rw [← String.toList_inj, Text.toList_foldCase, String.toList_ofList, folded]
    · cases named
  · rintro ⟨word, rfl, folded⟩
    have letters : word.toList.map Char.toLower = comparatorFeature.toList := by
      rw [← Text.toList_foldCase, folded]
    have length : comparatorFeature.toList.length = word.toList.length := by
      rw [← letters, List.length_map]
    dsimp only
    rw [String.toList_append, length, List.take_left, List.drop_left, if_pos letters,
      String.ofList_toList]

/-- The word for comparators takes eleven octets in any case of its letters. -/
theorem octetCount_of_comparatorFeature {word : String}
    (folded : Text.foldCase word = comparatorFeature) : Text.octetCount word = 11 := by
  have octets : Text.octetCount (Text.foldCase word) = Text.octetCount word := by
    rw [Text.octetCount, Text.octets_foldCase, List.length_map, Text.octetCount]
  rw [← octets, folded]
  decide +kernel

end Registries

/-! ### Names that are found -/

/-- No evaluation of a command of this name reports that nothing is registered under it. -/
def CommandFound (host : Host) (name : String) : Prop :=
  ∀ command : Command, command.name = name → ∀ state error after,
    evaluateCommand host command state = .error error after →
      error.cause ≠ .notMapped .command name

/-- No evaluation of a test of this name reports that nothing is registered under it. -/
def TestFound (host : Host) (name : String) : Prop :=
  ∀ test : Test, test.name = name → ∀ state error after,
    evaluateTest host test state = .error error after → error.cause ≠ .notMapped .test name

/-- No comparison under this name fails in looking it up. -/
def ComparatorFound (host : Host) (name : String) : Prop :=
  ∀ matchType values keys state error after,
    BuiltinTest.compareAny host (some name) matchType values keys state = .error error after →
      error.kind ≠ .lookup

/-- The name of a command is found just if something is registered under it: what is missing is
blamed at the first use, and what is there never is. -/
theorem commandFound_iff :
    CommandFound host name ↔ host.registries.commands.supports name = true := by
  rw [← Bool.not_eq_false]
  constructor
  · intro found missing
    exact found { name } rfl {} _ _ (evaluateCommand_of_missing { name } {} missing) rfl
  · rintro present command rfl state error after failed blamed
    have accurate := accurate_evaluateCommand failed
    rw [blamed] at accurate
    exact present accurate

/-- The name of a test is found just if something is registered under it. -/
theorem testFound_iff : TestFound host name ↔ host.registries.tests.supports name = true := by
  rw [← Bool.not_eq_false]
  constructor
  · intro found missing
    exact found { name } rfl {} _ _ (evaluateTest_of_missing { name } {} missing) rfl
  · rintro present test rfl state error after failed blamed
    have accurate := accurate_evaluateTest failed
    rw [blamed] at accurate
    exact present accurate

/-- The name of a comparator is found just if something is registered under it. -/
theorem comparatorFound_iff :
    ComparatorFound host name ↔ host.registries.comparators.supports name = true := by
  rw [← Bool.not_eq_false]
  constructor
  · intro found missing
    exact found .is [] [] {} _ _ (compareAny_of_missing .is [] [] {} missing) rfl
  · intro present matchType values keys state error after failed
    rw [compareAny_apply, Option.getD_some] at failed
    cases made : host.registries.comparators.create name with
    | error cause =>
        rw [made] at failed
        cases failed
        rcases Registry.create_eq_error_iff.mp made with ⟨missing, rfl⟩ | ⟨reason, -, rfl⟩
        · exact absurd missing present
        · exact nofun
    | ok comparator =>
        simp only [made] at failed
        cases compared : comparator.compareAny matchType values keys with
        | ok holds => simp [compared] at failed
        | error fault =>
            simp only [compared] at failed
            cases failed
            exact nofun

/-- A feature is there to be used: as a command, as a test, or as a comparator behind its word. -/
def Available (host : Host) (feature : String) : Prop :=
  CommandFound host feature ∨ TestFound host feature ∨
    ∃ word name, feature = word ++ name ∧ Text.foldCase word = "comparator-" ∧
      ComparatorFound host name

/-- **What may be used is what the registries support.** -/
theorem available_iff :
    Available host feature ↔ host.registries.supportsFeature feature = true := by
  have comparator : (∃ word name, feature = word ++ name ∧ Text.foldCase word = "comparator-" ∧
      ComparatorFound host name) ↔
      (Registries.comparatorOfFeature? feature).any host.registries.comparators.supports =
        true := by
    rw [Option.any_eq_true]
    constructor
    · rintro ⟨word, name, split, folded, found⟩
      exact ⟨name, Registries.comparatorOfFeature?_eq_some_iff.mpr ⟨word, split, folded⟩,
        comparatorFound_iff.mp found⟩
    · rintro ⟨name, named, supported⟩
      obtain ⟨word, split, folded⟩ := Registries.comparatorOfFeature?_eq_some_iff.mp named
      exact ⟨word, name, split, folded, comparatorFound_iff.mpr supported⟩
  rw [Available, commandFound_iff, testFound_iff, comparator, Registries.supportsFeature,
    Bool.or_eq_true, Bool.or_eq_true, or_assoc]

/-! ### How a require ends -/

/-- The feature is the first in the list that is not available. -/
def IsFirstUnavailable (host : Host) (features : List String) (feature : String) : Prop :=
  ∃ earlier later, features = earlier ++ feature :: later ∧
    (∀ other ∈ earlier, Available host other) ∧ ¬ Available host feature

/-- How a computation ends that grants the features at a position: in the state `granted`, or else
in the state `refused` with the first feature at fault that is not available. -/
structure Verdict (host : Host) (features : List String) (position : Coordinate)
    (granted refused : State) (ended : EStateM.Result RunError State Flow) : Prop where
  ok_iff : (∃ flow after, ended = .ok flow after) ↔ ∀ feature ∈ features, Available host feature
  of_ok : ∀ flow after, ended = .ok flow after → flow = .proceed ∧ after = granted
  of_error : ∀ error after, ended = .error error after →
    ∃ feature, IsFirstUnavailable host features feature ∧
      error = ⟨.unsupportedFeature feature, position⟩ ∧ after = refused

section Require

variable {features : List String} {state : State}

/-- The search of a `require` comes to the first feature that is not available. -/
theorem isFirstUnavailable_of_find?
    (found : features.find? (!host.registries.supportsFeature ·) = some feature) :
    IsFirstUnavailable host features feature := by
  obtain ⟨missing, earlier, later, split, passed⟩ := List.find?_eq_some_iff_append.mp found
  refine ⟨earlier, later, split, fun other before => ?_, ?_⟩
  · exact available_iff.mpr (by simpa using passed other before)
  · rw [available_iff]
    simpa using missing

/-- What ends as the search for a feature that is not supported says, ends as it should. -/
theorem verdict_of_find? {position : Coordinate} {granted refused : State} :
    Verdict host features position granted refused
      (match features.find? (!host.registries.supportsFeature ·) with
        | some feature => .error ⟨.unsupportedFeature feature, position⟩ refused
        | none => .ok .proceed granted) := by
  cases found : features.find? (!host.registries.supportsFeature ·) with
  | none =>
      have all : ∀ feature ∈ features, Available host feature := fun feature asked =>
        available_iff.mpr (by simpa using List.find?_eq_none.mp found feature asked)
      refine ⟨iff_of_true ⟨.proceed, granted, rfl⟩ all, fun flow after ended => ?_,
        fun error after ended => ?_⟩ <;> cases ended
      exact ⟨rfl, rfl⟩
  | some feature =>
      have first := isFirstUnavailable_of_find? found
      refine ⟨iff_of_false ?_ fun all => ?_, fun flow after ended => ?_,
        fun error after ended => ?_⟩
      · rintro ⟨flow, after, ended⟩
        cases ended
      · obtain ⟨earlier, later, rfl, -, unavailable⟩ := first
        exact unavailable (all feature (by simp))
      · cases ended
      · cases ended
        exact ⟨feature, first, rfl, rfl⟩

/-- A `require` that can be read refuses the first of its features that is not supported, and
otherwise does nothing. -/
theorem execute_require_apply {arguments : ArgumentsOf (Run Bool)} {block : Option (Run Flow)}
    (read : arguments.stringList = .ok features) :
    BuiltinCommand.require.execute host arguments block state =
      match features.find? (!host.registries.supportsFeature ·) with
      | some feature => .error ⟨.unsupportedFeature feature, state.coordinate⟩ state
      | none => .ok .proceed state := by
  rw [BuiltinCommand.execute, Run.bind_apply, BuiltinCommand.act_require_apply, read]
  dsimp only
  cases features.find? (!host.registries.supportsFeature ·) <;> rfl

/-- A `require` in the prolog comes to its features, and they decide. -/
theorem evaluateCommand_require_apply {command : Command}
    (made : host.registries.commands.create command.name = .ok .require)
    (read : command.arguments.stringList = .ok features) (bare : command.block = none)
    (inProlog : state.flags.inProlog = true) :
    evaluateCommand host command state =
      match features.find? (!host.registries.supportsFeature ·) with
      | some feature =>
          .error ⟨.unsupportedFeature feature, command.coordinate⟩
            { state with coordinate := command.coordinate }
      | none =>
          .ok .proceed
            { state with coordinate := command.coordinate, scopes := state.scopes.close } := by
  obtain ⟨name, arguments, block, coordinate⟩ := command
  obtain rfl : block = none := bare
  have prepared : BuiltinCommand.prepare host name (arguments.map (evaluateTest host))
      (none : Option (Run Flow)) coordinate state = .ok .require { state with coordinate } := by
    refine BuiltinCommand.prepare_eq_ok_iff.mpr ⟨made, ?_, ?_, rfl, rfl⟩
    · rw [validateState_require, inProlog, if_pos rfl]
    · rw [BuiltinCommand.validateArguments_map, BuiltinCommand.validateArguments, read]
      rfl
  have readAgain : (arguments.map (evaluateTest host)).stringList = .ok features :=
    (ArgumentsOf.stringList_map _ _).trans read
  rw [evaluateCommand_mk, BuiltinCommand.runNode, Option.map_none, Run.bind_of_ok prepared,
    Run.bind_apply, execute_require_apply readAgain]
  cases features.find? (!host.registries.supportsFeature ·) <;> rfl

end Require

/-! ### The agreement -/

/-- Every use of the name is refused, be it at a command, at a test or behind the word for
comparators, for want of something behind it. -/
structure Missing (host : Host) (feature : String) : Prop where
  command : ∀ command : Command, command.name = feature → ∀ state,
    evaluateCommand host command state =
      .error ⟨.notMapped .command feature, command.coordinate⟩
        { state with coordinate := command.coordinate }
  test : ∀ test : Test, test.name = feature → ∀ state,
    evaluateTest host test state =
      .error ⟨.notMapped .test feature, test.coordinate⟩
        { state with coordinate := test.coordinate }
  comparator : ∀ word name, feature = word ++ name → Text.foldCase word = "comparator-" →
    ∀ matchType values keys state,
      BuiltinTest.compareAny host (some name) matchType values keys state =
        .error ⟨.notMapped .comparator name, state.coordinate⟩ state

/-- What is not available somewhere is missing everywhere. -/
theorem missing_of_not_available (unavailable : ¬ Available host feature) :
    Missing host feature := by
  obtain ⟨noCommand, noTest, noComparator⟩ : ¬ CommandFound host feature ∧
      ¬ TestFound host feature ∧ ¬ ∃ word name, feature = word ++ name ∧
        Text.foldCase word = "comparator-" ∧ ComparatorFound host name := by
    simpa only [Available, not_or] using unavailable
  rw [commandFound_iff, Bool.not_eq_true] at noCommand
  rw [testFound_iff, Bool.not_eq_true] at noTest
  refine ⟨?_, ?_, ?_⟩
  · rintro command rfl state
    exact evaluateCommand_of_missing command state noCommand
  · rintro test rfl state
    exact evaluateTest_of_missing test state noTest
  · intro word name split folded matchType values keys state
    refine compareAny_of_missing matchType values keys state ?_
    rw [← Bool.not_eq_true, ← comparatorFound_iff]
    exact fun found => noComparator ⟨word, name, split, folded, found⟩

/-- A feature without a cut behind its eleventh octet names no comparator. -/
theorem available_iff_of_uncut
    (uncut : ∀ head tail, feature = head ++ tail → Text.octetCount head ≠ 11) :
    Available host feature ↔ CommandFound host feature ∨ TestFound host feature := by
  have noComparator : ¬ ∃ word name, feature = word ++ name ∧
      Text.foldCase word = "comparator-" ∧ ComparatorFound host name := by
    rintro ⟨word, name, split, folded, -⟩
    exact uncut word name split (Registries.octetCount_of_comparatorFeature folded)
  rw [Available, or_iff_left noComparator]

/-- **What may be required is what may be used.**  A `require` in the prolog grants its features if
each of them is available, and else fails with the first that is not, leaving all but the position
as it was.  A feature that is not available is missing wherever it is used, and one that cannot be
cut behind its eleventh octet is available as a command or a test only. -/
theorem require_agrees (host : Host) :
    (∀ (command : Command) (features : List String) (state : State),
      host.registries.commands.create command.name = .ok .require →
      command.arguments.stringList = .ok features → command.block = none →
      state.flags.inProlog = true →
        Verdict host features command.coordinate
          { state with coordinate := command.coordinate, scopes := state.scopes.close }
          { state with coordinate := command.coordinate } (evaluateCommand host command state)) ∧
    (∀ (arguments : ArgumentsOf (Run Bool)) (block : Option (Run Flow)) (features : List String)
      (state : State), arguments.stringList = .ok features →
        Verdict host features state.coordinate state state
          (BuiltinCommand.require.execute host arguments block state)) ∧
    (∀ feature, ¬ Available host feature → Missing host feature) ∧
    ∀ feature, (∀ head tail, feature = head ++ tail → Text.octetCount head ≠ 11) →
      (Available host feature ↔ CommandFound host feature ∨ TestFound host feature) := by
  refine ⟨fun command features state made read bare inProlog => ?_,
    fun arguments block features state read => ?_, fun _ => missing_of_not_available,
    fun _ => available_iff_of_uncut⟩
  · rw [evaluateCommand_require_apply made read bare inProlog]
    exact verdict_of_find?
  · rw [execute_require_apply read]
    exact verdict_of_find?

/-- A host with names in any case, and with nothing that could be made behind one of them. -/
def brokenHost : Host where
  registries := {
    commands := .ofList [("FÖÖ", .error "no memory"), ("require", .ok .require)]
    tests := .ofList [("anyOf", .ok .anyOf)]
    comparators := .ofList [("I;Octet", .ok Collation.octet.comparator)] }

/-- Features of which all but the last two may be required. -/
def oddFeatures : List String := ["fÖÖ", "ANYOF", "Comparator-i;octet", "comparatoré", "none"]

/-- A `require` of these features. -/
def oddRequire : Command where
  name := "require"
  arguments := { args := [.stringList oddFeatures] }

/-- A command that cannot be made may be required, and so may a test or a comparator in any case;
but of `comparatoré` the word for comparators cannot be cut off, for the eleventh octet lies within
its last letter. -/
theorem require_agrees_multiByte :
    brokenHost.registries.commands.create oddRequire.name = .ok .require ∧
      IsFirstUnavailable brokenHost oddFeatures "comparatoré" ∧ Missing brokenHost "comparatoré" ∧
      Verdict brokenHost oddFeatures {} {} {} (evaluateCommand brokenHost oddRequire {}) ∧
      Verdict brokenHost oddFeatures {} {} {}
        (BuiltinCommand.require.execute brokenHost { args := [.stringList oddFeatures] } none {}) ∧
      (Available brokenHost "comparatoré" ↔
        CommandFound brokenHost "comparatoré" ∨ TestFound brokenHost "comparatoré") := by
  have made : brokenHost.registries.commands.create oddRequire.name = .ok .require := by
    decide +kernel
  have found : oddFeatures.find? (!brokenHost.registries.supportsFeature ·) =
      some "comparatoré" := by
    simp only [brokenHost, Registries.supportsFeature, Registry.supports_ofList]
    decide +kernel
  have first := isFirstUnavailable_of_find? found
  have missing : Missing brokenHost "comparatoré" := by
    obtain ⟨earlier, later, -, -, unavailable⟩ := first
    exact (require_agrees brokenHost).2.2.1 _ unavailable
  have evaluated := (require_agrees brokenHost).1 oddRequire oddFeatures {} made rfl rfl rfl
  have executed := (require_agrees brokenHost).2.1 { args := [.stringList oddFeatures] } none
    oddFeatures {} rfl
  have uncut : ∀ head tail, "comparatoré" = head ++ tail → Text.octetCount head ≠ 11 := by
    intro head tail split
    have start : head.toList ∈ "comparatoré".toList.inits := by
      rw [List.mem_inits, split, String.toList_append]
      exact List.prefix_append _ _
    have none : ∀ start ∈ "comparatoré".toList.inits,
        (start.flatMap String.utf8EncodeChar).length ≠ 11 := by
      decide +kernel
    exact none _ start
  exact ⟨made, first, missing, evaluated, executed, (require_agrees brokenHost).2.2.2 _ uncut⟩

end MailSieve
