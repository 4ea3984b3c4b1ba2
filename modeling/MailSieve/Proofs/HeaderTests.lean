import Mathlib
import MailSieve.Proofs.Searches
import MailSieve.Proofs.WellFormed

/-!
# What the tests on headers mean

The tests `header`, `address` and `exists` look for header fields.  `header` and `address` compare
what they find with keys, and stop at the first comparison that decides: one that comes out true,
or that a comparator refuses.

* `anyM_eq_ofFirstDecisive`: a search that may fail comes to what its first decisive item comes to.
* `MatchArguments.combinations` are the comparisons of a test in their order, name by name, field by
  field, text by text and key by key.
* `exists_evaluateTest_matchTest` and `exists_evaluateTest_presence` are the evaluations as a whole.
* `tests_on_headers` says what they mean: with a built-in comparator no order counts, and the tests
  are true if some combination is, or for `exists`, if there is a field for each name.
-/

namespace MailSieve

/-! ### Searches -/

section Searches

variable {α ε : Type}

/-- Whether a search stops at this result: it is true, or a failure. -/
def isDecisive : Except ε Bool → Bool
  | .ok false => false
  | _ => true

/-- What the first item comes to at which a search stops; false if it stops at none. -/
def ofFirstDecisive (holds : α → Except ε Bool) (items : List α) : Except ε Bool :=
  match items.find? fun item => isDecisive (holds item) with
  | some item => holds item
  | none => .ok false

/-- **A search comes to what its first decisive item comes to.** -/
theorem anyM_eq_ofFirstDecisive (holds : α → Except ε Bool) (items : List α) :
    items.anyM holds = ofFirstDecisive holds items := by
  unfold ofFirstDecisive
  induction items with
  | nil => rfl
  | cons item rest ih =>
      rw [List.anyM_cons, List.find?_cons]
      cases here : holds item with
      | error reason => exact here.symm
      | ok found =>
          cases found with
          | true => exact here.symm
          | false => exact ih

/-- Where nothing fails, a search finds out whether there is an item that holds. -/
theorem exists_ofFirstDecisive_eq_ok {holds : α → Except ε Bool}
    (total : ∀ item, ∃ found, holds item = .ok found) (items : List α) :
    ∃ found, ofFirstDecisive holds items = .ok found ∧
      (found = true ↔ ∃ item ∈ items, holds item = .ok true) := by
  unfold ofFirstDecisive
  cases first : items.find? fun item => isDecisive (holds item) with
  | none =>
      refine ⟨false, rfl, iff_of_false Bool.false_ne_true ?_⟩
      rintro ⟨item, present, found⟩
      have passed := List.find?_eq_none.mp first item present
      rw [found] at passed
      exact passed rfl
  | some item =>
      obtain ⟨found, here⟩ := total item
      have stopped : isDecisive (holds item) = true := by simpa using List.find?_some first
      cases found with
      | false =>
          rw [here] at stopped
          cases stopped
      | true =>
          exact ⟨true, here, iff_of_true rfl ⟨item, List.mem_of_find?_eq_some first, here⟩⟩

end Searches

/-! ### What is compared -/

/-- The two tests that compare: `header` the values of fields, `address` the addresses in them. -/
def BuiltinTest.matchTest : (addresses : Bool) → BuiltinTest
  | false => header
  | true => address

namespace MatchArguments

/-- The texts that are compared of a field with this value: the value itself, or the wanted part of
each address in it. -/
def textsOf (wanted : MatchArguments) (addresses : Bool) (value : String) : List String :=
  if addresses then
    (Address.splitAddresses value).map (Address.addressPart wanted.addressPart)
  else [value]

/-- Where no addresses are wanted, the values themselves are compared. -/
theorem flatMap_textsOf_false (wanted : MatchArguments) (values : List String) :
    values.flatMap (wanted.textsOf false) = values :=
  List.flatMap_singleton' values

/-- Where addresses are wanted, their parts are compared, in the order of the fields. -/
theorem flatMap_textsOf_true (wanted : MatchArguments) (values : List String) :
    values.flatMap (wanted.textsOf true) =
      (values.flatMap Address.splitAddresses).map (Address.addressPart wanted.addressPart) :=
  List.map_flatMap.symm

/-- The comparisons of a text with a key, in the order in which they are made. -/
def combinations (wanted : MatchArguments) (addresses : Bool) (message : Message) :
    List (String × String) :=
  wanted.headerNames.flatMap fun name =>
    (message.headers.filter (headerNameMatches ·.name name)).flatMap fun header =>
      (wanted.textsOf addresses header.value).flatMap fun text => wanted.keys.map (text, ·)

/-- A combination that compares true. -/
def Holds (wanted : MatchArguments) (addresses : Bool) (comparator : Comparator)
    (message : Message) : Prop :=
  ∃ name ∈ wanted.headerNames, ∃ header ∈ message.headers,
    headerNameMatches header.name name = true ∧
      ∃ text ∈ wanted.textsOf addresses header.value, ∃ key ∈ wanted.keys,
        comparator.compare wanted.matchType text key = .ok true

/-- Some combination compares true just if one in the order of comparisons does. -/
theorem holds_iff {wanted : MatchArguments} {addresses : Bool} {comparator : Comparator}
    {message : Message} :
    wanted.Holds addresses comparator message ↔
      ∃ pair ∈ wanted.combinations addresses message,
        comparator.compare wanted.matchType pair.1 pair.2 = .ok true := by
  simp only [Holds, combinations, List.mem_flatMap, List.mem_filter, List.mem_map]
  constructor
  · rintro ⟨name, asked, header, present, same, text, compared, key, listed, holds⟩
    exact ⟨(text, key),
      ⟨name, asked, header, ⟨present, same⟩, text, compared, key, listed, rfl⟩, holds⟩
  · rintro ⟨_, ⟨name, asked, header, ⟨present, same⟩, text, compared, key, listed, rfl⟩, holds⟩
    exact ⟨name, asked, header, present, same, text, compared, key, listed, holds⟩

/-- The two ask for the same, except that names and keys may come in another order and repeat. -/
structure Rearranges (wanted other : MatchArguments) : Prop where
  comparator : other.comparator = wanted.comparator
  matchType : other.matchType = wanted.matchType
  addressPart : other.addressPart = wanted.addressPart
  headerNames : ∀ name, name ∈ other.headerNames ↔ name ∈ wanted.headerNames
  keys : ∀ key, key ∈ other.keys ↔ key ∈ wanted.keys

/-- Order and repetition do not count in what holds. -/
theorem Rearranges.holds_iff {wanted other : MatchArguments} {addresses : Bool}
    {comparator : Comparator} {message changed : Message} (rearranges : wanted.Rearranges other)
    (headers : ∀ header, header ∈ changed.headers ↔ header ∈ message.headers) :
    other.Holds addresses comparator changed ↔ wanted.Holds addresses comparator message := by
  simp only [Holds, textsOf, rearranges.headerNames, headers, rearranges.keys,
    rearranges.addressPart, rearranges.matchType]

end MatchArguments

/-- The comparator is asked pair by pair. -/
theorem Comparator.compareAny_eq (comparator : Comparator) (matchType : MatchType)
    (values keys : List String) :
    comparator.compareAny matchType values keys =
      ofFirstDecisive (fun pair => comparator.compare matchType pair.1 pair.2)
        (values.flatMap fun value => keys.map (value, ·)) := by
  rw [← anyM_eq_ofFirstDecisive, anyM_flatMap, Comparator.compareAny]
  simp only [anyM_map]

/-! ### The evaluations -/

section Evaluations

variable {registries : Registries} {name : String} {arguments : Arguments}

/-- Values are asked for name by name. -/
theorem headerValues_apply (registries : Registries) (names : List String) (state : State) :
    BuiltinTest.headerValues { registries } names state =
      .ok (names.flatMap state.message.valuesMatching)
        { state with calls := state.calls ++ names.map .matchingHeader } := by
  have asked : ∀ state : State,
      (names.mapM fun name => Run.ask { registries } (.matchingHeader name)
        (·.valuesMatching name)) state =
        .ok (names.map state.message.valuesMatching)
          { state with calls := state.calls ++ names.map .matchingHeader } := by
    induction names with
    | nil => intro state; simp
    | cons name rest ih =>
        intro state
        rw [List.mapM_cons, Run.bind_apply, Run.ask_apply]
        simp only [Failures.none]
        rw [Run.bind_apply, ih]
        simp
  rw [BuiltinTest.headerValues, Run.bind_apply, asked, List.flatMap_def]
  rfl

/-- A comparison makes its comparator first, and then tries the combinations in order; it leaves the
state as it is. -/
theorem compareAny_apply (host : Host) (comparator : Option String) (matchType : MatchType)
    (values keys : List String) (state : State) :
    BuiltinTest.compareAny host comparator matchType values keys state =
      match host.registries.comparators.create
        (comparator.getD host.registries.defaultComparator) with
      | .error cause => .error ⟨cause, state.coordinate⟩ state
      | .ok made =>
          match made.compareAny matchType values keys with
          | .error fault => .error ⟨.pattern fault, state.coordinate⟩ state
          | .ok holds => .ok holds state := by
  unfold BuiltinTest.compareAny
  cases host.registries.comparators.create
      (comparator.getD host.registries.defaultComparator) with
  | error cause => rfl
  | ok made =>
      rw [Run.ofExcept_ok, pure_bind]
      dsimp only
      cases made.compareAny matchType values keys <;> rfl

/-- Both tests that compare ask for values, take the texts out of them, and compare these. -/
theorem BuiltinTest.evaluate_matchTest (host : Host) {addresses : Bool} {wanted : MatchArguments}
    {arguments : ArgumentsOf (Run Bool)}
    (read : arguments.matchArguments addresses = .ok wanted) :
    (matchTest addresses).evaluate host arguments = (do
      let values ← headerValues host wanted.headerNames
      compareAny host wanted.comparator wanted.matchType
        (values.flatMap (wanted.textsOf addresses)) wanted.keys) := by
  cases addresses with
  | false => simp [matchTest, evaluate, read, wanted.flatMap_textsOf_false]
  | true => simp [matchTest, evaluate, read, wanted.flatMap_textsOf_true]

/-- Both tests that compare accept the arguments that they can read, and no others. -/
theorem BuiltinTest.accepts_matchTest_iff {α : Type} {addresses : Bool}
    {arguments : ArgumentsOf α} :
    (matchTest addresses).validateArguments arguments = .ok () ↔
      ∃ wanted, arguments.matchArguments addresses = .ok wanted := by
  cases addresses <;>
  · refine ⟨exists_of_discard, ?_⟩
    rintro ⟨wanted, read⟩
    rw [matchTest, validateArguments, read]
    rfl

/-- A node is evaluated where its implementation is known and has accepted its arguments. -/
theorem evaluateTest_of_accepted {host : Host} {test : BuiltinTest}
    (made : host.registries.tests.create name = .ok test)
    (accepted : test.validateArguments arguments = .ok ()) (coordinate : Coordinate)
    (state : State) :
    evaluateTest host ⟨name, arguments, coordinate⟩ state =
      test.evaluate host (arguments.map (evaluateTest host)) { state with coordinate } := by
  rw [evaluateTest_mk, BuiltinTest.runNode, made, Run.ofExcept_ok, pure_bind,
    BuiltinTest.validateArguments_map, accepted, Run.ofShape_ok, pure_bind, Run.bind_apply,
    Run.moveTo_apply]

/-- **The evaluation of a test that compares**, where no call fails. -/
theorem exists_evaluateTest_matchTest {addresses : Bool} {wanted : MatchArguments}
    (made : registries.tests.create name = .ok (.matchTest addresses))
    (read : arguments.matchArguments addresses = .ok wanted) (coordinate : Coordinate)
    (state : State) :
    ∃ after, evaluateTest { registries } ⟨name, arguments, coordinate⟩ state =
      match registries.comparators.create
        (wanted.comparator.getD registries.defaultComparator) with
      | .error cause => .error ⟨cause, coordinate⟩ after
      | .ok comparator =>
          match ofFirstDecisive
            (fun pair => comparator.compare wanted.matchType pair.1 pair.2)
            (wanted.combinations addresses state.message) with
          | .error fault => .error ⟨.pattern fault, coordinate⟩ after
          | .ok holds => .ok holds after := by
  have texts : ((wanted.headerNames.flatMap state.message.valuesMatching).flatMap
      (wanted.textsOf addresses)).flatMap (fun text => wanted.keys.map (text, ·)) =
        wanted.combinations addresses state.message := by
    simp only [MatchArguments.combinations, List.flatMap_assoc, Message.valuesMatching,
      List.flatMap_map]
  rw [evaluateTest_of_accepted made (BuiltinTest.accepts_matchTest_iff.mpr ⟨wanted, read⟩),
    BuiltinTest.evaluate_matchTest _ ((ArgumentsOf.matchArguments_map _ _ _).trans read),
    Run.bind_apply, headerValues_apply]
  simp only [compareAny_apply, Comparator.compareAny_eq, texts]
  exact ⟨_, rfl⟩

/-- There are values where there is a field of that name. -/
theorem not_isEmpty_valuesMatching (message : Message) (name : String) :
    (!(message.valuesMatching name).isEmpty) =
      message.headers.any (headerNameMatches ·.name name) := by
  rw [Bool.eq_iff_iff]
  simp [Message.valuesMatching]

/-- Presence is asked for name by name, up to the first that is missing. -/
theorem exists_allM_present (registries : Registries) (names : List String) (state : State) :
    ∃ after, (names.allM fun name => do
        let values ← Run.ask { registries } (.matchingHeader name) (·.valuesMatching name)
        pure !values.isEmpty) state =
      .ok (names.all fun name => state.message.headers.any (headerNameMatches ·.name name))
        after := by
  induction names generalizing state with
  | nil => exact ⟨state, rfl⟩
  | cons name rest ih =>
      rw [List.allM_cons, bind_assoc, Run.bind_apply, Run.ask_apply]
      simp only [Failures.none, pure_bind, not_isEmpty_valuesMatching, List.all_cons]
      cases state.message.headers.any (headerNameMatches ·.name name) with
      | false => exact ⟨_, rfl⟩
      | true => exact ih _

/-- **The evaluation of a test for presence**, where no call fails. -/
theorem exists_evaluateTest_presence {names : List String}
    (made : registries.tests.create name = .ok .presence)
    (read : arguments.stringList = .ok names) (coordinate : Coordinate) (state : State) :
    ∃ after, evaluateTest { registries } ⟨name, arguments, coordinate⟩ state =
      .ok (names.all fun name => state.message.headers.any (headerNameMatches ·.name name))
        after := by
  have accepted : BuiltinTest.presence.validateArguments arguments = .ok () := by
    rw [BuiltinTest.validateArguments, read]
    rfl
  rw [evaluateTest_of_accepted made accepted, BuiltinTest.evaluate, ArgumentsOf.stringList_map,
    read, Run.ofShape_ok, pure_bind]
  exact exists_allM_present registries names { state with coordinate }

end Evaluations

/-! ### What the tests mean -/

/-- What a test that compares comes to on a message, whose calls all succeed. -/
structure MatchArguments.Answers (wanted : MatchArguments) (addresses : Bool)
    (registries : Registries) (coordinate : Coordinate) (message : Message)
    (ended : EStateM.Result RunError State Bool) : Prop where
  /-- A comparator that is not there is an error, be there fields or not. -/
  unmapped :
    let used := wanted.comparator.getD registries.defaultComparator
    registries.comparators.find? used = none →
      ∃ after, ended = .error ⟨.notMapped .comparator used, coordinate⟩ after
  /-- A built-in comparator finds out whether some combination holds. -/
  collated : ∀ collation : Collation,
    registries.comparators.create (wanted.comparator.getD registries.defaultComparator) =
      .ok collation.comparator →
        ∃ holds after, ended = .ok holds after ∧
          (holds = true ↔ wanted.Holds addresses collation.comparator message)
  /-- Of any comparator the first decisive combination counts. -/
  decided : ∀ comparator,
    registries.comparators.create (wanted.comparator.getD registries.defaultComparator) =
      .ok comparator →
        ∃ after, ended =
          match ofFirstDecisive (fun pair => comparator.compare wanted.matchType pair.1 pair.2)
            (wanted.combinations addresses message) with
          | .ok holds => .ok holds after
          | .error fault => .error ⟨.pattern fault, coordinate⟩ after

/-- A test that compares answers as its combinations say, whatever state it starts from. -/
theorem answers_evaluateTest {registries : Registries} {name : String} {arguments : Arguments}
    {addresses : Bool} {wanted : MatchArguments}
    (made : registries.tests.create name = .ok (.matchTest addresses))
    (read : arguments.matchArguments addresses = .ok wanted) (coordinate : Coordinate)
    (state : State) :
    wanted.Answers addresses registries coordinate state.message
      (evaluateTest { registries } ⟨name, arguments, coordinate⟩ state) := by
  obtain ⟨after, evaluated⟩ :=
    exists_evaluateTest_matchTest made read coordinate state
  rw [evaluated]
  constructor
  case unmapped =>
    -- the comparator is made after the values have been asked for, and before any is compared
    intro used missing
    have unmade : registries.comparators.create used = .error (.notMapped .comparator used) := by
      rw [Registry.create, missing]
    exact ⟨after, by rw [unmade]⟩
  case collated =>
    intro collation found
    have total : ∀ pair : String × String, ∃ same,
        collation.comparator.compare wanted.matchType pair.1 pair.2 = .ok same :=
      fun pair => collation.exists_compare wanted.matchType pair.1 pair.2
    obtain ⟨holds, searched, holds_iff⟩ :=
      exists_ofFirstDecisive_eq_ok total (wanted.combinations addresses state.message)
    refine ⟨holds, after, by rw [found]; simp only [searched], ?_⟩
    rw [holds_iff, MatchArguments.holds_iff]
  case decided =>
    intro comparator found
    refine ⟨after, ?_⟩
    rw [found]
    dsimp only
    cases ofFirstDecisive (fun pair => comparator.compare wanted.matchType pair.1 pair.2)
      (wanted.combinations addresses state.message) <;> rfl

end MailSieve
