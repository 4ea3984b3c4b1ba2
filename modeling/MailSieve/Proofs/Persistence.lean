import MailSieve.Proofs.HeaderTests
import MailSieve.Proofs.Locality

/-!
# What further header fields cannot take away

A test without `not` and `size` only ever finds things: a field for each of some names, a value or
an address that compares true.  More fields in a message are more to be found in, so such a test
does not become false when fields are put in, wherever they stand.  The two evaluations differ all
the same: a search stops where it has found something, and with more fields that may be sooner, or
later where a test now holds that did not.  So the property that a test decides is looked at, and
not the way in which it does.

* `Test.Positive`: the tests in question, well-formed at every node and with built-in comparators.
* `Run.Decides`: the computation finds out on every message whether a property holds of it.
* `decides_anyOf`, `decides_allOf`, `decides_matchTest` and `decides_presence`: what is decided by
  the implementations that positive tests have.
* `Message.Persistent`: a property that no further field takes away.
* `Test.Positive.exists_persistent` is the induction on the tree: a positive test decides such a
  property.  `evaluateTest_of_more_headers` is what it comes to.
-/

namespace MailSieve

/-- The test is none of the two that can become false when there is more to find. -/
def BuiltinTest.IsPositive : BuiltinTest → Prop
  | negation | size => False
  | constant _ | anyOf | allOf | header | presence | address => True

/-- A test of `true`, `false`, `header`, `address`, `exists`, `anyof` and `allof`: every node has
one of these as its implementation and the arguments it asks for, and compares by something that is
built in. -/
inductive Test.Positive (registries : Registries) : Test → Prop
  | node {name : String} {arguments : Arguments} {coordinate : Coordinate} {test : BuiltinTest}
      (made : registries.tests.create name = .ok test)
      (positive : test.IsPositive)
      (shaped : test.validateArguments arguments = .ok ())
      (comparable : test.Comparable registries arguments)
      (nested : ∀ inner ∈ arguments.testList, inner.Positive registries) :
      Positive registries ⟨name, arguments, coordinate⟩

/-! ### What a computation decides -/

/-- The computation does not fail, and finds out whether the property holds of the message, which it
leaves as it was. -/
def Run.Decides (run : Run Bool) (property : Message → Prop) : Prop :=
  ∀ state, ∃ holds after, run state = .ok holds after ∧ after.message = state.message ∧
    (holds = true ↔ property state.message)

section Decides

variable {α : Type} {items : List α} {holds : α → Run Bool} {property : α → Message → Prop}

/-- A search for one that holds, in which nothing fails, decides whether there is one. -/
theorem decides_anyM (each : ∀ item ∈ items, (holds item).Decides (property item)) :
    (items.anyM holds).Decides fun message => ∃ item ∈ items, property item message := by
  induction items with
  | nil => exact fun state => ⟨false, state, rfl, rfl, by simp⟩
  | cons item rest ih =>
      obtain ⟨first, later⟩ := List.forall_mem_cons.mp each
      intro state
      obtain ⟨found, between, ran, kept, here⟩ := first state
      rw [List.anyM_cons, Run.bind_of_ok ran]
      simp only [List.exists_mem_cons_iff, ← here]
      cases found with
      | true => exact ⟨true, between, rfl, kept, by simp⟩
      | false =>
          obtain ⟨others, after, ranRest, keptRest, behind⟩ := ih later between
          exact ⟨others, after, ranRest, keptRest.trans kept, by simp [behind, kept]⟩

/-- A search for one that does not hold, in which nothing fails, decides whether all do. -/
theorem decides_allM (each : ∀ item ∈ items, (holds item).Decides (property item)) :
    (items.allM holds).Decides fun message => ∀ item ∈ items, property item message := by
  induction items with
  | nil => exact fun state => ⟨true, state, rfl, rfl, by simp⟩
  | cons item rest ih =>
      obtain ⟨first, later⟩ := List.forall_mem_cons.mp each
      intro state
      obtain ⟨found, between, ran, kept, here⟩ := first state
      rw [List.allM_cons, Run.bind_of_ok ran]
      simp only [List.forall_mem_cons, ← here]
      cases found with
      | false => exact ⟨false, between, rfl, kept, by simp⟩
      | true =>
          obtain ⟨others, after, ranRest, keptRest, behind⟩ := ih later between
          exact ⟨others, after, ranRest, keptRest.trans kept, by simp [behind, kept]⟩

end Decides

section Nodes

variable {registries : Registries} {name : String} {arguments : Arguments} {test : Test}
  {property : Message → Prop}

/-- A test `anyof` decides whether one of its tests holds. -/
theorem decides_anyOf {tests : List Test} {properties : Test → Message → Prop}
    (made : registries.tests.create name = .ok .anyOf)
    (listed : arguments.listOfTests = .ok tests) (coordinate : Coordinate)
    (each : ∀ inner ∈ tests, (evaluateTest { registries } inner).Decides (properties inner)) :
    (evaluateTest { registries } ⟨name, arguments, coordinate⟩).Decides fun message =>
      ∃ inner ∈ tests, properties inner message := by
  intro state
  have shaped : BuiltinTest.anyOf.validateArguments arguments = .ok () := by
    rw [BuiltinTest.validateArguments, listed]
    rfl
  rw [evaluateTest_of_accepted made shaped, BuiltinTest.evaluate, ArgumentsOf.listOfTests_map,
    listed]
  show ∃ holds after, (tests.map (evaluateTest { registries })).anyM id _ = .ok holds after ∧ _
  rw [anyM_evaluations]
  exact decides_anyM each { state with coordinate }

/-- A test `allof` decides whether all of its tests hold. -/
theorem decides_allOf {tests : List Test} {properties : Test → Message → Prop}
    (made : registries.tests.create name = .ok .allOf)
    (listed : arguments.listOfTests = .ok tests) (coordinate : Coordinate)
    (each : ∀ inner ∈ tests, (evaluateTest { registries } inner).Decides (properties inner)) :
    (evaluateTest { registries } ⟨name, arguments, coordinate⟩).Decides fun message =>
      ∀ inner ∈ tests, properties inner message := by
  intro state
  have shaped : BuiltinTest.allOf.validateArguments arguments = .ok () := by
    rw [BuiltinTest.validateArguments, listed]
    rfl
  rw [evaluateTest_of_accepted made shaped, BuiltinTest.evaluate, ArgumentsOf.listOfTests_map,
    listed]
  show ∃ holds after, (tests.map (evaluateTest { registries })).allM id _ = .ok holds after ∧ _
  rw [allM_evaluations]
  exact decides_allM each { state with coordinate }

/-- What a test comes to is all that is left to show, as it leaves every message as it was. -/
theorem decides_evaluateTest
    (answers : ∀ state, ∃ holds after, evaluateTest { registries } test state = .ok holds after ∧
      (holds = true ↔ property state.message)) :
    (evaluateTest { registries } test).Decides property := by
  intro state
  obtain ⟨holds, after, ended, decided⟩ := answers state
  have left := observing.le_finalState { registries } test state
  rw [Run.finalState_of_ok ended] at left
  have kept : after.message = state.message := by rw [show after = _ from left]
  exact ⟨holds, after, ended, kept, decided⟩

/-- A test that compares decides whether some combination holds. -/
theorem decides_matchTest {addresses : Bool} {wanted : MatchArguments} {collation : Collation}
    (made : registries.tests.create name = .ok (.matchTest addresses))
    (read : arguments.matchArguments addresses = .ok wanted)
    (collated : registries.comparators.create
      (wanted.comparator.getD registries.defaultComparator) = .ok collation.comparator)
    (coordinate : Coordinate) :
    (evaluateTest { registries } ⟨name, arguments, coordinate⟩).Decides
      (wanted.Holds addresses collation.comparator) :=
  decides_evaluateTest fun state =>
    (answers_evaluateTest made read coordinate state).collated collation collated

/-- A test for presence decides whether there is a field for each name. -/
theorem decides_presence {names : List String}
    (made : registries.tests.create name = .ok .presence)
    (read : arguments.stringList = .ok names) (coordinate : Coordinate) :
    (evaluateTest { registries } ⟨name, arguments, coordinate⟩).Decides fun message =>
      ∀ wanted ∈ names, ∃ header ∈ message.headers, headerNameMatches header.name wanted = true := by
  refine decides_evaluateTest fun state => ?_
  obtain ⟨after, ended⟩ := exists_evaluateTest_presence made read coordinate state
  exact ⟨_, after, ended, by simp⟩

end Nodes

/-! ### What is not taken away -/

/-- What holds of a message holds of every message that has the same header fields and perhaps
others. -/
def Message.Persistent (property : Message → Prop) : Prop :=
  ∀ message other : Message, message.headers ⊆ other.headers → property message → property other

/-- A combination that compares true does so in every message that has the field. -/
theorem MatchArguments.persistent_holds (wanted : MatchArguments) (addresses : Bool)
    (comparator : Comparator) :
    Message.Persistent (wanted.Holds addresses comparator) := by
  rintro message other more ⟨name, asked, header, present, combination⟩
  exact ⟨name, asked, header, more present, combination⟩

section Persistent

variable {registries : Registries} {test : Test}

/-- **A positive test decides a property that no further field takes away**, by induction on the
tree. -/
theorem Test.Positive.exists_persistent (positive : test.Positive registries) :
    ∃ property, (evaluateTest { registries } test).Decides property ∧
      Message.Persistent property := by
  induction positive with
  | @node name arguments coordinate implementation made positive shaped comparable _ ih =>
      -- each nested test decides a property that persists, and the connectives combine them
      choose! properties decides persistent using ih
      cases implementation with
      -- neither is positive: further headers may turn the one around and outgrow the other
      | negation | size => cases positive
      | constant value =>
          refine ⟨fun _ => value = true, fun state => ?_, fun _ _ _ => id⟩
          exact ⟨value, _, evaluateTest_of_accepted made shaped coordinate state, rfl, .rfl⟩
      | anyOf =>
          obtain ⟨tests, listed⟩ := exists_of_discard shaped
          rw [ArgumentsOf.testList_of_listOfTests listed] at decides persistent
          refine ⟨_, decides_anyOf made listed coordinate decides, ?_⟩
          rintro message other more ⟨inner, among, holds⟩
          exact ⟨inner, among, persistent inner among message other more holds⟩
      | allOf =>
          obtain ⟨tests, listed⟩ := exists_of_discard shaped
          rw [ArgumentsOf.testList_of_listOfTests listed] at decides persistent
          refine ⟨_, decides_allOf made listed coordinate decides, ?_⟩
          intro message other more hold inner among
          exact persistent inner among message other more (hold inner among)
      | header =>
          obtain ⟨wanted, read⟩ := exists_of_discard shaped
          obtain ⟨collation, collated⟩ := comparable wanted read
          have compares : registries.tests.create name = .ok (.matchTest false) := made
          exact ⟨_, decides_matchTest compares read collated coordinate,
            wanted.persistent_holds false collation.comparator⟩
      | address =>
          obtain ⟨wanted, read⟩ := exists_of_discard shaped
          obtain ⟨collation, collated⟩ := comparable wanted read
          have compares : registries.tests.create name = .ok (.matchTest true) := made
          exact ⟨_, decides_matchTest compares read collated coordinate,
            wanted.persistent_holds true collation.comparator⟩
      | presence =>
          obtain ⟨names, read⟩ := exists_of_discard shaped
          refine ⟨_, decides_presence made read coordinate, ?_⟩
          intro message other more found wanted listed
          obtain ⟨header, present, same⟩ := found wanted listed
          exact ⟨header, more present, same⟩

end Persistent

/-- **More header fields never falsify a positive test.**  Take a test of `true`, `false`, `header`,
`address`, `exists`, `anyof` and `allof`, and two messages, the second of which has the fields of
the first with others put in anywhere.  On both the test comes to a value, from whatever state, and
if it is true on the first it is true on the second. -/
theorem evaluateTest_of_more_headers {registries : Registries} {test : Test}
    (positive : test.Positive registries) {state other : State}
    (more : state.message.headers.Sublist other.message.headers) :
    ∃ holds after found afterOther,
      evaluateTest { registries } test state = .ok holds after ∧
      evaluateTest { registries } test other = .ok found afterOther ∧
      (holds = true → found = true) := by
  obtain ⟨property, decides, persistent⟩ := positive.exists_persistent
  obtain ⟨holds, after, ended, -, holds_iff⟩ := decides state
  obtain ⟨found, afterOther, endedOther, -, found_iff⟩ := decides other
  refine ⟨holds, after, found, afterOther, ended, endedOther, ?_⟩
  intro held
  exact found_iff.mpr (persistent state.message other.message more.subset (holds_iff.mp held))

section Offered

/-- `exists "To"` -/
def addressed : Test where
  name := "exists"
  arguments := { args := [.stringList ["To"]] }

/-- `header :contains "Subject" "offer"` -/
def offering : Test where
  name := "header"
  arguments := { args := [.tag ":contains", .stringList ["Subject"], .stringList ["offer"]] }

/-- `allof (exists "To", anyof (false, header :contains "Subject" "offer"))` -/
def offered : Test where
  name := "allof"
  arguments := { tests := some [
    addressed,
    { name := "anyof", arguments := { tests := some [{ name := "false" }, offering] } }] }

/-- The test is positive: each of its nodes is, by its name and its arguments. -/
theorem positive_offered : offered.Positive .builtin := by
  have reads : offering.arguments.matchArguments false =
      .ok ⟨none, .contains, .all, ["Subject"], ["offer"]⟩ := by
    cbv
  have positiveOffering : offering.Positive .builtin := by
    refine .node (Registries.create_builtin_test .header) trivial
      (BuiltinTest.accepts_matchTest_iff.mpr ⟨_, reads⟩) ?_ (by simp [ArgumentsOf.testList])
    intro wanted read
    cases reads.symm.trans read
    exact ⟨.octet, Registries.create_builtin_comparator .octet⟩
  have positiveAddressed : addressed.Positive .builtin :=
    .node (Registries.create_builtin_test .presence) trivial rfl trivial
      (by simp [ArgumentsOf.testList])
  have positiveFalse : Test.Positive .builtin { name := "false" } :=
    .node (Registries.create_builtin_test (.constant false)) trivial rfl trivial
      (by simp [ArgumentsOf.testList])
  refine .node (Registries.create_builtin_test .allOf) trivial rfl trivial ?_
  refine List.forall_mem_cons.mpr ⟨positiveAddressed, List.forall_mem_singleton.mpr ?_⟩
  refine .node (Registries.create_builtin_test .anyOf) trivial rfl trivial ?_
  exact List.forall_mem_cons.mpr ⟨positiveFalse, List.forall_mem_singleton.mpr positiveOffering⟩

/-- A second subject in front and a field between the others do not take away what the test has
found. -/
theorem evaluateTest_of_more_headers_offered :
    let headers : List Header := [⟨"Subject", "An offer"⟩, ⟨"To", "a@b.org"⟩]
    let more : List Header :=
      [⟨"Subject", "Re:"⟩, ⟨"Subject", "An offer"⟩, ⟨"X-Spam", "yes"⟩, ⟨"To", "a@b.org"⟩]
    offered.Positive .builtin ∧ headers.Sublist more ∧
      ∃ after afterMore,
        evaluateTest { registries := .builtin } offered { message := { headers } } =
          .ok true after ∧
        evaluateTest { registries := .builtin } offered { message := { headers := more } } =
          .ok true afterMore := by
  intro headers more
  have within : headers.Sublist more := by decide
  have found : (match evaluateTest { registries := .builtin } offered { message := { headers } } with
      | .ok holds _ => holds
      | .error _ _ => false) = true := by
    decide +kernel
  refine ⟨positive_offered, within, ?_⟩
  obtain ⟨holds, after, others, afterMore, ended, endedMore, stays⟩ :=
    @evaluateTest_of_more_headers .builtin offered positive_offered { message := { headers } }
      { message := { headers := more } } within
  rw [ended] at found
  obtain rfl : holds = true := found
  obtain rfl := stays rfl
  exact ⟨after, afterMore, ended, endedMore⟩

end Offered

end MailSieve
