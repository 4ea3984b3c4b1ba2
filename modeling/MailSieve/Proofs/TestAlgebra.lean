import MailSieve.Proofs.Correspondence
import MailSieve.Proofs.Searches

/-!
# The algebra of tests

The connectives `not`, `anyof` and `allof` obey the laws of Boolean algebra that keep the order of
what they connect: those of De Morgan, double negation, and the law that opens a connective which
stands inside another of its kind.  Failures are no exception.  Both sides of a law evaluate the
same tests in the same order and stop at the same one, so they fail for the same reason at the same
test, and what one of them does not get to is not reached by the other.

* `Run.SameAnswer` and `Run.Interchangeable` say when two sides come to the same.  Only the position
  at which a test ends may differ, and nothing looks at it, for every test moves to its own first.
* `Evaluates` is what an evaluation of tests has to be for the laws to hold.  The connectives are
  those built in; a host may have whatever it likes behind other names.
* `BooleanLaws` are the laws, and `boolean_laws` says that they hold.
-/

namespace MailSieve

/-! ### The same answer -/

namespace Run

variable {α : Type} {first second third : EStateM.Result RunError State α}
  {left middle right : Run α}

/-- The same value in states that differ at most in the position, or the very same error in the very
same state. -/
inductive SameAnswer : EStateM.Result RunError State α → EStateM.Result RunError State α → Prop
  | value (value : α) (after : State) (coordinate : Coordinate) :
      SameAnswer (.ok value after) (.ok value { after with coordinate })
  | error (error : RunError) (after : State) : SameAnswer (.error error after) (.error error after)

theorem SameAnswer.refl (result : EStateM.Result RunError State α) : SameAnswer result result := by
  cases result with
  | ok value after => exact .value value after after.coordinate
  | error error after => exact .error error after

theorem SameAnswer.symm (same : SameAnswer first second) : SameAnswer second first := by
  cases same with
  | value value after coordinate => exact .value value { after with coordinate } after.coordinate
  | error error after => exact .error error after

theorem SameAnswer.trans (here : SameAnswer first second) (there : SameAnswer second third) :
    SameAnswer first third := by
  cases here with
  | error error after => exact there
  | value value after coordinate =>
      cases there with
      | value _ _ last => exact .value value after last

/-- An answer that is the same as an error is that error, in the same state. -/
theorem SameAnswer.eq_error {error : RunError} {after : State}
    (same : SameAnswer (.error error after) first) : first = .error error after := by
  cases same
  rfl

/-- The one can stand for the other, wherever the run has come from: the two give the same answer
from states that differ at most in the position. -/
def Interchangeable (left right : Run α) : Prop :=
  ∀ (state : State) (coordinate : Coordinate),
    SameAnswer (left state) (right { state with coordinate })

namespace Interchangeable

theorem symm (same : Interchangeable left right) : Interchangeable right left :=
  fun state coordinate => (same { state with coordinate } state.coordinate).symm

theorem trans (here : Interchangeable left middle) (there : Interchangeable middle right) :
    Interchangeable left right :=
  fun state coordinate =>
    (here state state.coordinate).trans (there state coordinate)

instance : Trans (@Interchangeable α) (@Interchangeable α) (@Interchangeable α) := ⟨trans⟩

end Interchangeable

/-- What is interchangeable stays so in a row of computations. -/
def interchange : RunRelation where
  Related := Interchangeable
  related_pure value state coordinate := .value value state coordinate
  related_bind {_ _ here there rest others} same later := by
    intro state coordinate
    rw [bind_apply, bind_apply]
    have first := same state coordinate
    generalize here state = left, there { state with coordinate } = right at first
    cases first with
    | error error after => exact .error error after
    | value value after reached => exact later value after reached

/-- A move does nothing for what moves to a position of its own. -/
theorem interchangeable_moveTo_bind (coordinate : Coordinate)
    (same : Interchangeable left right) :
    Interchangeable (moveTo coordinate >>= fun _ => left) right := by
  have moved : Interchangeable (moveTo coordinate) (pure ()) :=
    fun state reached => .value () _ reached
  have inRow := interchange.related_bind moved fun _ => same
  rwa [pure_bind] at inRow

/-- Two computations can be exchanged under a negation. -/
theorem interchangeable_not {left right : Run Bool} (same : Interchangeable left right) :
    Interchangeable (not <$> left) (not <$> right) := by
  rw [map_eq_pure_bind, map_eq_pure_bind]
  exact interchange.related_bind same fun holds => interchange.related_pure !holds

/-- In a search, some items can be put in the place of others. -/
theorem interchangeable_anyM_between {evaluate : α → Run Bool} {items others : List α}
    (self : ∀ item, Interchangeable (evaluate item) (evaluate item))
    (same : Interchangeable (items.anyM evaluate) (others.anyM evaluate)) (before behind : List α) :
    Interchangeable ((before ++ items ++ behind).anyM evaluate)
      ((before ++ others ++ behind).anyM evaluate) := by
  have own (items : List α) : Interchangeable (items.anyM evaluate) (items.anyM evaluate) :=
    interchange.related_anyM fun item _ => self item
  simp only [anyM_append]
  refine interchange.related_bind (interchange.related_bind (own before) fun found => ?_)
    fun found => ?_
  · cases found with
    | true => exact interchange.related_pure true
    | false => exact same
  · cases found with
    | true => exact interchange.related_pure true
    | false => exact own behind

/-- Items in the middle of a search can be exchanged for others that answer the same. -/
theorem interchangeable_allM_between {evaluate : α → Run Bool} {items others : List α}
    (self : ∀ item, Interchangeable (evaluate item) (evaluate item))
    (same : Interchangeable (items.allM evaluate) (others.allM evaluate)) (before behind : List α) :
    Interchangeable ((before ++ items ++ behind).allM evaluate)
      ((before ++ others ++ behind).allM evaluate) := by
  have own (items : List α) : Interchangeable (items.allM evaluate) (items.allM evaluate) :=
    interchange.related_allM fun item _ => self item
  simp only [allM_append]
  refine interchange.related_bind (interchange.related_bind (own before) fun holds => ?_)
    fun holds => ?_
  · cases holds with
    | true => exact same
    | false => exact interchange.related_pure false
  · cases holds with
    | true => exact own behind
    | false => exact interchange.related_pure false

end Run

/-! ### Connectives -/

/-- The built-in tests whose arguments are tests and nothing else. -/
def BuiltinTest.connectives : List BuiltinTest := [negation, anyOf, allOf]

/-- The test connects other tests: behind its name is the connective, and the others are all it has
for arguments. -/
structure Test.Connects (whole : Test) (registries : Registries) (connective : BuiltinTest)
    (tests : List Test) : Prop where
  made : registries.tests.create whole.name = .ok connective
  arguments : whole.arguments = { tests := some tests }

/-- Tests are evaluated by this, be it by a host that has tests of its own.  The connectives are
built in, and any other test moves to its position and then does what is its own. -/
structure Evaluates (host : Host) (evaluate : Test → Run Bool) : Prop where
  connective : ∀ test : Test, ∀ made ∈ BuiltinTest.connectives,
    host.registries.tests.create test.name = .ok made →
      evaluate test =
        BuiltinTest.runNode host test.name (test.arguments.map evaluate) test.coordinate
  moves : ∀ test, ∃ own : Run Bool, evaluate test = Run.moveTo test.coordinate >>= fun _ => own

/-- A host without tests of its own evaluates all of them by what is built in. -/
theorem evaluates_evaluateTest (host : Host) : Evaluates host (evaluateTest host) where
  connective := by
    rintro ⟨name, arguments, coordinate⟩ made - -
    exact evaluateTest_mk host name arguments coordinate
  moves := by
    rintro ⟨name, arguments, coordinate⟩
    exact ⟨_, evaluateTest_mk host name arguments coordinate⟩

namespace Evaluates

variable {host : Host} {evaluate : Test → Run Bool} {test whole : Test} {tests : List Test}
  {connective : BuiltinTest}

/-- It does not count for a test where the run stood before. -/
theorem interchangeable (evaluates : Evaluates host evaluate) (test : Test) :
    Run.Interchangeable (evaluate test) (evaluate test) := by
  intro state coordinate
  obtain ⟨own, moves⟩ := evaluates.moves test
  rw [moves]
  exact .refl _

/-- A connective moves to its position and then does its part, if it accepts its arguments. -/
theorem evaluate_eq (evaluates : Evaluates host evaluate)
    (connects : whole.Connects host.registries connective tests)
    (isConnective : connective ∈ BuiltinTest.connectives)
    (accepted : connective.validateArguments { tests := some tests } = .ok ()) :
    evaluate whole = Run.moveTo whole.coordinate >>= fun _ =>
      connective.evaluate host { tests := some (tests.map evaluate) } := by
  rw [evaluates.connective whole connective isConnective connects.made, BuiltinTest.runNode,
    connects.made, connects.arguments, Run.ofExcept_ok, pure_bind,
    BuiltinTest.validateArguments_map, accepted, Run.ofShape_ok, pure_bind]
  rfl

/-- A `not` turns the answer of its test around. -/
theorem negation (evaluates : Evaluates host evaluate)
    (connects : whole.Connects host.registries .negation [test]) :
    Run.Interchangeable (evaluate whole) (not <$> evaluate test) := by
  rw [evaluates.evaluate_eq connects (by decide) rfl]
  have own : BuiltinTest.evaluate host .negation { tests := some [evaluate test] } =
      not <$> evaluate test := by
    rw [map_eq_pure_bind]
    rfl
  rw [List.map_singleton, own]
  exact Run.interchangeable_moveTo_bind _
    (Run.interchangeable_not (evaluates.interchangeable test))

/-- An `anyof` asks its tests in order for one that holds. -/
theorem anyOf (evaluates : Evaluates host evaluate)
    (connects : whole.Connects host.registries .anyOf tests) :
    Run.Interchangeable (evaluate whole) (tests.anyM evaluate) := by
  rw [evaluates.evaluate_eq connects (by decide) rfl]
  have own : BuiltinTest.evaluate host .anyOf { tests := some (tests.map evaluate) } =
      tests.anyM evaluate := anyM_evaluations evaluate tests
  rw [own]
  exact Run.interchangeable_moveTo_bind _
    (Run.interchange.related_anyM fun test _ => evaluates.interchangeable test)

/-- An `allof` asks its tests in order for one that does not hold. -/
theorem allOf (evaluates : Evaluates host evaluate)
    (connects : whole.Connects host.registries .allOf tests) :
    Run.Interchangeable (evaluate whole) (tests.allM evaluate) := by
  rw [evaluates.evaluate_eq connects (by decide) rfl]
  have own : BuiltinTest.evaluate host .allOf { tests := some (tests.map evaluate) } =
      tests.allM evaluate := allM_evaluations evaluate tests
  rw [own]
  exact Run.interchangeable_moveTo_bind _
    (Run.interchange.related_allM fun test _ => evaluates.interchangeable test)

end Evaluates

/-! ### The laws -/

/-- The tests are negations of others, one by one. -/
def Negate (registries : Registries) (tests denials : List Test) : Prop :=
  List.Forall₂ (fun test denial => denial.Connects registries .negation [test]) tests denials

/-- The laws of tests under a way to evaluate them. -/
structure BooleanLaws (registries : Registries) (evaluate : Test → Run Bool) : Prop where
  /-- `not anyof (a, b)` and `allof (not a, not b)` -/
  not_anyOf : ∀ {tests denials : List Test} {inner whole other : Test},
    inner.Connects registries .anyOf tests → whole.Connects registries .negation [inner] →
      Negate registries tests denials → other.Connects registries .allOf denials →
        Run.Interchangeable (evaluate whole) (evaluate other)
  /-- `not allof (a, b)` and `anyof (not a, not b)` -/
  not_allOf : ∀ {tests denials : List Test} {inner whole other : Test},
    inner.Connects registries .allOf tests → whole.Connects registries .negation [inner] →
      Negate registries tests denials → other.Connects registries .anyOf denials →
        Run.Interchangeable (evaluate whole) (evaluate other)
  /-- `not not a` and `a` -/
  not_not : ∀ {test inner whole : Test},
    inner.Connects registries .negation [test] → whole.Connects registries .negation [inner] →
      Run.Interchangeable (evaluate whole) (evaluate test)
  /-- `anyof (a, anyof (b, c), d)` and `anyof (a, b, c, d)` -/
  anyOf_anyOf : ∀ {before tests behind : List Test} {inner whole other : Test},
    inner.Connects registries .anyOf tests →
      whole.Connects registries .anyOf (before ++ [inner] ++ behind) →
        other.Connects registries .anyOf (before ++ tests ++ behind) →
          Run.Interchangeable (evaluate whole) (evaluate other)
  /-- `allof (a, allof (b, c), d)` and `allof (a, b, c, d)` -/
  allOf_allOf : ∀ {before tests behind : List Test} {inner whole other : Test},
    inner.Connects registries .allOf tests →
      whole.Connects registries .allOf (before ++ [inner] ++ behind) →
        other.Connects registries .allOf (before ++ tests ++ behind) →
          Run.Interchangeable (evaluate whole) (evaluate other)

section Laws

variable {host : Host} {evaluate : Test → Run Bool} {tests denials before behind : List Test}
  {test inner whole other : Test} (evaluates : Evaluates host evaluate)

namespace Evaluates

include evaluates

/-- **Not any** is all of the negations. -/
theorem not_anyOf (isAny : inner.Connects host.registries .anyOf tests)
    (isNot : whole.Connects host.registries .negation [inner])
    (negated : Negate host.registries tests denials)
    (isAll : other.Connects host.registries .allOf denials) :
    Run.Interchangeable (evaluate whole) (evaluate other) := calc
  Run.Interchangeable (evaluate whole) (not <$> evaluate inner) := evaluates.negation isNot
  Run.Interchangeable _ (not <$> tests.anyM evaluate) :=
    Run.interchangeable_not (evaluates.anyOf isAny)
  Run.Interchangeable _ (denials.allM evaluate) := by
    rw [not_anyM]
    exact Run.interchange.related_allM_of_forall₂
      (negated.imp fun _ _ isDenial => (evaluates.negation isDenial).symm)
  Run.Interchangeable _ (evaluate other) := (evaluates.allOf isAll).symm

/-- **Not all** is any of the negations. -/
theorem not_allOf (isAll : inner.Connects host.registries .allOf tests)
    (isNot : whole.Connects host.registries .negation [inner])
    (negated : Negate host.registries tests denials)
    (isAny : other.Connects host.registries .anyOf denials) :
    Run.Interchangeable (evaluate whole) (evaluate other) := calc
  Run.Interchangeable (evaluate whole) (not <$> evaluate inner) := evaluates.negation isNot
  Run.Interchangeable _ (not <$> tests.allM evaluate) :=
    Run.interchangeable_not (evaluates.allOf isAll)
  Run.Interchangeable _ (denials.anyM evaluate) := by
    rw [not_allM]
    exact Run.interchange.related_anyM_of_forall₂
      (negated.imp fun _ _ isDenial => (evaluates.negation isDenial).symm)
  Run.Interchangeable _ (evaluate other) := (evaluates.anyOf isAny).symm

/-- **Not not** is the test itself. -/
theorem not_not (isNot : inner.Connects host.registries .negation [test])
    (isNotNot : whole.Connects host.registries .negation [inner]) :
    Run.Interchangeable (evaluate whole) (evaluate test) := calc
  Run.Interchangeable (evaluate whole) (not <$> evaluate inner) := evaluates.negation isNotNot
  Run.Interchangeable _ (not <$> not <$> evaluate test) :=
    Run.interchangeable_not (evaluates.negation isNot)
  Run.Interchangeable _ (evaluate test) := by
    simpa using evaluates.interchangeable test

/-- **An `anyof` in an `anyof`** can be dissolved into its tests. -/
theorem anyOf_anyOf (isInner : inner.Connects host.registries .anyOf tests)
    (isWhole : whole.Connects host.registries .anyOf (before ++ [inner] ++ behind))
    (isOther : other.Connects host.registries .anyOf (before ++ tests ++ behind)) :
    Run.Interchangeable (evaluate whole) (evaluate other) := by
  have opened : Run.Interchangeable ([inner].anyM evaluate) (tests.anyM evaluate) := by
    rw [anyM_singleton]
    exact evaluates.anyOf isInner
  calc
    Run.Interchangeable (evaluate whole) ((before ++ [inner] ++ behind).anyM evaluate) :=
      evaluates.anyOf isWhole
    Run.Interchangeable _ ((before ++ tests ++ behind).anyM evaluate) :=
      Run.interchangeable_anyM_between evaluates.interchangeable opened before behind
    Run.Interchangeable _ (evaluate other) := (evaluates.anyOf isOther).symm

/-- **An `allof` in an `allof`** can be dissolved into its tests. -/
theorem allOf_allOf (isInner : inner.Connects host.registries .allOf tests)
    (isWhole : whole.Connects host.registries .allOf (before ++ [inner] ++ behind))
    (isOther : other.Connects host.registries .allOf (before ++ tests ++ behind)) :
    Run.Interchangeable (evaluate whole) (evaluate other) := by
  have opened : Run.Interchangeable ([inner].allM evaluate) (tests.allM evaluate) := by
    rw [allM_singleton]
    exact evaluates.allOf isInner
  calc
    Run.Interchangeable (evaluate whole) ((before ++ [inner] ++ behind).allM evaluate) :=
      evaluates.allOf isWhole
    Run.Interchangeable _ ((before ++ tests ++ behind).allM evaluate) :=
      Run.interchangeable_allM_between evaluates.interchangeable opened before behind
    Run.Interchangeable _ (evaluate other) := (evaluates.allOf isOther).symm

end Evaluates

/-- **The laws of Boolean algebra hold of tests, failures included**, for the tests that are built in
and whatever else a host may have behind other names. -/
theorem boolean_laws (host : Host) :
    BooleanLaws host.registries (evaluateTest host) ∧
      ∀ evaluate, Evaluates host evaluate → BooleanLaws host.registries evaluate := by
  have laws : ∀ evaluate, Evaluates host evaluate → BooleanLaws host.registries evaluate := by
    intro evaluate evaluates
    exact {
      not_anyOf := evaluates.not_anyOf
      not_allOf := evaluates.not_allOf
      not_not := evaluates.not_not
      anyOf_anyOf := evaluates.anyOf_anyOf
      allOf_allOf := evaluates.allOf_allOf }
  exact ⟨laws (evaluateTest host) (evaluates_evaluateTest host), laws⟩

end Laws

/-- `not anyof (false, exists "X-Spam", nope)`, where the field cannot be read and there is no test
of the name `nope`.  As a row of negations it fails at the same test for the same reason, and
neither form gets to the unknown name. -/
theorem boolean_laws_unreadable :
    let host : Host :=
      { registries := .builtin
        failures := .ofRules [⟨.matchingHeader, some "X-Spam", .unreadable "closed"⟩] }
    let tests : List Test := [
      { name := "false", coordinate := ⟨1, 12⟩ },
      { name := "exists", arguments := { args := [.stringList ["X-Spam"]] },
        coordinate := ⟨1, 19⟩ },
      { name := "nope", coordinate := ⟨1, 36⟩ }]
    let deny (test : Test) : Test :=
      { name := "not", arguments := { tests := some [test] }, coordinate := ⟨1, 1⟩ }
    let whole := deny { name := "anyof", arguments := { tests := some tests } }
    let other : Test := { name := "allof", arguments := { tests := some (tests.map deny) } }
    let error : RunError := ⟨.mailAccess (.unreadable "closed"), ⟨1, 19⟩⟩
    ∃ after, evaluateTest host whole {} = .error error after ∧
      evaluateTest host other {} = .error error after := by
  intro host tests deny whole other error
  obtain ⟨laws, -⟩ := boolean_laws host
  have denied (test : Test) : (deny test).Connects host.registries .negation [test] :=
    ⟨Registries.create_builtin_test .negation, rfl⟩
  have negated : Negate host.registries tests (tests.map deny) :=
    List.forall₂_map_right_iff.mpr (List.forall₂_same.mpr fun test _ => denied test)
  have same : Run.SameAnswer (evaluateTest host whole {}) (evaluateTest host other {}) :=
    laws.not_anyOf ⟨Registries.create_builtin_test .anyOf, rfl⟩ (denied _) negated
      ⟨Registries.create_builtin_test .allOf, rfl⟩ {} {}
  have failed : (match evaluateTest host whole {} with
      | .ok _ _ => none
      | .error error _ => some error) = some error := by
    decide +kernel
  cases ended : evaluateTest host whole {} with
  | ok holds after =>
      rw [ended] at failed
      cases failed
  | error reason after =>
      rw [ended] at same failed
      obtain rfl := Option.some.inj failed
      exact ⟨after, rfl, same.eq_error⟩

end MailSieve
