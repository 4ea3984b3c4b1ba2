import MailSieve.Address
import MailSieve.Evaluation.State
import MailSieve.MatchArguments

/-!
# Evaluation of tests

A test is evaluated in four steps: move to its position, make the implementation behind its name,
check its arguments, evaluate.  An implementation sees its arguments with each nested test replaced
by that test's evaluation, which it may run or leave.  `evaluateTest` is the fold of this over the
tree.
-/

namespace MailSieve

namespace BuiltinTest

/-- Whether the arguments have the shape the test asks for. -/
def validateArguments {α : Type} (test : BuiltinTest) (arguments : ArgumentsOf α) :
    Except ShapeFault Unit :=
  match test with
  | constant _ => arguments.nothing
  | negation => discard arguments.singleTest
  | anyOf | allOf => discard arguments.listOfTests
  | header => discard (arguments.matchArguments false)
  | presence => discard arguments.stringList
  | address => discard (arguments.matchArguments true)
  | size => discard arguments.sizeLimit

/-- The shape of arguments does not depend on what stands for their tests. -/
@[simp] theorem validateArguments_map {α β : Type} (test : BuiltinTest) (f : α → β)
    (arguments : ArgumentsOf α) :
    test.validateArguments (arguments.map f) = test.validateArguments arguments := by
  cases test with
  | negation =>
      simp only [validateArguments, ArgumentsOf.singleTest_map]
      cases arguments.singleTest <;> rfl
  | anyOf | allOf =>
      simp only [validateArguments, ArgumentsOf.listOfTests_map]
      cases arguments.listOfTests <;> rfl
  | _ => simp [validateArguments]

/-- The values of the fields that match one of the names, name by name. -/
def headerValues (host : Host) (names : List String) : Run (List String) := do
  let values ← names.mapM fun name => Run.ask host (.matchingHeader name) (·.valuesMatching name)
  pure values.flatten

/-- Whether some value compares true with some key under the comparator named, or else the default
one.  The comparator must exist even if there is no value. -/
def compareAny (host : Host) (comparator : Option String) (matchType : MatchType)
    (values keys : List String) : Run Bool := do
  let name := comparator.getD host.registries.defaultComparator
  let comparator ← Run.ofExcept id (host.registries.comparators.create name)
  Run.ofExcept .pattern (comparator.compareAny matchType values keys)

/-- The result of the test, the position being its own. -/
def evaluate (host : Host) (test : BuiltinTest) (arguments : ArgumentsOf (Run Bool)) : Run Bool :=
  match test with
  | constant value => pure value
  | negation => do
      let test ← Run.ofShape arguments.singleTest
      pure !(← test)
  | anyOf => do
      let tests ← Run.ofShape arguments.listOfTests
      tests.anyM id
  | allOf => do
      let tests ← Run.ofShape arguments.listOfTests
      tests.allM id
  | header => do
      let wanted ← Run.ofShape (arguments.matchArguments false)
      let values ← headerValues host wanted.headerNames
      compareAny host wanted.comparator wanted.matchType values wanted.keys
  | presence => do
      let names ← Run.ofShape arguments.stringList
      names.allM fun name => do
        let values ← Run.ask host (.matchingHeader name) (·.valuesMatching name)
        pure !values.isEmpty
  | address => do
      let wanted ← Run.ofShape (arguments.matchArguments true)
      let values ← headerValues host wanted.headerNames
      let parts := (values.flatMap Address.splitAddresses).map
        (Address.addressPart wanted.addressPart)
      compareAny host wanted.comparator wanted.matchType parts wanted.keys
  | size => do
      let (bound, limit) ← Run.ofShape arguments.sizeLimit
      let size ← Run.ask host .size (·.size)
      pure (bound.holds size limit.toNat)

/-- Evaluate a node whose nested tests are already evaluations. -/
def runNode (host : Host) (name : String) (arguments : ArgumentsOf (Run Bool))
    (coordinate : Coordinate) : Run Bool := do
  Run.moveTo coordinate
  let test ← Run.ofExcept id (host.registries.tests.create name)
  Run.ofShape (test.validateArguments arguments)
  test.evaluate host arguments

end BuiltinTest

/-- The evaluation of a test. -/
def evaluateTest (host : Host) : Test → Run Bool := Test.fold (BuiltinTest.runNode host)

/-- The equation of the evaluation of a test: its steps, over the evaluations of the tests nested in
it. -/
theorem evaluateTest_mk (host : Host) (name : String) (arguments : Arguments)
    (coordinate : Coordinate) :
    evaluateTest host ⟨name, arguments, coordinate⟩ =
      BuiltinTest.runNode host name (arguments.map (evaluateTest host)) coordinate :=
  Test.fold_mk _ name arguments coordinate

/-- A constant has its value everywhere, and only moves to its position. -/
theorem evaluateTest_constant {host : Host} {name : String} {value : Bool}
    (made : host.registries.tests.create name = .ok (.constant value)) (coordinate : Coordinate)
    (state : State) :
    evaluateTest host { name, coordinate } state = .ok value { state with coordinate } := by
  rw [evaluateTest_mk, BuiltinTest.runNode, made]
  rfl

end MailSieve
