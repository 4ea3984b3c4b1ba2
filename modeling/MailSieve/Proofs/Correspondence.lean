import MailSieve.Evaluation.Command
import MailSieve.Proofs.Relocation
import Mathlib.Data.List.Forall2

/-!
# Relations that evaluation keeps

Much of what there is to say about a run compares it with another one: the same script under
another host, from another state, or written elsewhere.  Such a comparison is a relation between
computations.  If the relation holds between the few operations that evaluation is made of, and
sequencing keeps it, then it holds between the evaluations of every tree, and no claim about runs
has to walk through the commands and tests again.

* `RunRelation` is a relation that sequencing keeps; `TestOperations` adds what an implementation of
  a test does, `TestCorrespondence` the move to the position of a node, `ControlCorrespondence` the
  operations of commands that are no actions, and `Correspondence` those of all commands.
* `TestCorrespondence.related_testNode` and `Correspondence.related_commandNode` are the steps: a
  node keeps the relation if what stands below it does.
* `TestCorrespondence.related_evaluateTest`, `Correspondence.related_evaluateCommands` and
  `Correspondence.related_evaluateBlock` are the conclusions for a tree that both sides evaluate.
  If the right side has the tree with its positions changed, the conclusions are those that end in
  `_relocate`.

A property of one computation is the special case of a relation that looks at one side only.
-/

namespace MailSieve

/-! ### What readers find in a tree -/

namespace ArgumentsOf

variable {α : Type} {arguments : ArgumentsOf α}

/-- The one test that a reader finds is among the arguments. -/
theorem mem_testList_of_singleTest {test : α} (found : arguments.singleTest = .ok test) :
    test ∈ arguments.testList := by
  unfold singleTest at found
  split at found
  · split at found
    · rename_i only single
      cases found
      simp [testList, single]
    · cases found
    · cases found
  · cases found

/-- The tests that a reader finds are those of the arguments. -/
theorem testList_of_listOfTests {tests : List α} (found : arguments.listOfTests = .ok tests) :
    arguments.testList = tests := by
  unfold listOfTests at found
  split at found
  · split at found
    · rename_i all listed
      cases found
      simp [testList, listed]
    · cases found
  · cases found

end ArgumentsOf

/-- The evaluations of some tests in turn, as an implementation sees them. -/
theorem anyM_evaluations {α : Type} (evaluate : α → Run Bool) (tests : List α) :
    (tests.map evaluate).anyM id = tests.anyM evaluate := by
  induction tests with
  | nil => rfl
  | cons test rest ih => rw [List.map_cons, List.anyM_cons, List.anyM_cons, ih]; rfl

/-- The same for a search that ends at a test that does not hold. -/
theorem allM_evaluations {α : Type} (evaluate : α → Run Bool) (tests : List α) :
    (tests.map evaluate).allM id = tests.allM evaluate := by
  induction tests with
  | nil => rfl
  | cons test rest ih => rw [List.map_cons, List.allM_cons, List.allM_cons, ih]; rfl

/-! ### Relations that sequencing keeps -/

/-- A relation between computations that holds between values alone and that sequencing keeps. -/
structure RunRelation where
  Related : {α : Type} → Run α → Run α → Prop
  related_pure : ∀ {α : Type} (value : α), Related (pure value) (pure value)
  related_bind : ∀ {α β : Type} {first second : Run α} {rest others : α → Run β},
    Related first second → (∀ value, Related (rest value) (others value)) →
      Related (first >>= rest) (second >>= others)

namespace RunRelation

variable (relation : RunRelation) {α β : Type}

/-- Computations for each item of a list go on side by side if they do so item by item. -/
theorem related_mapM {items : List α} {first second : α → Run β}
    (each : ∀ item, relation.Related (first item) (second item)) :
    relation.Related (items.mapM first) (items.mapM second) := by
  induction items with
  | nil => exact relation.related_pure []
  | cons item rest ih =>
      rw [List.mapM_cons, List.mapM_cons]
      exact relation.related_bind (each item) fun value =>
        relation.related_bind ih fun values => relation.related_pure (value :: values)

/-- Two searches go on side by side if their items do, pair by pair. -/
theorem related_anyM_of_forall₂ {items : List α} {others : List β} {first : α → Run Bool}
    {second : β → Run Bool}
    (each : List.Forall₂ (fun item other => relation.Related (first item) (second other)) items
      others) :
    relation.Related (items.anyM first) (others.anyM second) := by
  induction each with
  | nil => exact relation.related_pure false
  | cons here _ ih =>
      rw [List.anyM_cons, List.anyM_cons]
      refine relation.related_bind here fun holds => ?_
      cases holds with
      | true => exact relation.related_pure true
      | false => exact ih

/-- Two searches for what does not hold go on side by side if their items do, pair by pair. -/
theorem related_allM_of_forall₂ {items : List α} {others : List β} {first : α → Run Bool}
    {second : β → Run Bool}
    (each : List.Forall₂ (fun item other => relation.Related (first item) (second other)) items
      others) :
    relation.Related (items.allM first) (others.allM second) := by
  induction each with
  | nil => exact relation.related_pure true
  | cons here _ ih =>
      rw [List.allM_cons, List.allM_cons]
      refine relation.related_bind here fun holds => ?_
      cases holds with
      | true => exact ih
      | false => exact relation.related_pure false

/-- Two searches along one list go on side by side if they do so item by item. -/
theorem related_anyM {items : List α} {first second : α → Run Bool}
    (each : ∀ item ∈ items, relation.Related (first item) (second item)) :
    relation.Related (items.anyM first) (items.anyM second) :=
  relation.related_anyM_of_forall₂ (List.forall₂_same.mpr each)

theorem related_allM {items : List α} {first second : α → Run Bool}
    (each : ∀ item ∈ items, relation.Related (first item) (second item)) :
    relation.Related (items.allM first) (items.allM second) :=
  relation.related_allM_of_forall₂ (List.forall₂_same.mpr each)

end RunRelation

/-! ### Tests -/

/-- What a node can find wrong on its own, by reading its arguments, its block or a pattern. -/
inductive Cause.OfReading : Cause → Prop
  | shape (fault : ShapeFault) : OfReading (.shape fault)
  | pattern (fault : PatternFault) : OfReading (.pattern fault)

/-- A relation between the computations of two hosts that holds between the operations of which the
implementations of tests are made. -/
structure TestOperations (left right : Host) extends RunRelation where
  related_fail : ∀ {α : Type} {cause : Cause}, cause.OfReading →
    Related (Run.fail cause : Run α) (Run.fail cause)
  related_ask : ∀ {α : Type} (call : Call) (answer : Message → α),
    Related (Run.ask left call answer) (Run.ask right call answer)
  related_test : ∀ name, Related (Run.ofExcept id (left.registries.tests.create name))
    (Run.ofExcept id (right.registries.tests.create name))
  related_comparator : ∀ name : Option String,
    Related
      (Run.ofExcept id
        (left.registries.comparators.create (name.getD left.registries.defaultComparator)))
      (Run.ofExcept id
        (right.registries.comparators.create (name.getD right.registries.defaultComparator)))

namespace TestOperations

variable {left right : Host} (correspondence : TestOperations left right)
variable {α β ε : Type}

/-- A result is used alike on both sides if its faults are found by reading. -/
theorem related_ofExcept {toCause : ε → Cause} (reads : ∀ reason, (toCause reason).OfReading)
    (result : Except ε α) :
    correspondence.Related (Run.ofExcept toCause result) (Run.ofExcept toCause result) := by
  cases result with
  | ok value => exact correspondence.related_pure value
  | error reason => exact correspondence.related_fail (reads reason)

theorem related_ofShape (result : Except ShapeFault α) :
    correspondence.Related (Run.ofShape result) (Run.ofShape result) :=
  correspondence.related_ofExcept .shape result

/-- Readers find the same on both sides, except that each side has its own form of what was
found. -/
theorem related_ofShape_map {γ : Type} (result : Except ShapeFault γ) (first second : γ → α)
    {rest others : α → Run β}
    (found : ∀ value, result = .ok value →
      correspondence.Related (rest (first value)) (others (second value))) :
    correspondence.Related (Run.ofShape (result.map first) >>= rest)
      (Run.ofShape (result.map second) >>= others) := by
  cases result with
  | ok value => exact found value rfl
  | error fault => exact correspondence.related_fail (.shape fault)

/-! #### The evaluation of a test -/

/-- The values of headers are collected alike, call by call. -/
theorem related_headerValues (names : List String) :
    correspondence.Related (BuiltinTest.headerValues left names)
      (BuiltinTest.headerValues right names) :=
  correspondence.related_bind
    (correspondence.related_mapM fun name =>
      correspondence.related_ask (.matchingHeader name) (·.valuesMatching name))
    fun values => correspondence.related_pure values.flatten

/-- Comparisons go on alike once the comparators are made alike. -/
theorem related_compareAny (comparator : Option String) (matchType : MatchType)
    (values keys : List String) :
    correspondence.Related (BuiltinTest.compareAny left comparator matchType values keys)
      (BuiltinTest.compareAny right comparator matchType values keys) :=
  correspondence.related_bind (correspondence.related_comparator comparator) fun made =>
    correspondence.related_ofExcept .pattern (made.compareAny matchType values keys)

/-- An implementation keeps the relation if the tests among its arguments have it. -/
theorem related_evaluate (test : BuiltinTest) (arguments : ArgumentsOf α)
    {first second : α → Run Bool}
    (nested : ∀ inner ∈ arguments.testList, correspondence.Related (first inner) (second inner)) :
    correspondence.Related (test.evaluate left (arguments.map first))
      (test.evaluate right (arguments.map second)) := by
  -- an implementation reads its arguments first, and then asks its tests or the message
  cases test with
  | constant value => exact correspondence.related_pure value
  | negation =>
      simp only [BuiltinTest.evaluate, ArgumentsOf.singleTest_map]
      refine correspondence.related_ofShape_map _ _ _ fun inner found => ?_
      exact correspondence.related_bind
        (nested inner (ArgumentsOf.mem_testList_of_singleTest found))
        fun holds => correspondence.related_pure !holds
  | anyOf =>
      simp only [BuiltinTest.evaluate, ArgumentsOf.listOfTests_map]
      refine correspondence.related_ofShape_map _ _ _ fun tests found => ?_
      rw [anyM_evaluations, anyM_evaluations]
      exact correspondence.related_anyM (ArgumentsOf.testList_of_listOfTests found ▸ nested)
  | allOf =>
      simp only [BuiltinTest.evaluate, ArgumentsOf.listOfTests_map]
      refine correspondence.related_ofShape_map _ _ _ fun tests found => ?_
      rw [allM_evaluations, allM_evaluations]
      exact correspondence.related_allM (ArgumentsOf.testList_of_listOfTests found ▸ nested)
  | header =>
      simp only [BuiltinTest.evaluate, ArgumentsOf.matchArguments_map]
      refine correspondence.related_bind (correspondence.related_ofShape _) fun wanted => ?_
      exact correspondence.related_bind (correspondence.related_headerValues wanted.headerNames)
        fun values => correspondence.related_compareAny wanted.comparator wanted.matchType values
          wanted.keys
  | presence =>
      simp only [BuiltinTest.evaluate, ArgumentsOf.stringList_map]
      refine correspondence.related_bind (correspondence.related_ofShape _) fun names => ?_
      refine correspondence.related_allM fun name _ => ?_
      exact correspondence.related_bind
        (correspondence.related_ask (.matchingHeader name) (·.valuesMatching name))
        fun values => correspondence.related_pure !values.isEmpty
  | address =>
      simp only [BuiltinTest.evaluate, ArgumentsOf.matchArguments_map]
      refine correspondence.related_bind (correspondence.related_ofShape _) fun wanted => ?_
      exact correspondence.related_bind (correspondence.related_headerValues wanted.headerNames)
        fun values => correspondence.related_compareAny wanted.comparator wanted.matchType _
          wanted.keys
  | size =>
      simp only [BuiltinTest.evaluate, ArgumentsOf.sizeLimit_map]
      refine correspondence.related_bind (correspondence.related_ofShape _) fun wanted => ?_
      exact correspondence.related_bind (correspondence.related_ask .size (·.size))
        fun size => correspondence.related_pure (wanted.1.holds size wanted.2.toNat)

end TestOperations

/-- A relation between the computations of two hosts that holds between the operations of which
tests are made, where the right side stands elsewhere: at the position that `move` gives. -/
structure TestCorrespondence (left right : Host) (move : Coordinate → Coordinate := id) extends
    TestOperations left right where
  related_moveTo : ∀ coordinate, Related (Run.moveTo coordinate) (Run.moveTo (move coordinate))

namespace TestCorrespondence

variable {left right : Host}

section Move

variable {move : Coordinate → Coordinate} (correspondence : TestCorrespondence left right move)

/-- A node keeps the relation if the tests among its arguments have it. -/
theorem related_testNode {α : Type} (name : String) (arguments : ArgumentsOf α)
    {first second : α → Run Bool} (coordinate : Coordinate)
    (nested : ∀ inner ∈ arguments.testList, correspondence.Related (first inner) (second inner)) :
    correspondence.Related (BuiltinTest.runNode left name (arguments.map first) coordinate)
      (BuiltinTest.runNode right name (arguments.map second) (move coordinate)) := by
  simp only [BuiltinTest.runNode, BuiltinTest.validateArguments_map]
  refine correspondence.related_bind (correspondence.related_moveTo coordinate) fun _ => ?_
  refine correspondence.related_bind (correspondence.related_test name) fun test => ?_
  refine correspondence.related_bind (correspondence.related_ofShape _) fun _ => ?_
  exact correspondence.related_evaluate test arguments nested

/-- **Tests keep the relation**, written elsewhere on the right. -/
theorem related_evaluateTest_relocate (test : Test) :
    correspondence.Related (evaluateTest left test) (evaluateTest right (test.relocate move)) := by
  induction test using Test.induction with
  | node name arguments coordinate nested =>
      rw [Test.relocate_mk, evaluateTest_mk, evaluateTest_mk, ArgumentsOf.map_map]
      exact correspondence.related_testNode name arguments coordinate nested

end Move

/-- **Tests keep the relation.** -/
theorem related_evaluateTest (correspondence : TestCorrespondence left right) (test : Test) :
    correspondence.Related (evaluateTest left test) (evaluateTest right test) := by
  have related := correspondence.related_evaluateTest_relocate test
  rwa [Test.relocate_id] at related

end TestCorrespondence

/-! ### Commands -/

/-- A relation between the computations of two hosts that holds between the operations of which
commands are made up to the point where they act, and those that are no actions up to their end. -/
structure ControlCorrespondence (left right : Host) (move : Coordinate → Coordinate := id) extends
    TestCorrespondence left right move where
  related_command : ∀ name, Related (Run.ofExcept id (left.registries.commands.create name))
    (Run.ofExcept id (right.registries.commands.create name))
  related_order : ∀ command : BuiltinCommand,
    Related (get >>= fun state => Run.ofExcept .order (command.validateState state))
      (get >>= fun state => Run.ofExcept .order (command.validateState state))
  related_feature : ∀ feature, Related (BuiltinCommand.requireFeature left.registries feature)
    (BuiltinCommand.requireFeature right.registries feature)
  related_current : Related (get >>= fun state => pure state.scopes.current)
    (get >>= fun state => pure state.scopes.current)
  related_record : ∀ result, Related (Run.setScopes (·.record result))
    (Run.setScopes (·.record result))
  related_write : ∀ level message, Related (Run.write level message) (Run.write level message)
  related_enter : ∀ command : BuiltinCommand, Related (Run.setFlags command.enterFlags)
    (Run.setFlags command.enterFlags)

namespace ControlCorrespondence

variable {left right : Host} {move : Coordinate → Coordinate}
variable (correspondence : ControlCorrespondence left right move)
variable {α β : Type}

/-- The checks of a command go on alike, step by step, with the position moved on the right. -/
theorem related_prepare (name : String) (arguments : ArgumentsOf α) (first second : α → Run Bool)
    (block : Option β) (coordinate : Coordinate) :
    correspondence.Related
      (BuiltinCommand.prepare left name (arguments.map first) block coordinate)
      (BuiltinCommand.prepare right name (arguments.map second) block (move coordinate)) := by
  simp only [BuiltinCommand.prepare, BuiltinCommand.validateArguments_map]
  refine correspondence.related_bind (correspondence.related_moveTo coordinate) fun _ => ?_
  refine correspondence.related_bind (correspondence.related_command name) fun command => ?_
  simp only [← bind_assoc]
  refine correspondence.related_bind ?_ fun _ => correspondence.related_pure command
  refine correspondence.related_bind ?_ fun _ => correspondence.related_ofShape _
  refine correspondence.related_bind ?_ fun _ => correspondence.related_ofShape _
  exact correspondence.related_bind (correspondence.related_order command)
    fun _ => correspondence.related_enter command

/-- A guarded branch keeps the relation if its guard has it. -/
theorem related_actGuarded (arguments : ArgumentsOf α) {first second : α → Run Bool}
    (block : Option β)
    (guards : ∀ guard ∈ arguments.testList, correspondence.Related (first guard) (second guard)) :
    correspondence.Related (BuiltinCommand.actGuarded (arguments.map first) block)
      (BuiltinCommand.actGuarded (arguments.map second) block) := by
  simp only [BuiltinCommand.actGuarded, ArgumentsOf.singleTest_map]
  refine correspondence.related_ofShape_map _ _ _ fun guard found => ?_
  refine correspondence.related_bind (correspondence.related_ofShape _) fun block => ?_
  refine correspondence.related_bind
    (guards guard (ArgumentsOf.mem_testList_of_singleTest found)) fun holds => ?_
  exact correspondence.related_bind (correspondence.related_record holds)
    fun _ => correspondence.related_pure _

/-- Where a command looks whether a branch of its chain has been taken. -/
theorem related_untilTaken {first second : Run (Next β)}
    (untaken : correspondence.Related first second) :
    correspondence.Related
      (get >>= fun state =>
        if state.scopes.current = some false then first else pure (.done .proceed))
      (get >>= fun state =>
        if state.scopes.current = some false then second else pure (.done .proceed)) := by
  let choose (run : Run (Next β)) (current : Option Bool) : Run (Next β) :=
    if current = some false then run else pure (.done .proceed)
  have chosen : ∀ current,
      correspondence.Related (choose first current) (choose second current) := by
    intro current
    by_cases untakenYet : current = some false
    · simpa only [choose, if_pos untakenYet] using untaken
    · simpa only [choose, if_neg untakenYet] using correspondence.related_pure _
  have read : ∀ run, (get >>= fun state =>
      if state.scopes.current = some false then run else pure (.done .proceed)) =
        (get >>= fun state => pure state.scopes.current) >>= choose run := by
    intro run
    rfl
  rw [read first, read second]
  exact correspondence.related_bind correspondence.related_current chosen

/-- The own part of a command that is no action keeps the relation. -/
theorem related_act_of_kind_ne {command : BuiltinCommand} (other : command.kind ≠ .action)
    (arguments : ArgumentsOf α) {first second : α → Run Bool} (block : Option β)
    (guards : ∀ guard ∈ arguments.testList, correspondence.Related (first guard) (second guard)) :
    correspondence.Related (command.act left (arguments.map first) block)
      (command.act right (arguments.map second) block) := by
  cases command with
  | require =>
      simp only [BuiltinCommand.act, ArgumentsOf.stringList_map]
      refine correspondence.related_bind (correspondence.related_ofShape _) fun features => ?_
      refine correspondence.related_bind ?_ fun _ => correspondence.related_pure _
      -- the features are asked for in turn, until one is refused
      induction features with
      | nil => exact correspondence.related_pure PUnit.unit
      | cons feature rest ih =>
          exact correspondence.related_bind (correspondence.related_feature feature) fun _ => ih
  | branch member =>
      cases member with
      | opening => exact correspondence.related_actGuarded arguments block guards
      | alternative =>
          exact correspondence.related_untilTaken
            (correspondence.related_actGuarded arguments block guards)
      | fallback =>
          refine correspondence.related_untilTaken ?_
          rw [map_eq_pure_bind]
          exact correspondence.related_bind (correspondence.related_ofShape _)
            fun inner => correspondence.related_pure (Next.block inner)
  | stop => exact correspondence.related_pure _
  | action own => exact absurd rfl other
  | log =>
      simp only [BuiltinCommand.act, ArgumentsOf.logMessage_map]
      refine correspondence.related_bind (correspondence.related_ofShape _) fun entry => ?_
      exact correspondence.related_bind (correspondence.related_write entry.1 entry.2)
        fun _ => correspondence.related_pure _

end ControlCorrespondence

/-- A relation between the computations of two hosts that holds between the operations of which
tests and commands are made. -/
structure Correspondence (left right : Host) (move : Coordinate → Coordinate := id) extends
    ControlCorrespondence left right move where
  related_collect : ∀ action, Related (Run.collect left action) (Run.collect right action)
  related_update : ∀ command : BuiltinCommand, Related (Run.setFlags command.updateFlags)
    (Run.setFlags command.updateFlags)
  related_leave : ∀ command : BuiltinCommand, Related (Run.setScopes command.leaveScopes)
    (Run.setScopes command.leaveScopes)
  related_inScope : ∀ {first second : Run Flow}, Related first second →
    Related (Run.inScope first) (Run.inScope second)

namespace Correspondence

variable {left right : Host}

section Move

variable {move : Coordinate → Coordinate} (correspondence : Correspondence left right move)
variable {α β : Type}

/-- The own part of a command keeps the relation if its guards have it. -/
theorem related_act (command : BuiltinCommand) (arguments : ArgumentsOf α)
    {first second : α → Run Bool} (block : Option β)
    (guards : ∀ guard ∈ arguments.testList, correspondence.Related (first guard) (second guard)) :
    correspondence.Related (command.act left (arguments.map first) block)
      (command.act right (arguments.map second) block) := by
  by_cases isAction : command.kind = .action
  · obtain ⟨own, rfl⟩ := BuiltinCommand.eq_action_of_kind_eq isAction
    simp only [BuiltinCommand.act, ActionCommand.actionOf_map]
    refine correspondence.related_bind (correspondence.related_ofShape _) fun action => ?_
    exact correspondence.related_bind (correspondence.related_collect action)
      fun _ => correspondence.related_pure _
  · exact correspondence.related_act_of_kind_ne isAction arguments block guards

/-- What comes behind the execution keeps the relation. -/
theorem related_conclude (command : BuiltinCommand) (coordinate : Coordinate) :
    correspondence.Related (command.conclude coordinate) (command.conclude (move coordinate)) :=
  correspondence.related_bind (correspondence.related_moveTo coordinate) fun _ =>
    correspondence.related_bind (correspondence.related_update command) fun _ =>
      correspondence.related_leave command

/-- A node keeps the relation if its guards and its block have it. -/
theorem related_commandNode (name : String) (arguments : ArgumentsOf α)
    {first second : α → Run Bool} (block : Option β) {run other : β → Run Flow}
    (coordinate : Coordinate)
    (guards : ∀ guard ∈ arguments.testList, correspondence.Related (first guard) (second guard))
    (blocks : ∀ inner ∈ block, correspondence.Related (run inner) (other inner)) :
    correspondence.Related
      (BuiltinCommand.runNode left name (arguments.map first) (block.map run) coordinate)
      (BuiltinCommand.runNode right name (arguments.map second) (block.map other)
        (move coordinate)) := by
  refine correspondence.related_bind ?_ fun command => ?_
  · simp only [BuiltinCommand.prepare, BuiltinCommand.validateBlock_map]
    exact correspondence.related_prepare name arguments first second block coordinate
  refine correspondence.related_bind ?_ fun flow =>
    correspondence.related_bind (correspondence.related_conclude command coordinate)
      fun _ => correspondence.related_pure flow
  -- what comes next is known to be the block of this node, for which the hypothesis holds
  have attached : ∀ body : β → Run Flow,
      block.map body = block.attach.map (body ∘ Subtype.val) := by
    intro body
    exact (Option.attach_map_val block body).symm
  simp only [BuiltinCommand.execute, attached, BuiltinCommand.act_map, bind_map_left, Next.run_map]
  refine correspondence.related_bind
    (correspondence.related_act command arguments block.attach guards) fun next => ?_
  cases next with
  | done flow => exact correspondence.related_pure flow
  | block inner => exact blocks inner.1 inner.2

/-- Runs of several commands keep the relation if each command has it. -/
theorem related_sequence {items : List α} {first second : α → Run Flow}
    (each : ∀ item ∈ items, correspondence.Related (first item) (second item)) :
    correspondence.Related (Run.sequence (items.map first)) (Run.sequence (items.map second)) := by
  induction items with
  | nil => exact correspondence.related_pure Flow.proceed
  | cons item rest ih =>
      obtain ⟨here, later⟩ := List.forall_mem_cons.mp each
      refine correspondence.related_bind here fun flow => ?_
      cases flow with
      | stop => exact correspondence.related_pure Flow.stop
      | proceed => exact ih later

/-- The same for commands that are written elsewhere on the right. -/
theorem related_evaluateCommands_of_each {commands : List Command}
    (each : ∀ command ∈ commands, correspondence.Related (evaluateCommand left command)
      (evaluateCommand right (command.relocate move))) :
    correspondence.Related (evaluateCommands left commands)
      (evaluateCommands right (commands.map (Command.relocate move))) := by
  rw [evaluateCommands, evaluateCommands, List.map_map]
  exact correspondence.related_sequence each

/-- **Commands keep the relation**, written elsewhere on the right. -/
theorem related_evaluateCommand_relocate (command : Command) :
    correspondence.Related (evaluateCommand left command)
      (evaluateCommand right (command.relocate move)) := by
  induction command using Command.induction with
  | node name arguments block coordinate nested =>
      rw [Command.relocate_mk, evaluateCommand_mk, evaluateCommand_mk, ArgumentsOf.map_map,
        Option.map_map]
      refine correspondence.related_commandNode name arguments block coordinate
        (fun guard _ => correspondence.related_evaluateTest_relocate guard)
        fun commands present => ?_
      refine correspondence.related_inScope
        (correspondence.related_evaluateCommands_of_each fun command inside => nested command ?_)
      rwa [Option.mem_def.mp present]

/-- Lists of commands keep the relation, written elsewhere on the right. -/
theorem related_evaluateCommands_relocate (commands : List Command) :
    correspondence.Related (evaluateCommands left commands)
      (evaluateCommands right (commands.map (Command.relocate move))) :=
  correspondence.related_evaluateCommands_of_each fun command _ =>
    correspondence.related_evaluateCommand_relocate command

end Move

variable (correspondence : Correspondence left right)

/-- **Commands keep the relation.** -/
theorem related_evaluateCommand (command : Command) :
    correspondence.Related (evaluateCommand left command) (evaluateCommand right command) := by
  have related := correspondence.related_evaluateCommand_relocate command
  rwa [Command.relocate_id] at related

/-- Lists of commands keep the relation. -/
theorem related_evaluateCommands (commands : List Command) :
    correspondence.Related (evaluateCommands left commands) (evaluateCommands right commands) :=
  correspondence.related_sequence fun command _ => correspondence.related_evaluateCommand command

/-- Blocks keep the relation. -/
theorem related_evaluateBlock (commands : List Command) :
    correspondence.Related (evaluateBlock left commands) (evaluateBlock right commands) :=
  correspondence.related_inScope (correspondence.related_evaluateCommands commands)

end Correspondence

end MailSieve
