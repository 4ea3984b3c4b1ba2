import MailSieve.Proofs.Boundary

/-!
# Which actions a run adds

A run makes calls on the message, and the state keeps all of them, failed ones included.  Of these
calls only those that add an action change the message, and only if they do not fail.  So what a run
has done to the message can be read off the calls that it has made.

* `Failures.accepted` reads the actions off a row of calls.
* `OnlyAsks`: a computation that leaves the message as it is and makes no call but questions.
  `onlyAsks_evaluateTest`: tests are such computations, and `onlyAsks_act`: commands that are no
  actions are up to their blocks.
* `State.Booked`: between two states the message has got the actions of the calls made in between,
  behind those that were pending, and nothing else has changed in it.
* `booked_begin` is the step for one command up to its block, and `booked_evaluateCommands` the run;
  `booked_execute` is the same for the execution of a command by itself.
-/

namespace MailSieve

/-! ### Rows of calls -/

/-- The action that a call adds to the message if it does not fail. -/
def Call.action? : Call → Option Action
  | addAction action => some action
  | header _ | matchingHeader _ | headerNames | size => none

namespace Failures

/-- The actions that a row of calls, made behind others, adds to the message: those of the calls
that do not fail. -/
def accepted (failures : Failures) (earlier : List Call) : List Call → List Action
  | [] => []
  | call :: rest =>
      (if (failures earlier call).isNone then call.action?.toList else []) ++
        failures.accepted (earlier ++ [call]) rest

variable (failures : Failures)

/-- The actions of two rows of calls are those of the first and behind them those of the second,
whose calls are made after the first. -/
theorem accepted_append (earlier made more : List Call) :
    failures.accepted earlier (made ++ more) =
      failures.accepted earlier made ++ failures.accepted (earlier ++ made) more := by
  induction made generalizing earlier with
  | nil => simp [accepted]
  | cons call rest ih =>
      rw [List.cons_append, accepted, accepted, ih, List.append_assoc, List.append_assoc]
      rfl

/-- An action that is refused is not added. -/
theorem accepted_of_some {earlier : List Call} {action : Action} {fault : MailFault}
    (refused : failures earlier (.addAction action) = some fault) :
    failures.accepted earlier [.addAction action] = [] := by
  simp [accepted, refused]

/-- An action that is not refused is added. -/
theorem accepted_of_none {earlier : List Call} {action : Action}
    (taken : failures earlier (.addAction action) = Option.none) :
    failures.accepted earlier [.addAction action] = [action] := by
  simp [accepted, taken, Call.action?]

/-- Questions add nothing. -/
theorem accepted_of_questions {questions : List Call} (earlier : List Call)
    (only : ∀ call ∈ questions, call.action? = Option.none) :
    failures.accepted earlier questions = [] := by
  induction questions generalizing earlier with
  | nil => rfl
  | cons call rest ih =>
      obtain ⟨first, later⟩ := List.forall_mem_cons.mp only
      rw [accepted, ih _ later, first]
      simp

end Failures

/-! ### Questions -/

/-- Between the two states there were only questions to the message. -/
structure State.Questioned (before after : State) : Prop where
  message : after.message = before.message
  calls : ∃ questions, after.calls = before.calls ++ questions ∧
    ∀ call ∈ questions, call.action? = none

namespace State.Questioned

variable {first second third : State}

/-- What a run notes for itself is no call. -/
theorem of_eq (message : second.message = first.message) (calls : second.calls = first.calls) :
    first.Questioned second :=
  ⟨message, [], by rw [calls, List.append_nil], nofun⟩

theorem refl (state : State) : state.Questioned state := .of_eq rfl rfl

theorem trans (here : first.Questioned second) (there : second.Questioned third) :
    first.Questioned third := by
  obtain ⟨asked, made, only⟩ := here.calls
  obtain ⟨more, madeMore, onlyMore⟩ := there.calls
  refine ⟨there.message.trans here.message, asked ++ more, ?_, ?_⟩
  · rw [madeMore, made, List.append_assoc]
  · exact List.forall_mem_append.mpr ⟨only, onlyMore⟩

end State.Questioned

/-- The computation leaves the message as it is, and makes no call on it but questions. -/
def OnlyAsks {α : Type} (run : Run α) : Prop :=
  ∀ state : State, state.Questioned (run.finalState state)

/-- Computations that only ask can be sequenced. -/
def onlyAsking : RunRelation where
  Related run _ := OnlyAsks run
  related_pure _ := State.Questioned.refl
  related_bind {_ _ first _ rest _} here later := by
    intro state
    have asked := here state
    rw [Run.finalState_bind]
    cases ended : first state with
    | ok value after =>
        rw [Run.finalState_of_ok ended] at asked
        exact asked.trans (later value after)
    | error error after => rwa [Run.finalState_of_error ended] at asked

namespace OnlyAsks

variable {host : Host} {α β ε : Type}

theorem pure (value : α) : OnlyAsks (Pure.pure value) := State.Questioned.refl

/-- One computation after another only asks if both do. -/
theorem bind {first : Run α} {rest : α → Run β} (here : OnlyAsks first)
    (later : ∀ value, OnlyAsks (rest value)) : OnlyAsks (first >>= rest) := by
  show onlyAsking.Related (first >>= rest) (first >>= rest)
  exact onlyAsking.related_bind here later

theorem mapM {items : List α} {each : α → Run β} (only : ∀ item, OnlyAsks (each item)) :
    OnlyAsks (items.mapM each) := by
  show onlyAsking.Related (items.mapM each) (items.mapM each)
  exact onlyAsking.related_mapM only

theorem anyM {items : List α} {holds : α → Run Bool} (only : ∀ item ∈ items, OnlyAsks (holds item)) :
    OnlyAsks (items.anyM holds) := by
  show onlyAsking.Related (items.anyM holds) (items.anyM holds)
  exact onlyAsking.related_anyM only

theorem allM {items : List α} {holds : α → Run Bool} (only : ∀ item ∈ items, OnlyAsks (holds item)) :
    OnlyAsks (items.allM holds) := by
  show onlyAsking.Related (items.allM holds) (items.allM holds)
  exact onlyAsking.related_allM only

theorem ofExcept (toCause : ε → Cause) (result : Except ε α) :
    OnlyAsks (Run.ofExcept toCause result) := by
  intro state
  cases result <;> exact .refl state

/-- What is found by a reader is used, or else there is a fault. -/
theorem ofShape_map {γ : Type} {result : Except ShapeFault γ} {f : γ → α} {rest : α → Run β}
    (found : ∀ value, result = .ok value → OnlyAsks (rest (f value))) :
    OnlyAsks (Run.ofShape (result.map f) >>= rest) := by
  cases result with
  | ok value => exact found value rfl
  | error fault => exact State.Questioned.refl

/-- What changes neither the message nor the calls asks nothing. -/
theorem modify {change : State → State} (message : ∀ state, (change state).message = state.message)
    (calls : ∀ state, (change state).calls = state.calls) :
    OnlyAsks (modify change : Run Unit) :=
  fun state => .of_eq (message state) (calls state)

/-- A call that adds no action is a question. -/
theorem ask {call : Call} (question : call.action? = none) (answer : Message → α) :
    OnlyAsks (Run.ask host call answer) := by
  intro state
  have asked : state.Questioned { state with calls := state.calls ++ [call] } :=
    ⟨rfl, [call], rfl, List.forall_mem_singleton.mpr question⟩
  rw [Run.finalState, Run.ask_apply]
  cases host.failures state.calls call <;> exact asked

end OnlyAsks

section Tests

variable {host : Host}

/-- To collect the values of headers is to ask for them. -/
theorem onlyAsks_headerValues (names : List String) :
    OnlyAsks (BuiltinTest.headerValues host names) :=
  .bind (.mapM fun _ => .ask rfl _) fun _ => .pure _

/-- A comparison makes no calls at all. -/
theorem onlyAsks_compareAny (comparator : Option String) (matchType : MatchType)
    (values keys : List String) :
    OnlyAsks (BuiltinTest.compareAny host comparator matchType values keys) :=
  .bind (.ofExcept _ _) fun _ => .ofExcept _ _

/-- An implementation of a test only asks if the tests among its arguments do. -/
theorem onlyAsks_evaluate (test : BuiltinTest) {arguments : Arguments}
    (nested : ∀ inner ∈ arguments.testList, OnlyAsks (evaluateTest host inner)) :
    OnlyAsks (test.evaluate host (arguments.map (evaluateTest host))) := by
  cases test with
  | constant value => exact .pure value
  | negation =>
      simp only [BuiltinTest.evaluate, ArgumentsOf.singleTest_map]
      refine .ofShape_map fun inner found => ?_
      exact .bind (nested inner (ArgumentsOf.mem_testList_of_singleTest found)) fun _ => .pure _
  | anyOf =>
      simp only [BuiltinTest.evaluate, ArgumentsOf.listOfTests_map]
      refine .ofShape_map fun tests found => ?_
      rw [anyM_evaluations]
      exact .anyM (ArgumentsOf.testList_of_listOfTests found ▸ nested)
  | allOf =>
      simp only [BuiltinTest.evaluate, ArgumentsOf.listOfTests_map]
      refine .ofShape_map fun tests found => ?_
      rw [allM_evaluations]
      exact .allM (ArgumentsOf.testList_of_listOfTests found ▸ nested)
  | header | address =>
      refine .bind (.ofExcept _ _) fun wanted => ?_
      exact .bind (onlyAsks_headerValues wanted.headerNames) fun _ => onlyAsks_compareAny _ _ _ _
  | presence =>
      refine .bind (.ofExcept _ _) fun names => .allM fun name _ => ?_
      exact .bind (.ask rfl _) fun _ => .pure _
  | size =>
      refine .bind (.ofExcept _ _) fun wanted => ?_
      exact .bind (.ask rfl _) fun _ => .pure _

/-- **Tests only ask**, by induction on the tree. -/
theorem onlyAsks_evaluateTest (test : Test) : OnlyAsks (evaluateTest host test) := by
  induction test using Test.induction with
  | node name arguments coordinate nested =>
      rw [evaluateTest_mk]
      refine .bind (.modify (fun _ => rfl) fun _ => rfl) fun _ => ?_
      refine .bind (.ofExcept _ _) fun test => ?_
      exact .bind (.ofExcept _ _) fun _ => onlyAsks_evaluate test nested

end Tests

section Act

variable {host : Host} {β : Type}

/-- The own part of a guarded branch is its guard, which only asks. -/
theorem onlyAsks_actGuarded (arguments : Arguments) (block : Option β) :
    OnlyAsks (BuiltinCommand.actGuarded (arguments.map (evaluateTest host)) block) := by
  simp only [BuiltinCommand.actGuarded, ArgumentsOf.singleTest_map]
  refine .ofShape_map fun guard _ => .bind (.ofExcept _ _) fun _ => ?_
  refine .bind (onlyAsks_evaluateTest guard) fun _ => ?_
  exact .bind (.modify (fun _ => rfl) fun _ => rfl) fun _ => .pure _

/-- Where a command looks at the state before it goes on. -/
theorem OnlyAsks.get_bind {α : Type} {rest : State → Run α} (only : ∀ state, OnlyAsks (rest state)) :
    OnlyAsks (get >>= rest) :=
  fun state => only state state

/-- **A command that is no action only asks**, up to its block. -/
theorem onlyAsks_act {implementation : BuiltinCommand} (other : implementation.kind ≠ .action)
    (arguments : Arguments) (block : Option β) :
    OnlyAsks (implementation.act host (arguments.map (evaluateTest host)) block) := by
  -- up to its block a command asks its guard, and otherwise it only reads
  cases implementation with
  | require =>
      intro state
      rw [BuiltinCommand.finalState_act_require]
      exact .refl state
  | branch member =>
      cases member with
      | opening => exact onlyAsks_actGuarded arguments block
      | alternative =>
          refine .get_bind fun state => ?_
          split
          · exact onlyAsks_actGuarded arguments block
          · exact .pure _
      | fallback =>
          refine .get_bind fun state => ?_
          split
          · rw [map_eq_pure_bind]
            exact .bind (.ofExcept _ _) fun _ => .pure _
          · exact .pure _
  | stop => exact .pure _
  | action own => exact absurd rfl other
  | log =>
      refine .bind (.ofExcept _ _) fun wanted => ?_
      exact .bind (.modify (fun _ => rfl) fun _ => rfl) fun _ => .pure _

end Act

/-! ### Bookkeeping -/

/-- Between the two states calls were made, and the message has got the actions of those that did
not fail, in their order and behind those that were pending.  Nothing else in it has changed. -/
def State.Booked (failures : Failures) (before after : State) : Prop :=
  ∃ made, after.calls = before.calls ++ made ∧
    after.message = { before.message with
      pending := before.message.pending ++ failures.accepted before.calls made }

namespace State.Booked

variable {failures : Failures} {first second third : State}

/-- Questions leave nothing to book. -/
theorem of_questioned (asked : first.Questioned second) : first.Booked failures second := by
  obtain ⟨message, questions, made, only⟩ := asked
  refine ⟨questions, made, ?_⟩
  rw [failures.accepted_of_questions _ only, List.append_nil, message]

theorem refl (state : State) : state.Booked failures state := .of_questioned (.refl state)

theorem trans (here : first.Booked failures second) (there : second.Booked failures third) :
    first.Booked failures third := by
  obtain ⟨made, calls, message⟩ := here
  obtain ⟨more, callsMore, messageMore⟩ := there
  refine ⟨made ++ more, ?_, ?_⟩
  · rw [callsMore, calls, List.append_assoc]
  · rw [messageMore, message, calls, failures.accepted_append, List.append_assoc]

/-- An action that is refused leaves a call behind. -/
theorem of_refused {action : Action} {fault : MailFault}
    (refused : failures first.calls (.addAction action) = some fault) :
    first.Booked failures { first with calls := first.calls ++ [.addAction action] } := by
  refine ⟨[.addAction action], rfl, ?_⟩
  rw [failures.accepted_of_some refused, List.append_nil]

/-- An action that is not refused is added. -/
theorem of_taken {action : Action}
    (taken : failures first.calls (.addAction action) = none) :
    first.Booked failures { first with
      calls := first.calls ++ [.addAction action]
      message := first.message.addAction action } := by
  refine ⟨[.addAction action], rfl, ?_⟩
  rw [failures.accepted_of_none taken]
  rfl

/-- What a run notes for itself is not booked. -/
theorem then_eq (here : first.Booked failures second) (message : third.message = second.message)
    (calls : third.calls = second.calls) : first.Booked failures third :=
  here.trans (.of_questioned (.of_eq message calls))

end State.Booked

section Commands

variable (host : Host)

/-- **What a command does itself is booked**: an action has made one call, and any other command has
only asked. -/
theorem booked_act {β : Type} (implementation : BuiltinCommand) (arguments : Arguments)
    (block : Option β) (state : State) :
    state.Booked host.failures
      ((implementation.act host (arguments.map (evaluateTest host)) block).finalState state) := by
  by_cases isAction : implementation.kind = .action
  · obtain ⟨own, rfl⟩ := BuiltinCommand.eq_action_of_kind_eq isAction
    rw [Run.finalState, BuiltinCommand.act_action_apply]
    cases own.actionOf (arguments.map (evaluateTest host)) with
    | error fault => exact .refl state
    | ok action =>
        dsimp only
        cases refused : host.failures state.calls (.addAction action) with
        | some fault => exact .of_refused refused
        | none => exact .of_taken refused
  · exact .of_questioned (onlyAsks_act isAction arguments block state)

/-- **The step**: what a command does up to its block is booked. -/
theorem booked_begin (command : Command) (state : State) :
    state.Booked host.failures ((command.begin host).finalState state) := by
  obtain ⟨flags, left⟩ := BuiltinCommand.exists_flags_of_prepare host command.name
    (command.arguments.map (evaluateTest host)) command.block command.coordinate state
  rw [Command.finalState_begin]
  cases prepared : BuiltinCommand.prepare host command.name
      (command.arguments.map (evaluateTest host)) command.block command.coordinate state with
  | error error after =>
      rw [Run.finalState_of_error prepared] at left
      rw [left]
      exact .of_questioned (.of_eq rfl rfl)
  | ok implementation entered =>
      rw [Run.finalState_of_ok prepared] at left
      have checked : state.Booked host.failures entered := by
        rw [left]
        exact .of_questioned (.of_eq rfl rfl)
      exact checked.trans (booked_act host implementation command.arguments command.block entered)

/-- What has been booked since a state stays so from one boundary of a run to the next. -/
def bookkeeping (origin : State) : BoundaryInvariant host where
  Holds state := origin.Booked host.failures state
  failed {command state _ _} booked began := by
    have here := booked_begin host command state
    rw [Run.finalState_of_error began] at here
    exact booked.trans here
  entered {command state _ _ _} booked began := by
    have here := booked_begin host command state
    rw [Run.finalState_of_ok began] at here
    exact (booked.trans here).then_eq rfl rfl
  left booked := booked.then_eq rfl rfl
  closed _ booked := booked.then_eq rfl rfl
  done {command state _ _ _} booked began := by
    have here := booked_begin host command state
    rw [Run.finalState_of_ok began] at here
    exact (booked.trans here).then_eq rfl rfl

/-- **What a command does is booked**, its block included. -/
theorem booked_evaluateCommand (command : Command) (state : State) :
    state.Booked host.failures ((evaluateCommand host command).finalState state) :=
  (bookkeeping host state).finalState_evaluateCommand command state (.refl state)

/-- **What a run does is booked.** -/
theorem booked_evaluateCommands (commands : List Command) (state : State) :
    state.Booked host.failures ((evaluateCommands host commands).finalState state) :=
  (bookkeeping host state).of_boundary (.finalState host commands state) (.refl state)

/-- What a block does is booked, for its scope is no part of the message. -/
theorem booked_evaluateBlock (commands : List Command) (state : State) :
    state.Booked host.failures ((evaluateBlock host commands).finalState state) := by
  have entered : state.Booked host.failures { state with scopes := state.scopes.push } :=
    (State.Booked.refl state).then_eq rfl rfl
  rw [evaluateBlock, Run.finalState_inScope]
  exact (entered.trans (booked_evaluateCommands host commands _)).then_eq rfl rfl

/-- The execution of a command is booked, be it admitted or not. -/
theorem booked_execute (implementation : BuiltinCommand) (arguments : Arguments)
    (block : Option (List Command)) (state : State) :
    state.Booked host.failures
      ((implementation.execute host (arguments.map (evaluateTest host))
        (block.map (evaluateBlock host))).finalState state) := by
  have own := booked_act host implementation arguments block state
  rw [BuiltinCommand.execute, BuiltinCommand.act_map, bind_map_left, Run.finalState_bind]
  cases acted : implementation.act host (arguments.map (evaluateTest host)) block state with
  | error error after => rwa [Run.finalState_of_error acted] at own
  | ok next after =>
      rw [Run.finalState_of_ok acted] at own
      cases next with
      | done flow => exact own
      | block inner => exact own.trans (booked_evaluateBlock host inner after)

end Commands

end MailSieve
