import MailSieve.Proofs.Run

/-!
# What a run does not look at

Parts of a state are out of sight of a computation: it runs the same whatever they hold, and leaves
them as they were.  To say so is to say that it commutes with every change of these parts.

* `Run.Commutes` is that property, for one change.
* `evaluateTest_apply`: a test looks at the message and at the calls made, and leaves only further
  calls and its position.
* `evaluateBlock_setScopes`: a block does not look at the chains around it, and leaves them alone.
* `evaluateTest_moved`: where a run stood before does not matter to a test.
* `evaluateCommands_alike` and `evaluateBlock_alike`: nor does it matter to the effects of commands,
  as the chains around them do not.
-/

namespace MailSieve

namespace Run

variable {α β ε : Type}

/-- The same result, with the state changed. -/
def mapState (change : State → State) : EStateM.Result RunError State α →
    EStateM.Result RunError State α
  | .ok value after => .ok value (change after)
  | .error error after => .error error (change after)

/-- To change the state before the computation is to change it afterwards. -/
def Commutes (change : State → State) (run : Run α) : Prop :=
  ∀ state, run (change state) = mapState change (run state)

variable {change : State → State}

theorem commutes_pure (value : α) : Commutes change (pure value : Run α) := fun _ => rfl

/-- A computation in two parts commutes with a change if both parts do. -/
theorem commutes_bind {first : Run α} {rest : α → Run β} (here : Commutes change first)
    (later : ∀ value, Commutes change (rest value)) : Commutes change (first >>= rest) := by
  intro state
  rw [bind_apply, bind_apply, here state]
  cases first state with
  | ok value after => exact later value after
  | error error after => rfl

/-- A failure commutes with changes that leave the position alone. -/
theorem commutes_fail (cause : Cause)
    (stays : ∀ state, (change state).coordinate = state.coordinate) :
    Commutes change (fail cause : Run α) := by
  intro state
  rw [fail_apply, fail_apply, stays]
  rfl

/-- To use a result commutes with changes that leave the position alone. -/
theorem commutes_ofExcept (toCause : ε → Cause) (result : Except ε α)
    (stays : ∀ state, (change state).coordinate = state.coordinate) :
    Commutes change (ofExcept toCause result) := by
  cases result with
  | ok value => exact commutes_pure value
  | error reason => exact commutes_fail (toCause reason) stays

/-- What commutes with a change of the state ends in the changed state. -/
theorem Commutes.finalState {run : Run α} (commutes : Commutes change run) (state : State) :
    run.finalState (change state) = change (run.finalState state) := by
  rw [Run.finalState, commutes state, Run.finalState]
  cases run state <;> rfl

end Run

/-! ### Tests -/

/-- Tests do not look at the open chains, the flags or the log. -/
def overlooking (host : Host) : TestCorrespondence host host where
  Related run _ := ∀ scopes flags log,
    Run.Commutes (fun state => { state with scopes, flags, log }) run
  related_pure value _ _ _ := Run.commutes_pure value
  related_bind here later scopes flags log :=
    Run.commutes_bind (here scopes flags log) fun value => later value scopes flags log
  related_fail _ _ _ _ := Run.commutes_fail _ fun _ => rfl
  related_moveTo _ _ _ _ _ := rfl
  related_ask call answer scopes flags log state := by
    rw [Run.ask_apply, Run.ask_apply]
    cases host.failures state.calls call <;> rfl
  related_test _ _ _ _ := Run.commutes_ofExcept id _ fun _ => rfl
  related_comparator _ _ _ _ := Run.commutes_ofExcept id _ fun _ => rfl

/-- Tests leave all but their position and the calls made as it was. -/
def observing : TestOrder where
  le before after :=
    after = { before with coordinate := after.coordinate, calls := after.calls }
  refl _ := rfl
  trans first second := by
    rw [second, first]
  moveTo _ _ := rfl
  call _ _ := rfl

/-- A test moves to its own position first. -/
theorem evaluateTest_moved (host : Host) (test : Test) (state : State) (coordinate : Coordinate) :
    evaluateTest host test { state with coordinate } = evaluateTest host test state := by
  obtain ⟨name, arguments, own⟩ := test
  rw [evaluateTest_mk, BuiltinTest.runNode, Run.bind_apply, Run.bind_apply]
  rfl

/-- **What a test depends on and what it changes.**  Two states with the same message and calls are
the same to it, and it leaves its position and further calls in either. -/
theorem evaluateTest_apply (host : Host) (test : Test) {state other : State}
    (sameMessage : other.message = state.message) (sameCalls : other.calls = state.calls) :
    evaluateTest host test state =
      Run.mapState
        (fun after => { state with coordinate := after.coordinate, calls := after.calls })
        (evaluateTest host test other) := by
  -- the other state, but for its position, becomes this one by a change the test overlooks
  have overlooked := (overlooking host).related_evaluateTest test
    state.scopes state.flags state.log other
  have observed := observing.le_finalState host test other
  have moved := evaluateTest_moved host test
    { other with scopes := state.scopes, flags := state.flags, log := state.log } state.coordinate
  rw [overlooked, sameMessage, sameCalls] at moved
  rw [show state = { state with coordinate := state.coordinate } from rfl, moved]
  cases ended : evaluateTest host test other with
  | ok holds after | error error after =>
      first
        | rw [Run.finalState_of_ok ended] at observed
        | rw [Run.finalState_of_error ended] at observed
      have unchanged : after.message = state.message := by
        rw [observed]
        exact sameMessage
      simp only [Run.mapState, unchanged]

/-! ### Blocks -/

/-- Under a scope of its own, a computation that does not look further out does not look at any
chain that is open, and leaves all of them as they were. -/
theorem Run.commutes_inScope {α : Type} {body : Run α}
    (inner : ∀ outer,
      Commutes (fun state => { state with scopes := { state.scopes with outer } }) body)
    (scopes : Scopes) : Commutes (fun state => { state with scopes }) (inScope body) := by
  intro state
  have pushed := inner (scopes.current :: scopes.outer)
    { state with scopes := state.scopes.push }
  change body { state with scopes := scopes.push } = _ at pushed
  rw [inScope, inScope, pushed]
  cases body { state with scopes := state.scopes.push } <;> rfl

/-- Commands do not look at the chains around the current one. -/
def sheltered (host : Host) : Correspondence host host where
  Related run _ := ∀ outer,
    Run.Commutes (fun state => { state with scopes := { state.scopes with outer } }) run
  related_pure value _ := Run.commutes_pure value
  related_bind here later outer :=
    Run.commutes_bind (here outer) fun value => later value outer
  related_fail _ _ := Run.commutes_fail _ fun _ => rfl
  related_moveTo _ _ _ := rfl
  related_ask call answer outer state := by
    rw [Run.ask_apply, Run.ask_apply]
    cases host.failures state.calls call <;> rfl
  related_test _ _ := Run.commutes_ofExcept id _ fun _ => rfl
  related_comparator _ _ := Run.commutes_ofExcept id _ fun _ => rfl
  related_command _ _ := Run.commutes_ofExcept id _ fun _ => rfl
  related_order command outer state := by
    rw [Run.get_bind_apply, Run.get_bind_apply]
    have unseen : command.validateState { state with scopes := { state.scopes with outer } } =
        command.validateState state := rfl
    rw [unseen]
    cases command.validateState state <;> rfl
  related_feature feature outer := by
    unfold BuiltinCommand.requireFeature
    split
    · exact Run.commutes_pure ()
    · exact Run.commutes_fail _ fun _ => rfl
  related_current _ _ := rfl
  related_record _ _ _ := rfl
  related_collect action outer state := by
    rw [Run.collect_apply, Run.collect_apply]
    cases host.failures state.calls (.addAction action) <;> rfl
  related_write _ _ _ _ := rfl
  related_enter _ _ _ := rfl
  related_update _ _ _ := rfl
  related_leave command outer state := by
    simp only [Run.setScopes_apply, Run.mapState, BuiltinCommand.leaveScopes]
    split <;> rfl
  related_inScope inner outer state := by
    -- the scope that is current again at the end is the one that was current before
    have same := Run.commutes_inScope inner state.scopes state
    have changed := Run.commutes_inScope inner { state.scopes with outer } state
    cases ended : Run.inScope _ state with
    | ok flow after | error error after =>
        rw [ended] at same changed
        rw [changed]
        injection same with _ unchanged
        simp only [Run.mapState]
        rw [unchanged]

/-- **A block sees no chain but its own**, and leaves those around it as they were. -/
theorem evaluateBlock_setScopes (host : Host) (commands : List Command) (scopes : Scopes) :
    Run.Commutes (fun state => { state with scopes }) (evaluateBlock host commands) :=
  Run.commutes_inScope ((sheltered host).related_evaluateCommands commands) scopes

/-- The chains around a block are the same before and after it. -/
theorem scopes_finalState_evaluateBlock (host : Host) (commands : List Command) (state : State) :
    ((evaluateBlock host commands).finalState state).scopes = state.scopes := by
  have same := (evaluateBlock_setScopes host commands state.scopes).finalState state
  have scopes := congrArg State.scopes same
  exact scopes

/-- A command moves to its own position first. -/
theorem evaluateCommand_moved (host : Host) (command : Command) (state : State)
    (coordinate : Coordinate) :
    evaluateCommand host command { state with coordinate } =
      evaluateCommand host command state := by
  obtain ⟨name, arguments, block, own⟩ := command
  rw [evaluateCommand_mk, BuiltinCommand.runNode, Run.bind_apply, Run.bind_apply,
    BuiltinCommand.prepare_apply, BuiltinCommand.prepare_apply]
  rfl

/-! ### Effects -/

/-- Two states differ at most in the position and in the open chains. -/
structure State.Alike (left right : State) : Prop where
  flags : left.flags = right.flags
  message : left.message = right.message
  log : left.log = right.log
  calls : left.calls = right.calls

namespace State.Alike

variable {first second third : State}

theorem refl (state : State) : state.Alike state := ⟨rfl, rfl, rfl, rfl⟩

theorem symm (alike : first.Alike second) : second.Alike first :=
  ⟨alike.flags.symm, alike.message.symm, alike.log.symm, alike.calls.symm⟩

theorem trans (here : first.Alike second) (there : second.Alike third) : first.Alike third :=
  ⟨here.flags.trans there.flags, here.message.trans there.message, here.log.trans there.log,
    here.calls.trans there.calls⟩

/-- What is left to differ are the position and the open chains. -/
theorem eq (alike : first.Alike second) :
    first = { second with coordinate := first.coordinate, scopes := first.scopes } := by
  rw [← alike.flags, ← alike.message, ← alike.log, ← alike.calls]

end State.Alike

/-- Two runs end in the same way, in states that are alike. -/
structure Outcome.Alike (left right : Outcome) : Prop where
  result : left.result = right.result
  state : left.state.Alike right.state

namespace Outcome.Alike

variable {first second third : Outcome}

theorem symm (alike : first.Alike second) : second.Alike first :=
  ⟨alike.result.symm, alike.state.symm⟩

theorem trans (here : first.Alike second) (there : second.Alike third) : first.Alike third :=
  ⟨here.result.trans there.result, here.state.trans there.state⟩

end Outcome.Alike

/-- The scope of a block is of no effect outside. -/
theorem Run.outcome_inScope_alike (body : Run Flow) (state : State) :
    ((inScope body).outcome state).Alike
      (body.outcome { state with scopes := state.scopes.push }) := by
  rw [outcome, inScope, outcome]
  cases body { state with scopes := state.scopes.push } with
  | ok flow after => exact ⟨rfl, rfl, rfl, rfl, rfl⟩
  | error error after => exact ⟨rfl, rfl, rfl, rfl, rfl⟩

/-- **The effects of commands** depend neither on where the run stood nor on the chains around the
current one. -/
theorem evaluateCommands_alike (host : Host) (commands : List Command) {state other : State}
    (alike : state.Alike other) (current : state.scopes.current = other.scopes.current) :
    ((evaluateCommands host commands).outcome state).Alike
      ((evaluateCommands host commands).outcome other) := by
  have rescoped := (sheltered host).related_evaluateCommands commands state.scopes.outer
    { other with coordinate := state.coordinate }
  have same : state = { other with
      coordinate := state.coordinate
      scopes := { current := other.scopes.current, outer := state.scopes.outer } } := by
    rw [← current]
    exact alike.eq
  have sheltered : ((evaluateCommands host commands).outcome state).Alike
      ((evaluateCommands host commands).outcome { other with coordinate := state.coordinate }) := by
    rw [same, Run.outcome, Run.outcome, rescoped]
    cases evaluateCommands host commands { other with coordinate := state.coordinate } with
    | ok flow after => exact ⟨rfl, rfl, rfl, rfl, rfl⟩
    | error error after => exact ⟨rfl, rfl, rfl, rfl, rfl⟩
  refine sheltered.trans ?_
  -- a list without commands stays where it was, so the final positions may differ
  cases commands with
  | nil => exact ⟨rfl, rfl, rfl, rfl, rfl⟩
  | cons command rest =>
      have moved : evaluateCommands host (command :: rest)
          { other with coordinate := state.coordinate } =
            evaluateCommands host (command :: rest) other := by
        rw [evaluateCommands_cons, Run.bind_apply, Run.bind_apply, evaluateCommand_moved]
      rw [Run.outcome_congr moved]
      exact ⟨rfl, .refl _⟩

/-- **The effects of a block** depend neither on where the run stood nor on the chains around. -/
theorem evaluateBlock_alike (host : Host) (commands : List Command) {state other : State}
    (alike : state.Alike other) :
    ((evaluateBlock host commands).outcome state).Alike
      ((evaluateBlock host commands).outcome other) := by
  have entered : State.Alike { state with scopes := state.scopes.push }
      { other with scopes := other.scopes.push } :=
    ⟨alike.flags, alike.message, alike.log, alike.calls⟩
  have inner := evaluateCommands_alike host commands entered rfl
  exact (Run.outcome_inScope_alike _ state).trans
    (inner.trans (Run.outcome_inScope_alike _ other).symm)

end MailSieve
