import MailSieve.Proofs.Correspondence

/-!
# Runs and the states they end in

A computation ends in a value or an error, and in either case in a state.

* `Run.finalState` is that state.
* `Run.bind_eq_ok_iff` and `Run.bind_eq_error_iff` take a row of computations apart, and
  `Run.FailsOnly` says in which ways a computation can fail.
* `TestOrder`, `ControlOrder` and `CommandOrder` are orders of states in which the operations of
  tests, of commands that are no actions, and of all commands go forward;
  `TestOrder.le_finalState` and `CommandOrder.le_finalState` say that whole evaluations do.
-/

namespace MailSieve

namespace Run

variable {α β : Type} {first run : Run α} {rest : α → Run β} {state after : State}

/-- The state in which a computation ends, be it with a value or with an error. -/
def finalState (run : Run α) (state : State) : State :=
  match run state with
  | .ok _ after | .error _ after => after

theorem finalState_of_ok {value : α} (ended : run state = .ok value after) :
    run.finalState state = after := by
  rw [finalState, ended]

theorem finalState_of_error {error : RunError} (ended : run state = .error error after) :
    run.finalState state = after := by
  rw [finalState, ended]

@[simp] theorem outcome_state (run : Run Flow) (state : State) :
    (run.outcome state).state = run.finalState state := by
  unfold outcome finalState
  cases run state <;> rfl

theorem outcome_of_ok {body : Run Flow} {flow : Flow} (ended : body state = .ok flow after) :
    body.outcome state = ⟨.ok flow, after⟩ := by
  rw [outcome, ended]

theorem outcome_of_error {body : Run Flow} {error : RunError}
    (ended : body state = .error error after) : body.outcome state = ⟨.error error, after⟩ := by
  rw [outcome, ended]

/-- An outcome has a flow just if the run succeeds with it. -/
theorem outcome_result_eq_ok_iff {body : Run Flow} {flow : Flow} :
    (body.outcome state).result = .ok flow ↔ ∃ after, body state = .ok flow after := by
  unfold outcome
  cases body state <;> simp

/-- To end in the same way is all that counts. -/
theorem outcome_congr {left right : Run Flow} {other : State} (same : left state = right other) :
    left.outcome state = right.outcome other := by
  rw [outcome, outcome, same]

theorem bind_of_ok {value : α} (ended : first state = .ok value after) :
    (first >>= rest) state = rest value after := by
  rw [bind_apply, ended]

theorem bind_of_error {error : RunError} (ended : first state = .error error after) :
    (first >>= rest) state = .error error after := by
  rw [bind_apply, ended]

/-- Two computations in a row succeed just if both do, the second from where the first has ended. -/
theorem bind_eq_ok_iff {value : β} :
    (first >>= rest) state = .ok value after ↔
      ∃ middle between,
        first state = .ok middle between ∧ rest middle between = .ok value after := by
  rw [bind_apply]
  constructor
  · intro ended
    cases started : first state with
    | ok middle between => exact ⟨middle, between, rfl, by simpa only [started] using ended⟩
    | error error between => simp [started] at ended
  · rintro ⟨middle, between, started, ended⟩
    simpa only [started] using ended

/-- Two computations in a row fail just if the first does, or else the second. -/
theorem bind_eq_error_iff {error : RunError} :
    (first >>= rest) state = .error error after ↔
      first state = .error error after ∨
        ∃ middle between, first state = .ok middle between ∧
          rest middle between = .error error after := by
  rw [bind_apply]
  constructor
  · intro ended
    cases started : first state with
    | ok middle between => exact .inr ⟨middle, between, rfl, by simpa only [started] using ended⟩
    | error reason between =>
        simp only [started] at ended
        cases ended
        exact .inl rfl
  · rintro (started | ⟨middle, between, started, ended⟩)
    · rw [started]
    · simpa only [started] using ended

/-- A computation that fails in the given ways only. -/
def FailsOnly (possible : RunError → State → Prop) (run : Run α) : Prop :=
  ∀ state error after, run state = .error error after → possible error after

theorem FailsOnly.of_ok {possible : RunError → State → Prop}
    (ends : ∀ state, ∃ value after, run state = .ok value after) : FailsOnly possible run := by
  intro state error after failed
  obtain ⟨value, reached, ended⟩ := ends state
  rw [ended] at failed
  cases failed

/-- Two computations in a row fail in the given ways only, if both do. -/
theorem FailsOnly.bind {possible : RunError → State → Prop} (here : FailsOnly possible first)
    (later : ∀ value, FailsOnly possible (rest value)) : FailsOnly possible (first >>= rest) := by
  intro state error after failed
  rcases bind_eq_error_iff.mp failed with atFirst | ⟨value, between, -, behind⟩
  · exact here state error after atFirst
  · exact later value between error after behind

/-- A row of computations ends where the first ends if that fails, and else where the rest ends. -/
theorem finalState_bind :
    (first >>= rest).finalState state =
      match first state with
      | .ok value after => (rest value).finalState after
      | .error _ after => after := by
  rw [finalState, bind_apply]
  cases first state <;> rfl

/-- The block has the state to itself, except that its scope is gone at the end. -/
theorem finalState_inScope (body : Run α) (state : State) :
    (inScope body).finalState state =
      let after := body.finalState { state with scopes := state.scopes.push }
      { after with scopes := after.scopes.pop } := by
  unfold finalState inScope
  cases body { state with scopes := state.scopes.push } <;> rfl

/-- A failure goes out of the scope, which is removed. -/
theorem inScope_of_error {body : Run α} {error : RunError}
    (ended : body { state with scopes := state.scopes.push } = .error error after) :
    inScope body state = .error error { after with scopes := after.scopes.pop } := by
  rw [inScope, ended]

/-- A failure under a scope is a failure of what runs in it. -/
theorem exists_of_inScope_eq_error {body : Run α} {error : RunError}
    (failed : inScope body state = .error error after) :
    ∃ inner, body { state with scopes := state.scopes.push } = .error error inner ∧
      after = { inner with scopes := inner.scopes.pop } := by
  unfold inScope at failed
  cases ended : body { state with scopes := state.scopes.push } with
  | ok value inner => simp [ended] at failed
  | error reason inner =>
      simp only [ended] at failed
      cases failed
      exact ⟨inner, rfl, rfl⟩

end Run

/-! ### Lists of commands -/

section Commands

variable {host : Host} {command : Command} {rest : List Command} {state after : State}

/-- A command that fails ends the run. -/
theorem evaluateCommands_of_error {error : RunError}
    (ended : evaluateCommand host command state = .error error after) :
    evaluateCommands host (command :: rest) state = .error error after :=
  Run.bind_of_error ended

/-- A command that stops ends the run. -/
theorem evaluateCommands_of_stop (ended : evaluateCommand host command state = .ok .stop after) :
    evaluateCommands host (command :: rest) state = .ok .stop after :=
  Run.bind_of_ok ended

/-- Behind a command that lets the run go on come the others. -/
theorem evaluateCommands_of_proceed
    (ended : evaluateCommand host command state = .ok .proceed after) :
    evaluateCommands host (command :: rest) state = evaluateCommands host rest after :=
  Run.bind_of_ok ended

/-- A list that lets the run go on has a first command that does, and the rest starts there. -/
theorem exists_of_evaluateCommands_cons
    (ran : evaluateCommands host (command :: rest) state = .ok .proceed after) :
    ∃ between, evaluateCommand host command state = .ok .proceed between ∧
      evaluateCommands host rest between = .ok .proceed after := by
  rw [evaluateCommands_cons] at ran
  obtain ⟨flow, between, first, behind⟩ := Run.bind_eq_ok_iff.mp ran
  cases flow with
  | stop => cases behind
  | proceed => exact ⟨between, first, behind⟩

/-- The commands in front run first, and the others if these let the run go on. -/
theorem evaluateCommands_append (host : Host) (earlier later : List Command) :
    evaluateCommands host (earlier ++ later) = (do
      match ← evaluateCommands host earlier with
      | .stop => pure .stop
      | .proceed => evaluateCommands host later) := by
  induction earlier with
  | nil => rfl
  | cons command rest ih =>
      rw [List.cons_append, evaluateCommands_cons, evaluateCommands_cons, ih, bind_assoc]
      refine bind_congr fun flow => ?_
      cases flow <;> rfl

/-- Behind commands that let the run go on come the later ones. -/
theorem evaluateCommands_append_of_proceed {earlier : List Command}
    (ended : evaluateCommands host earlier state = .ok .proceed after) (later : List Command) :
    evaluateCommands host (earlier ++ later) state = evaluateCommands host later after := by
  rw [evaluateCommands_append]
  exact Run.bind_of_ok ended

/-- A list lets the run go on if all commands up to the last and then the last one do. -/
theorem evaluateCommands_concat_eq_proceed_iff {earlier : List Command} :
    evaluateCommands host (earlier ++ [command]) state = .ok .proceed after ↔
      ∃ between, evaluateCommands host earlier state = .ok .proceed between ∧
        evaluateCommand host command between = .ok .proceed after := by
  constructor
  · intro ended
    rw [evaluateCommands_append] at ended
    obtain ⟨flow, between, ran, last⟩ := Run.bind_eq_ok_iff.mp ended
    cases flow with
    | stop => cases last
    | proceed =>
        rw [evaluateCommands_singleton] at last
        exact ⟨between, ran, last⟩
  · rintro ⟨between, ran, last⟩
    rw [evaluateCommands_append_of_proceed ran, evaluateCommands_singleton]
    exact last

/-- The computation ends the run, by a stop or an error. -/
def Run.Halts (run : Run Flow) (state : State) : Prop := ∀ after, run state ≠ .ok .proceed after

/-- What stands behind a command that ends the run does not count. -/
theorem evaluateCommands_of_halts (halts : (evaluateCommand host command).Halts state) :
    evaluateCommands host (command :: rest) state = evaluateCommand host command state := by
  cases ended : evaluateCommand host command state with
  | error error after => exact evaluateCommands_of_error ended
  | ok flow after =>
      cases flow with
      | stop => exact evaluateCommands_of_stop ended
      | proceed => exact absurd ended (halts after)

/-- A command that ends the run leaves the last state. -/
theorem finalState_evaluateCommands_of_halts (halts : (evaluateCommand host command).Halts state) :
    (evaluateCommands host (command :: rest)).finalState state =
      (evaluateCommand host command).finalState state := by
  rw [Run.finalState, Run.finalState, evaluateCommands_of_halts halts]

/-- Where a command lets the run go on, the others leave the last state. -/
theorem finalState_evaluateCommands_of_proceed
    (ended : evaluateCommand host command state = .ok .proceed after) :
    (evaluateCommands host (command :: rest)).finalState state =
      (evaluateCommands host rest).finalState after := by
  rw [Run.finalState, Run.finalState, evaluateCommands_of_proceed ended]

/-- What does not end the run lets it go on. -/
theorem Run.exists_proceed_of_not_halts {run : Run Flow} (goesOn : ¬ run.Halts state) :
    ∃ after, run state = .ok .proceed after :=
  Classical.not_forall_not.mp goesOn

/-- A list that ends the run has a command that does, and the run goes on up to there. -/
theorem exists_halting_of_evaluateCommands {commands : List Command}
    (halts : (evaluateCommands host commands).Halts state) :
    ∃ earlier command later before, commands = earlier ++ command :: later ∧
      evaluateCommands host earlier state = .ok .proceed before ∧
      (evaluateCommand host command).Halts before := by
  induction commands generalizing state with
  | nil => exact absurd rfl (halts state)
  | cons command rest ih =>
      by_cases here : (evaluateCommand host command).Halts state
      · exact ⟨[], command, rest, state, rfl, rfl, here⟩
      · obtain ⟨between, proceeds⟩ := Run.exists_proceed_of_not_halts here
        have behind : (evaluateCommands host rest).Halts between := by
          intro after ended
          exact halts after ((evaluateCommands_of_proceed proceeds).trans ended)
        obtain ⟨earlier, last, later, before, rfl, ran, stays⟩ := ih behind
        exact ⟨command :: earlier, last, later, before, rfl,
          (evaluateCommands_of_proceed proceeds).trans ran, stays⟩

end Commands

/-! ### Orders in which runs go forward -/

/-- An order of states in which every operation of a test goes forward. -/
structure TestOrder where
  le : State → State → Prop
  refl : ∀ state, le state state
  trans : ∀ {first second third}, le first second → le second third → le first third
  moveTo : ∀ state coordinate, le state { state with coordinate }
  call : ∀ state call, le state { state with calls := state.calls ++ [call] }

namespace TestOrder

variable (order : TestOrder) {host : Host} {α β ε : Type}

/-- Whether a computation goes forward, however it ends. -/
def Forward (run : Run α) : Prop := ∀ state, order.le state (run.finalState state)

/-- What comes behind a computation only goes further. -/
theorem le_finalState_bind {first : Run α} {rest : α → Run β} {state reached : State}
    (before : order.le reached (first.finalState state))
    (later : ∀ value, order.Forward (rest value)) :
    order.le reached ((first >>= rest).finalState state) := by
  rw [Run.finalState_bind]
  cases ended : first state with
  | ok value after =>
      rw [Run.finalState_of_ok ended] at before
      exact order.trans before (later value after)
  | error error after =>
      rw [Run.finalState_of_error ended] at before
      exact before

/-- Two computations in a row go forward if both do. -/
theorem forward_bind {first : Run α} {rest : α → Run β} (here : order.Forward first)
    (later : ∀ value, order.Forward (rest value)) : order.Forward (first >>= rest) :=
  fun state => order.le_finalState_bind (here state) later

theorem forward_ofExcept (toCause : ε → Cause) (result : Except ε α) :
    order.Forward (Run.ofExcept toCause result) := by
  intro state
  cases result <;> exact order.refl state

/-- A call goes forward, be it answered or not. -/
theorem forward_ask (call : Call) (answer : Message → α) :
    order.Forward (Run.ask host call answer) := by
  intro state
  rw [Run.finalState, Run.ask_apply]
  cases host.failures state.calls call <;> exact order.call state call

theorem forward_requireFeature (feature : String) :
    order.Forward (BuiltinCommand.requireFeature host.registries feature) := by
  intro state
  unfold BuiltinCommand.requireFeature
  split <;> exact order.refl state

/-- Going forward is kept by all that tests are made of. -/
def correspondence (host : Host) : TestCorrespondence host host where
  Related run _ := order.Forward run
  related_pure _ := order.refl
  related_bind := order.forward_bind
  related_fail _ := order.refl
  related_moveTo coordinate state := order.moveTo state coordinate
  related_ask := order.forward_ask
  related_test _ := order.forward_ofExcept id _
  related_comparator _ := order.forward_ofExcept id _

/-- **Tests go forward.** -/
theorem le_finalState (host : Host) (test : Test) (state : State) :
    order.le state ((evaluateTest host test).finalState state) :=
  (order.correspondence host).related_evaluateTest test state

/-- An action command that fails has at most made its call. -/
theorem le_of_act_action_eq_error {command : ActionCommand} {arguments : ArgumentsOf (Run Bool)}
    {block : Option β} {error : RunError} {state after : State}
    (failed : (BuiltinCommand.action command).act host arguments block state =
      .error error after) : order.le state after := by
  rw [BuiltinCommand.act_action_apply] at failed
  split at failed
  · cases failed
    exact order.refl state
  · split at failed
    · cases failed
      exact order.call state _
    · cases failed

end TestOrder

/-- An order of states in which every operation of a command that is no action goes forward. -/
structure ControlOrder extends TestOrder where
  enterFlags : ∀ (state : State) (command : BuiltinCommand),
    le state { state with flags := command.enterFlags state.flags }
  record : ∀ (state : State) result, le state { state with scopes := state.scopes.record result }
  write : ∀ (state : State) entry, le state { state with log := state.log ++ [entry] }

namespace ControlOrder

variable (order : ControlOrder) {host : Host} {β : Type}

/-- Going forward is kept by all that commands are made of which are no actions. -/
def correspondence (host : Host) : ControlCorrespondence host host where
  toTestCorrespondence := order.toTestOrder.correspondence host
  related_command _ := order.forward_ofExcept id _
  related_order _ := order.forward_bind order.refl fun _ => order.forward_ofExcept .order _
  related_feature := order.forward_requireFeature
  related_current := order.refl
  related_record result state := order.record state result
  related_write _ _ state := order.write state _
  related_enter command state := order.enterFlags state command

end ControlOrder

/-- An order of states in which every operation of a command goes forward. -/
structure CommandOrder extends ControlOrder where
  updateFlags : ∀ (state : State) (command : BuiltinCommand),
    le state { state with flags := command.updateFlags state.flags }
  leaveScopes : ∀ (state : State) (command : BuiltinCommand),
    le state { state with scopes := command.leaveScopes state.scopes }
  addAction : ∀ (state : State) action,
    le state { state with message := state.message.addAction action }
  block : ∀ {state after : State}, le { state with scopes := state.scopes.push } after →
    le state { after with scopes := after.scopes.pop }

namespace CommandOrder

variable (order : CommandOrder) {host : Host}

/-- An action goes forward, be it added or refused. -/
theorem forward_collect (action : Action) : order.Forward (Run.collect host action) := by
  intro state
  rw [Run.finalState, Run.collect_apply]
  cases host.failures state.calls (.addAction action) with
  | some fault => exact order.call state (.addAction action)
  | none => exact order.trans (order.addAction state action) (order.call _ (.addAction action))

/-- A block goes forward if what runs in it does. -/
theorem forward_inScope {body : Run Flow} (inner : order.Forward body) :
    order.Forward (Run.inScope body) := by
  intro state
  rw [Run.finalState_inScope]
  exact order.block (inner { state with scopes := state.scopes.push })

/-- Going forward is kept by all that commands are made of. -/
def correspondence (host : Host) : Correspondence host host where
  toControlCorrespondence := order.toControlOrder.correspondence host
  related_collect := order.forward_collect
  related_update command state := order.updateFlags state command
  related_leave command state := order.leaveScopes state command
  related_inScope := order.forward_inScope

/-- The execution of a command goes forward, its block included. -/
theorem forward_execute (host : Host) (implementation : BuiltinCommand) (arguments : Arguments)
    (block : Option (List Command)) :
    order.Forward (implementation.execute host (arguments.map (evaluateTest host))
      (block.map (evaluateBlock host))) := by
  have guards : ∀ guard ∈ arguments.testList,
      (order.correspondence host).Related (evaluateTest host guard) (evaluateTest host guard) :=
    fun guard _ => (order.correspondence host).related_evaluateTest guard
  rw [BuiltinCommand.execute, BuiltinCommand.act_map, bind_map_left]
  refine order.forward_bind
    ((order.correspondence host).related_act implementation arguments block guards) fun next => ?_
  cases next with
  | done flow => exact order.refl
  | block inner => exact (order.correspondence host).related_evaluateBlock inner

/-- **Lists of commands go forward.** -/
theorem le_finalState (host : Host) (commands : List Command) (state : State) :
    order.le state ((evaluateCommands host commands).finalState state) :=
  (order.correspondence host).related_evaluateCommands commands state

end CommandOrder

end MailSieve
