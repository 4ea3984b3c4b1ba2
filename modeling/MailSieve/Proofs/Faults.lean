import MailSieve.Proofs.Run

/-!
# Calls that fail

What becomes of a run when calls on the message fail.  It is compared with the calm run, in which
every call succeeds.

As long as no call has failed the two runs are in the same state, so they make the same calls.  The
first call that fails ends the run: no test turns the failure into a result, and no command after it
acts or writes.  What the run has done by then, the calm run has done as well, and whatever that one
does later it only adds.

* `State.Extends` orders states by the actions collected and the log.
* `FaultRelated` is the relation between the two runs, an instance of `Correspondence`.
* `eq_calm_or_fault` is the comparison for whole scripts.
-/

namespace MailSieve

/-- A later state has all actions and log entries of the earlier one, and perhaps more behind
them. -/
structure State.Extends (before after : State) : Prop where
  pending : before.message.pending <+: after.message.pending
  log : before.log <+: after.log

/-- Nothing collected or written is taken back. -/
def extending : CommandOrder where
  le := State.Extends
  refl _ := ⟨List.prefix_rfl, List.prefix_rfl⟩
  trans first second := ⟨first.pending.trans second.pending, first.log.trans second.log⟩
  moveTo _ _ := ⟨List.prefix_rfl, List.prefix_rfl⟩
  call _ _ := ⟨List.prefix_rfl, List.prefix_rfl⟩
  enterFlags _ _ := ⟨List.prefix_rfl, List.prefix_rfl⟩
  updateFlags _ _ := ⟨List.prefix_rfl, List.prefix_rfl⟩
  record _ _ := ⟨List.prefix_rfl, List.prefix_rfl⟩
  leaveScopes _ _ := ⟨List.prefix_rfl, List.prefix_rfl⟩
  addAction _ action := ⟨⟨[action], rfl⟩, List.prefix_rfl⟩
  write _ entry := ⟨List.prefix_rfl, ⟨[entry], rfl⟩⟩
  block inner := ⟨inner.pending, inner.log⟩

/-- What extends a state within a block extends it behind the block. -/
theorem State.Extends.leaveBlock {α : Type} {body : Run α} {state after : State}
    (extended : after.Extends (body.finalState { state with scopes := state.scopes.push })) :
    State.Extends { after with scopes := after.scopes.pop }
      ((Run.inScope body).finalState state) := by
  rw [Run.finalState_inScope]
  exact ⟨extended.pending, extended.log⟩

namespace Failures

/-- Not one of the calls failed. -/
def Spare (failures : Failures) (calls : List Call) : Prop :=
  ∀ earlier call, earlier ++ [call] <+: calls → failures earlier call = Option.none

variable {failures : Failures} {calls : List Call} {call : Call}

theorem spare_nil (failures : Failures) : failures.Spare [] := by
  intro earlier call begins
  simp at begins

/-- One more call that is answered leaves no failure either. -/
theorem Spare.concat (spared : failures.Spare calls)
    (answered : failures calls call = Option.none) : failures.Spare (calls ++ [call]) := by
  intro earlier other begins
  rcases List.prefix_concat_iff.mp begins with whole | before
  · obtain ⟨rfl, last⟩ := List.append_inj' whole rfl
    cases last
    exact answered
  · exact spared earlier other before

end Failures

/-- An error that hands on the fault of the last call made, the first one to fail. -/
structure FirstFault (failures : Failures) (error : RunError) (reached : State) : Prop where
  exists_call : ∃ earlier call fault, reached.calls = earlier ++ [call] ∧ failures.Spare earlier ∧
    failures earlier call = some fault ∧ error.cause = .mailAccess fault

/-- How a run under failures goes with the calm run, from every state that is reached without a
failure: either no call fails and nothing differs, or the first failure ends it. -/
structure FaultRelated (failures : Failures) {α : Type} (faulty calm : Run α) : Prop where
  forward : extending.Forward calm
  agree : ∀ state, failures.Spare state.calls →
    (faulty state = calm state ∧ failures.Spare (faulty.finalState state).calls) ∨
      ∃ error after, faulty state = .error error after ∧ FirstFault failures error after ∧
        after.Extends (calm.finalState state)

namespace FaultRelated

variable {failures : Failures} {registries : Registries} {α β ε : Type}

/-- A computation that makes no call. -/
theorem of_uncalled {run : Run α} (forward : extending.Forward run)
    (uncalled : ∀ state, (run.finalState state).calls = state.calls) :
    FaultRelated failures run run := by
  refine ⟨forward, fun state spared => .inl ⟨rfl, ?_⟩⟩
  rw [uncalled]
  exact spared

/-- A first failure in the first computation ends the run, and else the second one goes on from the
same state. -/
theorem bind {faulty calm : Run α} {rest others : α → Run β}
    (here : FaultRelated failures faulty calm)
    (later : ∀ value, FaultRelated failures (rest value) (others value)) :
    FaultRelated failures (faulty >>= rest) (calm >>= others) := by
  refine ⟨extending.forward_bind here.forward fun value => (later value).forward, ?_⟩
  intro state spared
  rcases here.agree state spared with ⟨same, sparedAfter⟩ | ⟨error, after, ended, fault, extended⟩
  -- no call has failed yet, so both runs go on from the same state
  · cases started : calm state with
    | ok value between =>
        have faultyStarted : faulty state = .ok value between := same.trans started
        rw [Run.finalState_of_ok faultyStarted] at sparedAfter
        rw [Run.bind_of_ok faultyStarted, Run.bind_of_ok started, Run.finalState_bind,
          Run.finalState_bind, faultyStarted, started]
        exact (later value).agree between sparedAfter
    | error error after =>
        have faultyEnded : faulty state = .error error after := same.trans started
        refine .inl ⟨by rw [Run.bind_of_error faultyEnded, Run.bind_of_error started], ?_⟩
        rw [Run.finalState_of_error faultyEnded] at sparedAfter
        rwa [Run.finalState_bind, faultyEnded]
  -- a call has failed: the rest is left out on the one side, and on the other it only adds
  · exact .inr ⟨error, after, Run.bind_of_error ended, fault,
      extending.le_finalState_bind extended fun value => (later value).forward⟩

/-- A computation that makes one call: there the two runs part, if it fails. -/
theorem of_call {faulty calm : Run α} (call : Call) (forward : extending.Forward calm)
    (called : ∀ state, (calm.finalState state).calls = state.calls ++ [call])
    (answered : ∀ state, failures state.calls call = none → faulty state = calm state)
    (failed : ∀ state fault, failures state.calls call = some fault →
      faulty state = .error ⟨.mailAccess fault, state.coordinate⟩
        { state with calls := state.calls ++ [call] }) :
    FaultRelated failures faulty calm := by
  refine ⟨forward, fun state spared => ?_⟩
  cases verdict : failures state.calls call with
  | none =>
      have same := answered state verdict
      have sameState : faulty.finalState state = calm.finalState state := by
        rw [Run.finalState, same, ← Run.finalState]
      refine .inl ⟨same, ?_⟩
      rw [sameState, called]
      exact spared.concat verdict
  | some fault =>
      -- up to the call the two runs are the same, and what the calm run does with it is no matter
      refine .inr ⟨_, _, failed state fault verdict,
        ⟨⟨state.calls, call, fault, rfl, spared, verdict, rfl⟩⟩, ?_⟩
      exact ⟨(forward state).pending, (forward state).log⟩

/-- A call is answered alike, or it is the first to fail. -/
theorem ask (call : Call) (answer : Message → α) :
    FaultRelated failures (Run.ask { registries, failures } call answer)
      (Run.ask { registries } call answer) := by
  refine of_call call (extending.forward_ask call answer) (fun state => ?_) (fun state passed => ?_)
    fun state fault failed => ?_
  · simp [Run.finalState, Run.ask_apply, Failures.none]
  · simp [Run.ask_apply, passed, Failures.none]
  · simp [Run.ask_apply, failed]

/-- An action is collected alike, or its refusal is the first failure. -/
theorem collect (action : Action) :
    FaultRelated failures (Run.collect { registries, failures } action)
      (Run.collect { registries } action) := by
  refine of_call (.addAction action) (extending.forward_collect action) (fun state => ?_)
    (fun state passed => ?_) fun state fault failed => ?_
  · simp [Run.finalState, Run.collect_apply, Failures.none]
  · simp [Run.collect_apply, passed, Failures.none]
  · simp [Run.collect_apply, failed]

theorem inScope {faulty calm : Run Flow} (inner : FaultRelated failures faulty calm) :
    FaultRelated failures (Run.inScope faulty) (Run.inScope calm) := by
  refine ⟨extending.forward_inScope inner.forward, ?_⟩
  intro state spared
  rcases inner.agree { state with scopes := state.scopes.push } spared with
    ⟨same, sparedAfter⟩ | ⟨error, after, ended, fault, extended⟩
  · refine .inl ⟨by rw [Run.inScope, Run.inScope, same], ?_⟩
    rw [Run.finalState_inScope]
    exact sparedAfter
  · exact .inr ⟨error, _, Run.inScope_of_error ended, ⟨fault.exists_call⟩, extended.leaveBlock⟩

theorem ofExcept (toCause : ε → Cause) (result : Except ε α) :
    FaultRelated failures (Run.ofExcept toCause result) (Run.ofExcept toCause result) :=
  of_uncalled (extending.forward_ofExcept toCause result) fun state => by cases result <;> rfl

theorem requireFeature (feature : String) :
    FaultRelated failures (BuiltinCommand.requireFeature registries feature)
      (BuiltinCommand.requireFeature registries feature) := by
  refine of_uncalled (fun state => ?_) fun state => ?_ <;> unfold BuiltinCommand.requireFeature
  · split <;> exact extending.refl state
  · split <;> rfl

end FaultRelated

/-- The run under failures and the calm run go with each other in all that evaluation does. -/
def faultCorrespondence (registries : Registries) (failures : Failures) :
    Correspondence { registries, failures } { registries } where
  Related := FaultRelated failures
  related_pure _ := .of_uncalled (fun state => extending.refl state) fun _ => rfl
  related_bind := .bind
  related_fail _ := .of_uncalled (fun state => extending.refl state) fun _ => rfl
  related_moveTo coordinate :=
    .of_uncalled (fun state => extending.moveTo state coordinate) fun _ => rfl
  related_ask := .ask
  related_test _ := .ofExcept id _
  related_comparator _ := .ofExcept id _
  related_command _ := .ofExcept id _
  related_order _ :=
    have read : FaultRelated failures (get : Run State) get :=
      .of_uncalled extending.refl fun _ => rfl
    read.bind fun _ => .ofExcept .order _
  related_feature := .requireFeature
  related_current := .of_uncalled (fun state => extending.refl state) fun _ => rfl
  related_record result := .of_uncalled (fun state => extending.record state result) fun _ => rfl
  related_collect := .collect
  related_write _ _ := .of_uncalled (fun state => extending.write state _) fun _ => rfl
  related_enter command :=
    .of_uncalled (fun state => extending.enterFlags state command) fun _ => rfl
  related_update command :=
    .of_uncalled (fun state => extending.updateFlags state command) fun _ => rfl
  related_leave command :=
    .of_uncalled (fun state => extending.leaveScopes state command) fun _ => rfl
  related_inScope := .inScope

/-- **Failures are neither swallowed nor do they change anything else.**  Either no call of the run
fails, and the run is the calm run in every respect.  Or the run ends with the fault of the first
call that fails, which is the last call it makes, and its actions and log are beginnings of those of
the calm run. -/
theorem eq_calm_or_fault (registries : Registries) (failures : Failures) (script : Script)
    (message : Message) :
    let faulty := script.evaluate { registries, failures } message
    let calm := script.evaluate { registries } message
    (faulty = calm ∧ failures.Spare faulty.state.calls) ∨
      ∃ earlier call fault coordinate,
        faulty.result = .error ⟨.mailAccess fault, coordinate⟩ ∧
        faulty.state.calls = earlier ++ [call] ∧ failures.Spare earlier ∧
        failures earlier call = some fault ∧
        faulty.state.message.pending <+: calm.state.message.pending ∧
        faulty.state.log <+: calm.state.log := by
  intro faulty calm
  have related := (faultCorrespondence registries failures).related_evaluateCommands script.commands
  rcases related.agree { message } (Failures.spare_nil failures) with
    ⟨same, spared⟩ | ⟨⟨cause, coordinate⟩, after, ended, ⟨fault⟩, extended⟩
  · have equal : faulty = calm := by
      simp only [faulty, calm, Script.evaluate, Run.outcome, same]
    refine .inl ⟨equal, ?_⟩
    simpa only [faulty, Script.evaluate, Run.outcome_state] using spared
  · obtain ⟨earlier, call, fault, calls, spared, failed, rfl⟩ := fault
    have outcome : faulty = ⟨.error ⟨.mailAccess fault, coordinate⟩, after⟩ := by
      simp only [faulty, Script.evaluate, Run.outcome, ended]
    have calmState : calm.state = Run.finalState (evaluateCommands { registries } script.commands)
        { message } := Run.outcome_state _ _
    rw [outcome, calmState]
    exact .inr ⟨earlier, call, fault, coordinate, rfl, calls, spared, failed, extended.pending,
      extended.log⟩

end MailSieve
