import MailSieve.Proofs.Boundary

/-!
# A reject stands alone

A message that is rejected gets no other action from the same run.  The commands see to it by two
flags, which live apart from the actions: one says that an action has been collected, the other that
it was a reject.  This file shows that at every command boundary the flags say exactly what the run
has collected, and that a reject is then its only action.

* `RejectExclusive` is the invariant, on the actions that the run has appended.
* `RejectExclusive.collect` is the one step that changes it: an action command that was admitted.
* `rejectExclusive_of_boundary` is the conclusion.
-/

namespace MailSieve

/-- The flags of a state tell what a run has appended to the actions of its message, and a reject
among these is the only one. -/
def RejectExclusive (message : Message) (state : State) : Prop :=
  ∃ appended, state.message.pending = message.pending ++ appended ∧
    (state.flags.hasActions = true ↔ appended ≠ []) ∧
    (state.flags.rejected = true ↔ ∃ action ∈ appended, action.isReject = true) ∧
    ∀ action ∈ appended, action.isReject = true → appended = [action]

/-! ### Steps that collect nothing -/

/-- The states between which no action is collected. -/
def uncollecting : ControlOrder where
  le before after := after.message = before.message ∧
    after.flags.hasActions = before.flags.hasActions ∧ after.flags.rejected = before.flags.rejected
  refl _ := ⟨rfl, rfl, rfl⟩
  trans first second :=
    ⟨second.1.trans first.1, second.2.1.trans first.2.1, second.2.2.trans first.2.2⟩
  moveTo _ _ := ⟨rfl, rfl, rfl⟩
  call _ _ := ⟨rfl, rfl, rfl⟩
  enterFlags state command :=
    ⟨rfl, command.hasActions_enterFlags state.flags, command.rejected_enterFlags state.flags⟩
  record _ _ := ⟨rfl, rfl, rfl⟩
  write _ _ := ⟨rfl, rfl, rfl⟩

/-! ### The step that collects -/

namespace RejectExclusive

variable {message : Message} {state after : State}

/-- At the start of a run nothing has been appended, and no flag is set. -/
theorem fresh (message : Message) : RejectExclusive message { message } :=
  ⟨[], by simp, by simp, by simp, by simp⟩

/-- Where no action is collected, nothing about rejects changes. -/
theorem of_uncollecting (exclusive : RejectExclusive message state)
    (steady : uncollecting.le state after) : RejectExclusive message after := by
  unfold RejectExclusive at exclusive ⊢
  obtain ⟨sameMessage, sameActions, sameRejected⟩ := steady
  rw [sameMessage, sameActions, sameRejected]
  exact exclusive

/-- **An action that was admitted keeps the invariant.**  None is admitted after a reject, and a
reject only as the first. -/
theorem collect {command : ActionCommand} {arguments : Arguments} {action : Action}
    (exclusive : RejectExclusive message state)
    (asked : command.actionOf arguments = .ok action)
    (placed : (BuiltinCommand.action command).validateState state = .ok ())
    (collected : after.message = state.message.addAction action)
    (noted : after.flags.hasActions = true)
    (told : after.flags.rejected = true ↔ state.flags.rejected = true ∨ command = .reject) :
    RejectExclusive message after := by
  obtain ⟨appended, pending, hasActions, rejected, -⟩ := exclusive
  -- the command was admitted, so nothing collected so far is a reject
  have unrejected : state.flags.rejected = false := by
    cases set : state.flags.rejected with
    | false => rfl
    | true => simp [BuiltinCommand.validateState_action, set] at placed
  have others : ∀ other ∈ appended, other.isReject = false := by
    intro other present
    cases isReject : other.isReject with
    | false => rfl
    | true =>
        have set := rejected.mpr ⟨other, present, isReject⟩
        rw [unrejected] at set
        cases set
  -- and if it is a reject itself, nothing has been collected at all
  have first : command = .reject → appended = [] := by
    intro reject
    rcases appended.eq_nil_or_concat with empty | ⟨earlier, last, rfl⟩
    · exact empty
    · have set := hasActions.mpr (by simp)
      simp [BuiltinCommand.validateState_action, unrejected, reject, set] at placed
  have isReject := ActionCommand.isReject_of_actionOf asked
  refine ⟨appended ++ [action], ?_, by simp [noted], ?_, ?_⟩
  · rw [collected, Message.addAction, pending, List.append_assoc]
  · rw [told, unrejected, ← isReject]
    constructor
    · rintro (impossible | here)
      · cases impossible
      · exact ⟨action, by simp, here⟩
    · rintro ⟨other, present, here⟩
      rcases List.mem_append.mp present with earlier | last
      · rw [others other earlier] at here
        cases here
      · cases List.mem_singleton.mp last
        exact .inr here
  · intro other present here
    rcases List.mem_append.mp present with earlier | last
    · rw [others other earlier] at here
      cases here
    · cases List.mem_singleton.mp last
      rw [first (isReject.mp here), List.nil_append]

end RejectExclusive

/-! ### Every run -/

/-- Every command keeps a reject alone. -/
def rejectInvariant (host : Host) (message : Message) : BoundaryInvariant host where
  Holds := RejectExclusive message
  failed holds began := holds.of_uncollecting (uncollecting.le_of_begin_eq_error began)
  entered holds began := by
    obtain ⟨sameMessage, sameActions, sameRejected⟩ :=
      uncollecting.le_of_begin (Command.kind_ne_action_of_begin began) began
    exact holds.of_uncollecting ⟨sameMessage, sameActions, sameRejected⟩
  left holds := holds
  closed {command state after implementation commands reached} began holds := by
    refine holds.of_uncollecting ⟨rfl, ?_, ?_⟩ <;>
      simp only [BuiltinCommand.concluded,
        BuiltinCommand.updateFlags_of_kind_ne (Command.kind_ne_action_of_begin began)]
  done {command state after implementation flow} holds began := by
    by_cases isAction : implementation.kind = .action
    · obtain ⟨action, rfl⟩ := BuiltinCommand.eq_action_of_kind_eq isAction
      -- between the action and its flags the invariant does not hold: both come in one step
      obtain ⟨entered, prepared, acted⟩ := Command.begin_eq_ok_iff.mp began
      obtain ⟨-, placed, -, -, rfl⟩ := BuiltinCommand.prepare_eq_ok_iff.mp prepared
      obtain ⟨-, asked, read, rfl⟩ := BuiltinCommand.act_action_eq_ok acted
      rw [ActionCommand.actionOf_map] at read
      refine holds.collect read placed rfl ?_ ?_
      · cases action <;> rfl
      · cases action <;> simp [BuiltinCommand.concluded, BuiltinCommand.updateFlags,
          BuiltinCommand.kind, CommandKind.updateFlags]
    · have begun := holds.of_uncollecting (uncollecting.le_of_begin isAction began)
      refine begun.of_uncollecting ⟨rfl, ?_, ?_⟩ <;>
        simp only [BuiltinCommand.concluded, BuiltinCommand.updateFlags_of_kind_ne isAction]

/-- **A reject stands alone at every boundary of a run**, however deep it lies and however the run
ends, and the flags tell what the run has collected. -/
theorem rejectExclusive_of_boundary (host : Host) (script : Script) (message : Message) :
    (∀ boundary, Boundary host script.commands { message } boundary →
      RejectExclusive message boundary) ∧
      RejectExclusive message (script.evaluate host message).state := by
  have atBoundary : ∀ boundary, Boundary host script.commands { message } boundary →
      RejectExclusive message boundary := by
    intro boundary reached
    exact (rejectInvariant host message).of_boundary reached (RejectExclusive.fresh message)
  refine ⟨atBoundary, ?_⟩
  rw [Script.evaluate, Run.outcome_state]
  exact atBoundary _ (Boundary.finalState host script.commands { message })

/-- `reject "no";` -/
def rejection : Command where
  name := "reject"
  arguments := { args := [.stringList ["no"]] }

/-- `if true { reject "no"; keep; }`, which fails at `keep`. -/
def rejectionInBranch : Command where
  name := "if"
  arguments := { tests := some [{ name := "true" }] }
  block := some [rejection, { name := "keep" }]

/-- The boundary behind the reject, in the block. -/
theorem rejectExclusive_of_boundary_inBranch :
    let host : Host := { registries := .builtin }
    ∃ boundary, Boundary host [rejectionInBranch] {} boundary ∧
      boundary.scopes.outer = [some true] ∧ boundary.message.pending = [.reject "no"] ∧
      RejectExclusive {} boundary := by
  intro host
  let start : State := { flags := { inProlog := false } }
  let entry : State := { start with scopes := { current := some true } }
  have holds : evaluateTest host { name := "true" } start = .ok true start :=
    evaluateTest_constant (Registries.create_builtin_test (.constant true)) {} start
  have enters : rejectionInBranch.begin host {} =
      .ok (.branch .opening, .block [rejection, { name := "keep" }]) entry := by
    have made := Registries.create_builtin_command (.branch .opening)
    refine Command.begin_eq_ok_iff.mpr
      ⟨start, BuiltinCommand.prepare_eq_ok_iff.mpr ⟨made, rfl, rfl, rfl, rfl⟩, ?_⟩
    refine (BuiltinCommand.actGuarded_apply rfl _ start).trans ?_
    rw [holds]
    rfl
  have inner : Boundary host [rejectionInBranch] {} _ := .inside enters (.after rejection _ _)
  refine ⟨_, inner, ?_, ?_, ?_⟩
  · decide +kernel
  · decide +kernel
  · exact (rejectExclusive_of_boundary host ⟨[rejectionInBranch]⟩ {}).1 _ inner

end MailSieve
