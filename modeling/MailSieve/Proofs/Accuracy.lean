import MailSieve.Proofs.Boundary

/-!
# What errors say about names

An error may blame a name: that nothing stands behind it, that what stands behind it cannot be made,
or that it is no feature.  Whatever a run blames a name for is the case, so a host can act on it.

* `Cause.Accurate` says when a cause has the registries on its side, and `accurately` that every run
  fails for such causes only; `accurate_evaluate` says it of a script.
* `evaluateCommand_of_missing`, `evaluateTest_of_missing` and `compareAny_of_missing` are the other
  direction: a name with nothing behind it is blamed as soon as it is used.
-/

namespace MailSieve

/-! ### Accurate causes -/

/-- What a cause says about the registries is the case. -/
def Cause.Accurate (registries : Registries) : Cause → Prop
  | .notMapped .command name => registries.commands.supports name = false
  | .notMapped .test name => registries.tests.supports name = false
  | .notMapped .comparator name => registries.comparators.supports name = false
  | .notCreated .command name reason => registries.commands.find? name = some (.error reason)
  | .notCreated .test name reason => registries.tests.find? name = some (.error reason)
  | .notCreated .comparator name reason => registries.comparators.find? name = some (.error reason)
  | .unsupportedFeature feature => registries.supportsFeature feature = false
  | .shape _ | .order _ | .pattern _ | .mailAccess _ | .stated _ _ => True

section Registry

variable {kind : EntryKind} {ι : Type} {registry : Registry kind ι} {name : String}

/-- A name cannot be made in two cases, and the error tells them apart: nothing stands behind it, or
what stands behind it gives a reason. -/
theorem Registry.create_eq_error_iff {cause : Cause} : registry.create name = .error cause ↔
    registry.supports name = false ∧ cause = .notMapped kind name ∨
      ∃ reason, registry.find? name = some (.error reason) ∧
        cause = .notCreated kind name reason := by
  rw [create, supports]
  cases registry.find? name with
  | none => simp [eq_comm]
  | some constructor => cases constructor <;> simp [eq_comm]

/-- A name is said to stand for nothing if that is so. -/
theorem Registry.create_eq_notMapped_iff :
    registry.create name = .error (.notMapped kind name) ↔ registry.supports name = false := by
  simp [create_eq_error_iff]

end Registry

/-! ### Accurate runs -/

/-- A computation that fails for accurate causes only. -/
def Run.Accurate (registries : Registries) {α : Type} (run : Run α) : Prop :=
  run.FailsOnly fun error _ => error.cause.Accurate registries

namespace Run.Accurate

variable {host : Host} {registries : Registries} {α : Type}

/-- A result is used accurately if its fault, should there be one, becomes an accurate cause. -/
theorem ofExcept {ε : Type} {toCause : ε → Cause} {result : Except ε α}
    (accurate : ∀ reason, result = .error reason → (toCause reason).Accurate registries) :
    Run.Accurate registries (Run.ofExcept toCause result) := by
  intro state error after failed
  cases result with
  | ok value => cases failed
  | error reason =>
      cases failed
      exact accurate reason rfl

/-- A failed call blames the message, not a name. -/
theorem ask (call : Call) (answer : Message → α) :
    Run.Accurate registries (Run.ask host call answer) := by
  intro state error after failed
  rw [Run.ask_apply] at failed
  cases refused : host.failures state.calls call with
  | none =>
      rw [refused] at failed
      cases failed
  | some fault =>
      rw [refused] at failed
      cases failed
      trivial

theorem collect (action : Action) : Run.Accurate registries (Run.collect host action) :=
  .bind (ask (.addAction action) _) fun _ => .of_ok fun _ => ⟨_, _, rfl⟩

theorem inScope {body : Run α} (inner : Run.Accurate registries body) :
    Run.Accurate registries (Run.inScope body) := by
  intro state error after failed
  obtain ⟨reached, failedInside, -⟩ := Run.exists_of_inScope_eq_error failed
  exact inner _ error reached failedInside

/-- To make what a registry has behind a name, if causes speak of this registry. -/
theorem create {kind : EntryKind} {registry : Registry kind α}
    (missing : ∀ name, registry.supports name = false →
      (Cause.notMapped kind name).Accurate registries)
    (broken : ∀ name reason, registry.find? name = some (.error reason) →
      (Cause.notCreated kind name reason).Accurate registries)
    (name : String) : Run.Accurate registries (Run.ofExcept id (registry.create name)) := by
  refine .ofExcept fun cause failed => ?_
  rcases Registry.create_eq_error_iff.mp failed with ⟨absent, rfl⟩ | ⟨reason, found, rfl⟩
  · exact missing name absent
  · exact broken name reason found

/-- A feature is refused only if it is not available. -/
theorem requireFeature (feature : String) :
    Run.Accurate registries (BuiltinCommand.requireFeature registries feature) := by
  intro state error after failed
  rw [BuiltinCommand.requireFeature] at failed
  cases supported : registries.supportsFeature feature with
  | true =>
      rw [supported] at failed
      cases failed
  | false =>
      rw [supported] at failed
      cases failed
      exact supported

end Run.Accurate

/-- Every step of a run fails for accurate causes only. -/
def accurately (host : Host) : Correspondence host host where
  Related run _ := Run.Accurate host.registries run
  related_pure _ := .of_ok fun _ => ⟨_, _, rfl⟩
  related_bind := .bind
  related_fail reads := by
    intro state error after failed
    cases failed
    cases reads <;> trivial
  related_ask := .ask
  related_test := .create (fun _ missing => missing) fun _ _ broken => broken
  related_comparator _ := by
    refine .create (fun _ missing => ?_) (fun _ _ broken => ?_) _
    · exact missing
    · exact broken
  related_moveTo _ := .of_ok fun _ => ⟨_, _, rfl⟩
  related_command := .create (fun _ missing => missing) fun _ _ broken => broken
  related_order _ := .bind (.of_ok fun state => ⟨state, state, rfl⟩) fun _ =>
    Run.Accurate.ofExcept fun _ _ => trivial
  related_feature := .requireFeature
  related_current := .of_ok fun _ => ⟨_, _, rfl⟩
  related_record _ := .of_ok fun _ => ⟨_, _, rfl⟩
  related_write _ _ := .of_ok fun _ => ⟨_, _, rfl⟩
  related_enter _ := .of_ok fun _ => ⟨_, _, rfl⟩
  related_collect := .collect
  related_update _ := .of_ok fun _ => ⟨_, _, rfl⟩
  related_leave _ := .of_ok fun _ => ⟨_, _, rfl⟩
  related_inScope := .inScope

/-! ### What nodes report -/

section Nodes

variable {host : Host} {name : String} {state after : State} {error : RunError}

/-- Whatever name a command blames, it blames with reason. -/
theorem accurate_evaluateCommand {command : Command}
    (failed : evaluateCommand host command state = .error error after) :
    error.cause.Accurate host.registries :=
  (accurately host).related_evaluateCommand command state error after failed

/-- Whatever name a test blames, it blames with reason. -/
theorem accurate_evaluateTest {test : Test}
    (failed : evaluateTest host test state = .error error after) :
    error.cause.Accurate host.registries :=
  (accurately host).related_evaluateTest test state error after failed

/-- **Whatever name a script blames, it blames with reason.** -/
theorem accurate_evaluate (script : Script) (message : Message)
    (failed : (script.evaluate host message).result = .error error) :
    error.cause.Accurate host.registries := by
  cases ended : evaluateCommands host script.commands { message } with
  | ok flow after =>
      rw [Script.evaluate, Run.outcome_of_ok ended] at failed
      cases failed
  | error reason after =>
      rw [Script.evaluate, Run.outcome_of_error ended] at failed
      cases failed
      exact (accurately host).related_evaluateCommands script.commands _ _ _ ended

/-- A command with nothing behind its name fails for that, at its position, and does nothing. -/
theorem evaluateCommand_of_missing (command : Command) (state : State)
    (missing : host.registries.commands.supports command.name = false) :
    evaluateCommand host command state =
      .error ⟨.notMapped .command command.name, command.coordinate⟩
        { state with coordinate := command.coordinate } := by
  obtain ⟨name, arguments, block, coordinate⟩ := command
  rw [evaluateCommand_mk, BuiltinCommand.runNode]
  refine Run.bind_of_error ?_
  rw [BuiltinCommand.prepare_apply, Registry.create_eq_notMapped_iff.mpr missing]

/-- A test with nothing behind its name fails for that, at its position, and does nothing. -/
theorem evaluateTest_of_missing (test : Test) (state : State)
    (missing : host.registries.tests.supports test.name = false) :
    evaluateTest host test state =
      .error ⟨.notMapped .test test.name, test.coordinate⟩
        { state with coordinate := test.coordinate } := by
  obtain ⟨name, arguments, coordinate⟩ := test
  rw [evaluateTest_mk, BuiltinTest.runNode, Registry.create_eq_notMapped_iff.mpr missing]
  rfl

/-- A comparison under a name with nothing behind it fails for that, before any value is looked
at. -/
theorem compareAny_of_missing (matchType : MatchType) (values keys : List String) (state : State)
    (missing : host.registries.comparators.supports name = false) :
    BuiltinTest.compareAny host (some name) matchType values keys state =
      .error ⟨.notMapped .comparator name, state.coordinate⟩ state := by
  rw [BuiltinTest.compareAny, Option.getD_some, Registry.create_eq_notMapped_iff.mpr missing]
  rfl

end Nodes

end MailSieve
