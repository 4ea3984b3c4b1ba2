import MailSieve.Proofs.Faults

/-!
# Names that are taken away

A host may offer fewer names than another, with the same behind each name it has and the same
default comparator.  The same script is run by both.

A missing name shows only where it is asked for: at a command, a test or a comparator that is to be
made, and at a feature that is required.  At each of these places the run under fewer names either
goes on from the same state or fails, and all it has done by then has been done by the other run as
well.

* `Registries.Restricts` compares two registries; `Registries.restricts_ofConfig`: a config only
  takes names away.
* `Narrows` is the relation between the two runs, an instance of `Correspondence`.
* `evaluate_of_restricts` is the comparison for whole scripts.
-/

namespace MailSieve

/-! ### Registries with fewer names -/

namespace Registry

variable {kind : EntryKind} {ι : Type}

/-- What one registry has behind a name the other has behind it too. -/
def Restricts (smaller larger : Registry kind ι) : Prop :=
  ∀ name constructor, smaller.find? name = some constructor → larger.find? name = some constructor

/-- Of several registrations the last one under a name counts. -/
theorem find?_ofList (registrations : List (String × Constructor ι)) (name : String) :
    (ofList registrations : Registry kind ι).find? name =
      (registrations.reverse.find? (Text.foldCase name = Text.foldCase ·.1)).map Prod.snd := by
  rw [ofList, find?_foldl_register]
  exact Option.or_none

/-- To remove names is to have nothing behind them, in whatever case they are asked for, and to
change nothing else. -/
theorem find?_removeNames (names : List String) (registrations : List (String × Constructor ι))
    (name : String) :
    (ofList (Registrations.removeNames names registrations) : Registry kind ι).find? name =
      if names.any (Text.sameIgnoringCase · name) then none
      else (ofList registrations : Registry kind ι).find? name := by
  rw [find?_ofList, find?_ofList, Registrations.removeNames, ← List.filter_reverse,
    List.find?_filter]
  -- an entry is kept or removed by its folded name, so all that stand under the name fare alike
  have kept : ∀ entry : String × Constructor ι,
      ((!names.any (Text.sameIgnoringCase · entry.1)) = true ∧
        decide (Text.foldCase name = Text.foldCase entry.1) = true) ↔
      names.any (Text.sameIgnoringCase · name) = false ∧
        Text.foldCase name = Text.foldCase entry.1 := by
    intro entry
    rw [decide_eq_true_eq, Bool.not_eq_true']
    refine and_congr_left fun same => ?_
    simp only [Text.sameIgnoringCase, same]
  simp only [kept]
  cases names.any (Text.sameIgnoringCase · name) <;> simp

/-- A registry of which names have been removed has no more than before. -/
theorem restricts_removeNames (names : List String)
    (registrations : List (String × Constructor ι)) :
    (ofList (Registrations.removeNames names registrations) : Registry kind ι).Restricts
      (ofList registrations) := by
  intro name constructor found
  rw [find?_removeNames] at found
  split at found
  · cases found
  · exact found

variable {smaller larger : Registry kind ι}

/-- Under fewer names the same is made, or the name is at fault. -/
theorem Restricts.create (restricts : smaller.Restricts larger) (name : String) :
    smaller.create name = larger.create name ∨
      smaller.create name = .error (.notMapped kind name) := by
  unfold Registry.create
  cases found : smaller.find? name with
  | none => exact .inr rfl
  | some constructor =>
      rw [restricts name constructor found]
      exact .inl rfl

/-- A name that one registry supports the larger one supports too. -/
theorem Restricts.supports (restricts : smaller.Restricts larger) {name : String}
    (supported : smaller.supports name = true) : larger.supports name = true := by
  obtain ⟨constructor, found⟩ := Option.isSome_iff_exists.mp supported
  rw [Registry.supports, restricts name constructor found]
  rfl

end Registry

namespace Registries

/-- One host has what the other has behind a name, if it has the name at all, and tests that name no
comparator take the same one. -/
structure Restricts (smaller larger : Registries) : Prop where
  commands : smaller.commands.Restricts larger.commands
  tests : smaller.tests.Restricts larger.tests
  comparators : smaller.comparators.Restricts larger.comparators
  defaultComparator : smaller.defaultComparator = larger.defaultComparator

/-- All that is built in, with the default comparator of a config. -/
def unrestricted (config : Config) : Registries :=
  { builtin with defaultComparator := config.defaultComparator }

/-- **A config takes names away**, and does no more but choose the default comparator. -/
theorem restricts_ofConfig (config : Config) :
    (ofConfig config).Restricts (unrestricted config) where
  commands := Registry.restricts_removeNames config.disabledCommands _
  tests := Registry.restricts_removeNames config.disabledTests _
  comparators := Registry.restricts_removeNames config.disabledComparators _
  defaultComparator := rfl

/-- A feature that is available under fewer names is available under more. -/
theorem Restricts.supportsFeature {smaller larger : Registries}
    (restricts : smaller.Restricts larger) {feature : String}
    (supported : smaller.supportsFeature feature = true) :
    larger.supportsFeature feature = true := by
  unfold Registries.supportsFeature at supported ⊢
  simp only [Bool.or_eq_true] at supported ⊢
  rcases supported with (command | test) | comparator
  · exact .inl (.inl (restricts.commands.supports command))
  · exact .inl (.inr (restricts.tests.supports test))
  · right
    rw [Option.any_eq_true] at comparator ⊢
    obtain ⟨name, named, here⟩ := comparator
    exact ⟨name, named, restricts.comparators.supports here⟩

end Registries

/-! ### The two runs -/

/-- The run asked for a name that is not there. -/
def Cause.Unavailable (cause : Cause) : Prop := cause.kind = .lookup ∨ cause.kind = .feature

/-- How a run under fewer names goes with the run under more: they do not differ, or a name that is
missing ends the first. -/
structure Narrows {α : Type} (narrow wide : Run α) : Prop where
  forward : extending.Forward wide
  agree : ∀ state, narrow state = wide state ∨
    ∃ error after, narrow state = .error error after ∧ error.cause.Unavailable ∧
      after.Extends (wide.finalState state)

namespace Narrows

variable {α β : Type}

theorem refl {run : Run α} (forward : extending.Forward run) : Narrows run run :=
  ⟨forward, fun _ => .inl rfl⟩

/-- Where the name is missing the run fails at once. -/
theorem of_fail {cause : Cause} (unavailable : cause.Unavailable) {wide : Run α}
    (forward : extending.Forward wide) : Narrows (Run.fail cause) wide :=
  ⟨forward, fun state => .inr ⟨⟨cause, state.coordinate⟩, state, rfl, unavailable, forward state⟩⟩

/-- If a missing name does not end the first computation, both go on from the same state. -/
theorem bind {narrow wide : Run α} {rest others : α → Run β} (here : Narrows narrow wide)
    (later : ∀ value, Narrows (rest value) (others value)) :
    Narrows (narrow >>= rest) (wide >>= others) := by
  have forward : ∀ value, extending.Forward (others value) := fun value => (later value).forward
  refine ⟨extending.forward_bind here.forward forward, ?_⟩
  intro state
  rcases here.agree state with same | ⟨error, after, ended, unavailable, extended⟩
  · rw [Run.bind_apply, same]
    cases started : wide state with
    | error error after =>
        rw [Run.bind_of_error started]
        exact .inl rfl
    | ok value between =>
        rw [Run.bind_of_ok started, Run.finalState_bind, started]
        exact (later value).agree between
  · exact .inr ⟨error, after, Run.bind_of_error ended, unavailable,
      extending.le_finalState_bind extended forward⟩

theorem inScope {narrow wide : Run Flow} (inner : Narrows narrow wide) :
    Narrows (Run.inScope narrow) (Run.inScope wide) := by
  refine ⟨extending.forward_inScope inner.forward, ?_⟩
  intro state
  rcases inner.agree { state with scopes := state.scopes.push } with
    same | ⟨error, after, ended, unavailable, extended⟩
  · exact .inl (by rw [Run.inScope, Run.inScope, same])
  · exact .inr ⟨error, _, Run.inScope_of_error ended, unavailable, extended.leaveBlock⟩

/-- A name that is there gives the same on both sides, and a missing one ends the first run. -/
theorem create {kind : EntryKind} {ι : Type} {smaller larger : Registry kind ι}
    (restricts : smaller.Restricts larger) (name : String) :
    Narrows (Run.ofExcept id (smaller.create name)) (Run.ofExcept id (larger.create name)) := by
  have forward := extending.forward_ofExcept id (larger.create name)
  rcases restricts.create name with same | missing
  · rw [same]
    exact refl forward
  · rw [missing]
    exact of_fail (.inl rfl) forward

/-- A feature that is there is there on both sides, and one that is missing may end the first run
only. -/
theorem requireFeature {host other : Host} (restricts : host.registries.Restricts other.registries)
    (feature : String) :
    Narrows (BuiltinCommand.requireFeature host.registries feature)
      (BuiltinCommand.requireFeature other.registries feature) := by
  have forward : extending.Forward (BuiltinCommand.requireFeature other.registries feature) :=
    extending.forward_requireFeature feature
  by_cases supported : host.registries.supportsFeature feature = true
  · have both : BuiltinCommand.requireFeature host.registries feature =
        BuiltinCommand.requireFeature other.registries feature := by
      rw [BuiltinCommand.requireFeature, BuiltinCommand.requireFeature, if_pos supported,
        if_pos (restricts.supportsFeature supported)]
    rw [both]
    exact refl forward
  · have missing : BuiltinCommand.requireFeature host.registries feature =
        Run.fail (.unsupportedFeature feature) := by
      rw [BuiltinCommand.requireFeature, if_neg supported]
    rw [missing]
    exact of_fail (.inr rfl) forward

end Narrows

/-- The runs under fewer names and under more go with each other in all that evaluation does. -/
def narrowing {smaller larger : Registries} (restricts : smaller.Restricts larger)
    (failures : Failures) :
    Correspondence { registries := smaller, failures } { registries := larger, failures } where
  Related := Narrows
  related_pure _ := .refl extending.refl
  related_bind := .bind
  related_fail _ := .refl extending.refl
  related_moveTo coordinate := .refl fun state => extending.moveTo state coordinate
  related_ask call answer := .refl (extending.forward_ask call answer)
  related_test := .create restricts.tests
  related_comparator name := by
    rw [restricts.defaultComparator]
    exact .create restricts.comparators _
  related_command := .create restricts.commands
  related_order _ :=
    .refl (extending.forward_bind extending.refl fun _ => extending.forward_ofExcept .order _)
  related_feature := .requireFeature restricts
  related_current := .refl extending.refl
  related_record result := .refl fun state => extending.record state result
  related_collect action := .refl (extending.forward_collect action)
  related_write _ _ := .refl fun state => extending.write state _
  related_enter command := .refl fun state => extending.enterFlags state command
  related_update command := .refl fun state => extending.updateFlags state command
  related_leave command := .refl fun state => extending.leaveScopes state command
  related_inScope := .inScope

/-- **To take names away makes a script fail or changes nothing.**  Either the run under fewer names
is the run under more in every respect.  Or it fails for a name that is not there, and its actions
and log are beginnings of those of the other run. -/
theorem evaluate_of_restricts {smaller larger : Registries} (restricts : smaller.Restricts larger)
    (failures : Failures) (script : Script) (message : Message) :
    let narrow := script.evaluate { registries := smaller, failures } message
    let wide := script.evaluate { registries := larger, failures } message
    narrow = wide ∨
      ∃ error, narrow.result = .error error ∧ (error.kind = .lookup ∨ error.kind = .feature) ∧
        narrow.state.message.pending <+: wide.state.message.pending ∧
        narrow.state.log <+: wide.state.log := by
  intro narrow wide
  have related := (narrowing restricts failures).related_evaluateCommands script.commands
  rcases related.agree { message } with same | ⟨error, after, ended, unavailable, extended⟩
  · exact .inl (Run.outcome_congr same)
  · have outcome : narrow = ⟨.error error, after⟩ := Run.outcome_of_error ended
    have wideState : wide.state = Run.finalState
        (evaluateCommands { registries := larger, failures } script.commands) { message } :=
      Run.outcome_state _ _
    rw [outcome, wideState]
    exact .inr ⟨error, rfl, unavailable, extended.pending, extended.log⟩

/-- No message is to be filed. -/
def withoutFiling : Config where
  disabledCommands := ["fileinto"]

/-- `keep; if true { fileinto "work"; } stop;` -/
def filing : Script where
  commands := [
    { name := "keep" },
    { name := "if"
      arguments := { tests := some [{ name := "true" }] }
      block := some [{ name := "fileinto", arguments := { args := [.stringList ["work"]] } }] },
    { name := "stop" }]

/-- Where messages are not to be filed the script keeps the message and then fails. -/
theorem evaluate_of_restricts_withoutFiling :
    let smaller := Registries.ofConfig withoutFiling
    let larger := Registries.unrestricted withoutFiling
    let narrow := filing.evaluate { registries := smaller } {}
    let wide := filing.evaluate { registries := larger } {}
    smaller.Restricts larger ∧ narrow.state.message.pending = [.keep] ∧
      wide.state.message.pending = [.keep, .fileInto "work"] ∧
      (narrow = wide ∨
        ∃ error, narrow.result = .error error ∧ (error.kind = .lookup ∨ error.kind = .feature) ∧
          narrow.state.message.pending <+: wide.state.message.pending ∧
          narrow.state.log <+: wide.state.log) := by
  intro smaller larger narrow wide
  have restricts : smaller.Restricts larger := Registries.restricts_ofConfig withoutFiling
  have compared := evaluate_of_restricts restricts .none filing {}
  have kept : narrow.state.message.pending = [.keep] := by decide +kernel
  have filed : wide.state.message.pending = [.keep, .fileInto "work"] := by decide +kernel
  exact ⟨restricts, kept, filed, compared⟩

end MailSieve
