import MailSieve.Proofs.Bookkeeping
import MailSieve.Proofs.Prolog

/-!
# The ledger of a message

A message outlives the runs on it.  Its actions are collected by runs and by hosts, carried out at
some time, and forgotten at a reset; in between fields are put in, questions are asked, and runs
fail.  Through all of this no action is lost and none is there twice: the actions carried out with
those pending behind them are just the actions that have been added since the last reset.

* `Event` is what can happen to a message: a step of a session, under any `Registries` (which hold
  the built-in commands and tests under any names, and comparators of any make), or that another
  session takes the message up.  `Event.after` is what a row of events leads to.
* `Event.added` are the actions that a row of events has added, read off the calls that it has made.
* `Event.Posted` says what one event does to the message, and `Event.posted` that every event does
  that.
* `State.Recorded`: nothing is lost between two states and nothing is there twice.
  `Event.recorded_perform` is the step for an event that is no reset, `Event.recorded_after` the
  history, and `ledger_exact` puts both together.
-/

namespace MailSieve

/-- All actions on the message, those carried out before those pending. -/
def Message.actions (message : Message) : List Action := message.executed ++ message.pending

/-! ### Events -/

/-- What can happen to a message. -/
inductive Event where
  /-- A step of the session that is going on, under these registries. -/
  | step (registries : Registries) (step : Step)
  /-- Another session begins on the message, or another run. -/
  | renew

namespace Event

/-- Where an event leads.  Which calls fail is up to the message, so it does not change between
sessions. -/
def perform (failures : Failures) : Event → State → State
  | step registries taken, state => (taken.perform { registries, failures } state).2
  | renew, state => { message := state.message, calls := state.calls }

/-- Where a row of events leads. -/
def after (failures : Failures) (events : List Event) (state : State) : State :=
  events.foldl (fun reached event => event.perform failures reached) state

/-- The actions that a row of events adds: those of the calls made in it that do not fail. -/
def added (failures : Failures) (events : List Event) (state : State) : List Action :=
  failures.accepted state.calls ((after failures events state).calls.drop state.calls.length)

/-- The actions on the message are forgotten. -/
def IsReset : Event → Prop
  | step _ .reset => True
  | _ => False

/-- The pending actions are carried out. -/
def CarriesOut : Event → Prop
  | step _ .executeActions => True
  | _ => False

/-- The fields that an event puts in. -/
def putIn : Event → List Header
  | step _ (.withHeader header) => [header]
  | _ => []

/-- The size that an event states. -/
def stated : Event → Option UInt64
  | step _ (.withSize size) => some size
  | _ => none

/-- **What one event does to the message.** -/
structure Posted (failures : Failures) (event : Event) (before : State) : Prop where
  /-- Actions are carried out in the order in which they have been pending, and none is left. -/
  carriedOut : event.CarriesOut →
    (event.perform failures before).message.executed =
        before.message.executed ++ before.message.pending ∧
      (event.perform failures before).message.pending = []
  /-- A reset empties both lists. -/
  forgotten : event.IsReset →
    (event.perform failures before).message.executed = [] ∧
      (event.perform failures before).message.pending = []
  /-- Nothing else changes what has been carried out, and actions are added behind those pending. -/
  kept : ¬ event.CarriesOut → ¬ event.IsReset →
    (event.perform failures before).message.executed = before.message.executed ∧
      (event.perform failures before).message.pending =
        before.message.pending ++ added failures [event] before
  /-- Of an action that a host adds itself it is told whether it has been added. -/
  told : ∀ registries action, event = step registries (.addAction action) →
    let answer := ((Step.addAction action).perform { registries, failures } before).1
    (answer = .done ∧ added failures [event] before = [action]) ∨
      ∃ fault, answer = .fault fault ∧ added failures [event] before = []
  headers : (event.perform failures before).message.headers = before.message.headers ++ event.putIn
  statedSize :
    (event.perform failures before).message.statedSize = event.stated.or before.message.statedSize

end Event

/-! ### One step -/

section Steps

variable {host : Host} {state : State}

/-- The steps by which a host changes the message itself. -/
def Step.EditsMessage : Step → Prop
  | executeActions | reset | withHeader _ | withSize _ => True
  | _ => False

/-- What a run does is booked, also where its error is an answer. -/
theorem booked_asStep {α : Type} {run : Run α} (answer : α → Answer)
    (booked : state.Booked host.failures (run.finalState state)) :
    state.Booked host.failures (run.asStep answer state).2 := by
  rwa [Run.asStep_state]

/-- A question of a host adds nothing. -/
theorem booked_question {α : Type} {call : Call} (question : call.action? = none)
    (read : Message → α) (answer : α → Answer) :
    state.Booked host.failures (Step.question host call read answer state).2 := by
  have asked : state.Questioned { state with calls := state.calls ++ [call] } :=
    ⟨rfl, [call], rfl, List.forall_mem_singleton.mpr question⟩
  unfold Step.question Step.call
  dsimp only
  cases host.failures.answer state.calls call (read state.message) <;> exact .of_questioned asked

/-- A host's action that is refused leaves a call behind and nothing else. -/
theorem perform_addAction_of_some {action : Action} {fault : MailFault}
    (refused : host.failures state.calls (.addAction action) = some fault) :
    (Step.addAction action).perform host state =
      (.fault fault, { state with calls := state.calls ++ [.addAction action] }) := by
  simp only [Step.perform, Step.call, Failures.answer, refused]

/-- A host's action that is not refused is added. -/
theorem perform_addAction_of_none {action : Action}
    (taken : host.failures state.calls (.addAction action) = none) :
    (Step.addAction action).perform host state =
      (.done, { state with
        calls := state.calls ++ [.addAction action]
        message := state.message.addAction action }) := by
  simp only [Step.perform, Step.call, Failures.answer, taken, id]

/-- An action that a host adds is booked if it is not refused. -/
theorem booked_addAction (host : Host) (action : Action) (state : State) :
    state.Booked host.failures ((Step.addAction action).perform host state).2 := by
  cases refused : host.failures state.calls (.addAction action) with
  | some fault =>
      rw [perform_addAction_of_some refused]
      exact .of_refused refused
  | none =>
      rw [perform_addAction_of_none refused]
      exact .of_taken refused

/-- What only asks is booked. -/
theorem booked_of_onlyAsks {α : Type} {run : Run α} (only : OnlyAsks run) (answer : α → Answer) :
    state.Booked host.failures (run.asStep answer state).2 :=
  booked_asStep answer (.of_questioned (only state))

/-- What one phase of a command does is booked. -/
theorem booked_takeCommandPhase (host : Host) (command : Command) (implementation : BuiltinCommand)
    (phase : CommandPhase) (state : State) :
    state.Booked host.failures
      (Step.takeCommandPhase host command implementation phase state).2 := by
  cases phase with
  | kind | continuesChain => exact .refl state
  | validateState | validateArguments | validateBlock =>
      exact booked_of_onlyAsks (.ofExcept _ _) _
  | execute =>
      exact booked_asStep _ (booked_execute host implementation command.arguments command.block state)
  | updateState => exact (State.Booked.refl state).then_eq rfl rfl

/-- What one phase of a test does is booked. -/
theorem booked_takeTestPhase (host : Host) (test : Test) (implementation : BuiltinTest)
    (phase : TestPhase) (state : State) :
    state.Booked host.failures (Step.takeTestPhase host test implementation phase state).2 := by
  cases phase with
  | validateArguments => exact booked_of_onlyAsks (.ofExcept _ _) _
  | evaluate =>
      exact booked_of_onlyAsks
        (onlyAsks_evaluate implementation fun inner _ => onlyAsks_evaluateTest inner) _

/-- **A step that does not change the message itself is booked**, be it a whole run, a part of one,
or a call. -/
theorem booked_perform (host : Host) {step : Step} (unedited : ¬ step.EditsMessage)
    (state : State) : state.Booked host.failures (step.perform host state).2 := by
  cases step with
  | executeActions | reset | withHeader | withSize => exact absurd trivial unedited
  | script tree => exact booked_asStep _ (booked_evaluateCommands host tree.commands state)
  | block commands => exact booked_asStep _ (booked_evaluateBlock host commands state)
  | command node => exact booked_asStep _ (booked_evaluateCommand host node state)
  | test node => exact booked_of_onlyAsks (onlyAsks_evaluateTest node) _
  | commandPhase node phase =>
      unfold Step.perform
      dsimp only
      -- where nothing can be made under the name, the state stays as it was
      split
      · exact booked_takeCommandPhase host node _ phase state
      · exact .refl state
  | testPhase node phase =>
      unfold Step.perform
      dsimp only
      split
      · exact booked_takeTestPhase host node _ phase state
      · exact .refl state
  | validateKind kind => exact booked_of_onlyAsks (.ofExcept _ _) _
  | compare comparator matchType value key =>
      exact booked_of_onlyAsks (.bind (.ofExcept _ _) fun _ => .ofExcept _ _) _
  | compareAny comparator matchType values keys =>
      exact booked_of_onlyAsks (onlyAsks_compareAny comparator matchType values keys) _
  | addAction action => exact booked_addAction host action state
  | header name | matchingHeader name => exact booked_question rfl _ _
  | headerNames | size => exact booked_question rfl _ _
  | _ => exact (State.Booked.refl state).then_eq rfl rfl

end Steps

/-! ### One event -/

namespace Event

variable (failures : Failures)

/-- What an event adds is read off the calls made in it. -/
theorem added_of_calls_eq {event : Event} {state : State} {made : List Call}
    (calls : (event.perform failures state).calls = state.calls ++ made) :
    added failures [event] state = failures.accepted state.calls made := by
  have here : after failures [event] state = event.perform failures state := rfl
  rw [added, here, calls, List.drop_left]

/-- A host is told whether the action that it adds has been added. -/
theorem told_addAction {event : Event} {state : State} (registries : Registries) (action : Action)
    (own : event = step registries (.addAction action)) :
    let answer := ((Step.addAction action).perform { registries, failures } state).1
    let adds := added failures [event] state
    (answer = .done ∧ adds = [action]) ∨ ∃ fault, answer = .fault fault ∧ adds = [] := by
  subst own
  let host : Host := { registries, failures }
  cases refused : failures state.calls (.addAction action) with
  | some fault =>
      have performed := @perform_addAction_of_some host state action fault refused
      have calls : ((step registries (.addAction action)).perform failures state).calls =
          state.calls ++ [.addAction action] := congrArg (·.2.calls) performed
      refine .inr ⟨fault, congrArg Prod.fst performed, ?_⟩
      exact (added_of_calls_eq failures calls).trans (failures.accepted_of_some refused)
  | none =>
      have performed := @perform_addAction_of_none host state action refused
      have calls : ((step registries (.addAction action)).perform failures state).calls =
          state.calls ++ [.addAction action] := congrArg (·.2.calls) performed
      refine .inl ⟨congrArg Prod.fst performed, ?_⟩
      exact (added_of_calls_eq failures calls).trans (failures.accepted_of_none refused)

/-- Of an event that is booked nothing is to be posted but the actions that it adds. -/
theorem Posted.of_booked {event : Event} {state : State}
    (booked : state.Booked failures (event.perform failures state))
    (rests : ¬ event.CarriesOut) (keeps : ¬ event.IsReset) (noField : event.putIn = [])
    (noSize : event.stated = none) : event.Posted failures state := by
  obtain ⟨made, calls, message⟩ := booked
  refine ⟨fun carries => absurd carries rests, fun forgets => absurd forgets keeps,
    fun _ _ => ⟨?_, ?_⟩, told_addAction failures, ?_, ?_⟩
  · rw [message]
  · rw [message, added_of_calls_eq failures calls]
  · rw [message, noField, List.append_nil]
  · rw [message, noSize, Option.none_or]

/-- A step that does not change the message itself is booked as an event. -/
theorem booked_step (registries : Registries) {taken : Step} (unedited : ¬ taken.EditsMessage)
    (state : State) : state.Booked failures ((step registries taken).perform failures state) :=
  booked_perform { registries, failures } unedited state

/-- **The step**: every event does to the message what is said of it. -/
theorem posted (event : Event) (state : State) : event.Posted failures state := by
  cases event with
  | renew => exact .of_booked failures (.of_questioned (.of_eq rfl rfl)) id id rfl rfl
  | step registries taken =>
      have unheard
          (calls : ((step registries taken).perform failures state).calls = state.calls ++ []) :
          state.message.pending =
            state.message.pending ++ added failures [step registries taken] state := by
        rw [added_of_calls_eq failures calls, Failures.accepted, List.append_nil]
      have silent := (List.append_nil state.calls).symm
      cases taken with
      | executeActions =>
          exact ⟨fun _ => ⟨rfl, rfl⟩, False.elim, fun rests => absurd trivial rests,
            told_addAction failures, (List.append_nil _).symm, rfl⟩
      | reset =>
          exact ⟨False.elim, fun _ => ⟨rfl, rfl⟩, fun _ keeps => absurd trivial keeps,
            told_addAction failures, (List.append_nil _).symm, rfl⟩
      | withHeader header =>
          exact ⟨False.elim, False.elim, fun _ _ => ⟨rfl, unheard silent⟩,
            told_addAction failures, rfl, rfl⟩
      | withSize size =>
          exact ⟨False.elim, False.elim, fun _ _ => ⟨rfl, unheard silent⟩,
            told_addAction failures, (List.append_nil _).symm, rfl⟩
      | _ => exact .of_booked failures (booked_step failures registries id state) id id rfl rfl

end Event

/-! ### Histories -/

/-- Between the two states calls were made, and the message has got the actions of those that did
not fail, in their order and behind all that there were. -/
def State.Recorded (failures : Failures) (before after : State) : Prop :=
  ∃ made, after.calls = before.calls ++ made ∧
    after.message.actions = before.message.actions ++ failures.accepted before.calls made

namespace State.Recorded

variable {failures : Failures} {first second third : State}

/-- What is booked is recorded. -/
theorem of_booked (booked : first.Booked failures second) : first.Recorded failures second := by
  obtain ⟨made, calls, message⟩ := booked
  refine ⟨made, calls, ?_⟩
  rw [message, Message.actions, Message.actions, List.append_assoc]

/-- What only moves actions, from pending to carried out, leaves nothing to record. -/
theorem of_eq (calls : second.calls = first.calls)
    (actions : second.message.actions = first.message.actions) :
    first.Recorded failures second :=
  ⟨[], by rw [calls, List.append_nil], by rw [actions, Failures.accepted, List.append_nil]⟩

theorem trans (here : first.Recorded failures second) (there : second.Recorded failures third) :
    first.Recorded failures third := by
  obtain ⟨made, calls, actions⟩ := here
  obtain ⟨more, callsMore, actionsMore⟩ := there
  refine ⟨made ++ more, ?_, ?_⟩
  · rw [callsMore, calls, List.append_assoc]
  · rw [actionsMore, actions, calls, failures.accepted_append, List.append_assoc]

end State.Recorded

namespace Event

variable (failures : Failures)

/-- An event that is no reset adds what it adds, and loses nothing. -/
theorem recorded_perform {event : Event} (keeps : ¬ event.IsReset) (state : State) :
    state.Recorded failures (event.perform failures state) := by
  cases event with
  | renew => exact .of_eq rfl rfl
  | step registries taken =>
      by_cases edits : taken.EditsMessage
      · cases taken with
        | reset => exact absurd trivial keeps
        | executeActions =>
            refine .of_eq rfl ?_
            exact List.append_nil _
        | withHeader | withSize => exact .of_eq rfl rfl
        | _ => cases edits
      · exact .of_booked (booked_step failures registries edits state)

/-- **The history**: events without a reset record what they add, by induction on the events. -/
theorem recorded_after {events : List Event} (keep : ∀ event ∈ events, ¬ event.IsReset)
    (state : State) : state.Recorded failures (after failures events state) := by
  induction events generalizing state with
  | nil => exact .of_eq rfl rfl
  | cons event rest ih =>
      obtain ⟨first, later⟩ := List.forall_mem_cons.mp keep
      exact (recorded_perform failures first state).trans (ih later _)

/-- What is recorded of events are the actions that they add. -/
theorem actions_after {events : List Event} (keep : ∀ event ∈ events, ¬ event.IsReset)
    (state : State) :
    (after failures events state).message.actions =
      state.message.actions ++ added failures events state := by
  obtain ⟨made, calls, actions⟩ := recorded_after failures keep state
  rw [added, calls, List.drop_left, actions]

/-- Two rows of events lead where the second leads from the end of the first. -/
theorem after_append (earlier later : List Event) (state : State) :
    after failures (earlier ++ later) state =
      after failures later (after failures earlier state) :=
  List.foldl_append

/-- Behind a reset there are no actions. -/
theorem actions_of_isReset {event : Event} (reset : event.IsReset) (state : State) :
    (event.perform failures state).message.actions = [] := by
  cases event with
  | renew => cases reset
  | step registries taken =>
      cases taken with
      | reset => rfl
      | _ => cases reset

end Event

/-- **The ledger is exact.**  After every row of events the actions carried out, followed by those
pending, are the actions that have been added since the last reset, in their order; without a reset
they are those that there were at the start with those added behind them.  What has been carried out
changes only when actions are carried out, which puts the pending ones behind it and leaves none, and
at a reset, which empties both.  Fields and the stated size change only by the steps that are there
for it, so no run changes them, whatever becomes of it.  A host that adds an action itself is told
whether it has been added. -/
theorem ledger_exact (failures : Failures) (state : State) :
    (∀ events : List Event, (∀ event ∈ events, ¬ event.IsReset) →
      (Event.after failures events state).message.actions =
        state.message.actions ++ Event.added failures events state) ∧
    (∀ (earlier : List Event) (reset : Event) (later : List Event), reset.IsReset →
      (∀ event ∈ later, ¬ event.IsReset) →
        (Event.after failures (earlier ++ reset :: later) state).message.actions =
          Event.added failures later (Event.after failures (earlier ++ [reset]) state)) ∧
    ∀ (earlier : List Event) (event : Event),
      event.Posted failures (Event.after failures earlier state) := by
  refine ⟨fun events keep => Event.actions_after failures keep state, ?_,
    fun earlier event => event.posted failures _⟩
  intro earlier reset later forgets keep
  have restart : (Event.after failures (earlier ++ [reset]) state).message.actions = [] := by
    rw [Event.after_append]
    exact Event.actions_of_isReset failures forgets _
  have split : earlier ++ reset :: later = (earlier ++ [reset]) ++ later :=
    List.append_cons earlier reset later
  rw [split, Event.after_append, Event.actions_after failures keep, restart, List.nil_append]

/-- `keep; redirect "a@b.org"; discard;` -/
def keepingForward : Script where
  commands := [
    { name := "keep" },
    { name := "redirect", arguments := { args := [.stringList ["a@b.org"]] } },
    { name := "discard" }]

/-- A run on a message that refuses the `redirect` ends there, but its `keep` has been added.  It is
carried out, and so are the actions of other sessions; what was there before the reset is not. -/
theorem ledger_exact_refusedForward :
    let failures := Failures.ofRules [⟨.addAction, some "redirect", .actionRefused "full"⟩]
    let step := Event.step .builtin
    let earlier := [step (.addAction (.fileInto "old")), step .executeActions]
    let later := [step (.script keepingForward), step .executeActions, step (.header "To"), .renew,
      step (.addAction (.redirect "a@b.org")), step (.addAction .discard)]
    (step .reset).IsReset ∧ (∀ event ∈ later, ¬ event.IsReset) ∧
      (Event.after failures (earlier ++ step .reset :: later) {}).message.actions =
        [.keep, .discard] ∧
      (Event.after failures later {}).message.actions = [.keep, .discard] := by
  intro failures step earlier later
  have keep : ∀ event ∈ later, ¬ event.IsReset := by
    simp [later, step, Event.IsReset]
  obtain ⟨start, sinceReset, -⟩ := ledger_exact failures {}
  refine ⟨trivial, keep, ?_, ?_⟩
  · rw [sinceReset earlier (step .reset) later trivial keep]
    decide +kernel
  · rw [start later keep]
    decide +kernel

end MailSieve
