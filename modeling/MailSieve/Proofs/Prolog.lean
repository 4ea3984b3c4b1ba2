import MailSieve.Proofs.Chain
import MailSieve.Proofs.Trace
import MailSieve.Session

/-!
# The prolog

A `require` belongs before all other commands.  A run keeps a flag for this, which every other
command clears as soon as it is found to be in its place, and which nothing sets again.  So the flag
tells of the history of a run: whether some command that is no `require` has passed its state
validation so far.

* `Start.EndsProlog`: the command is no `require` and passes its state validation.
* `PrologAlong` follows the flag along the starts of a run.  `inProlog_begin` is the step for one
  command up to its block, and `prologAlong_traceCommands` the run.
* `failsWith_order_require_iff`: a `require` that is started fails for a reason of order just if the
  prolog is over.
* `inProlog_perform`: in a session, too, the prolog does not come back.
* `prolog_exact` puts these together.
-/

namespace MailSieve

/-- The evaluation of the command fails with an error of the given class. -/
def Start.FailsWith (host : Host) (kind : ErrorKind) (start : Start) : Prop :=
  ∃ error after, evaluateCommand host start.command start.state = .error error after ∧
    error.kind = kind

/-- The command passes its state validation and is no `require`. -/
def Start.EndsProlog (host : Host) (start : Start) : Prop :=
  ∃ implementation, start.Passed host implementation ∧ implementation ≠ .require

/-! ### One command -/

section Step

variable {host : Host} {start : Start} {implementation : BuiltinCommand}

/-- Whether a start ends the prolog is said of the implementation behind its name. -/
theorem Start.endsProlog_iff
    (made : host.registries.commands.create start.command.name = .ok implementation) :
    start.EndsProlog host ↔
      implementation.validateState start.state = .ok () ∧ implementation ≠ .require := by
  constructor
  · rintro ⟨found, ⟨same, passed⟩, other⟩
    rw [made] at same
    cases same
    exact ⟨passed, other⟩
  · rintro ⟨passed, other⟩
    exact ⟨implementation, ⟨made, passed⟩, other⟩

/-- Only `require` belongs to the prolog. -/
theorem BuiltinCommand.kind_eq_prolog_iff (command : BuiltinCommand) :
    command.kind = .prolog ↔ command = .require := by
  cases command <;> simp [kind]

/-- A command in its place ends the prolog unless it is a `require`. -/
theorem BuiltinCommand.inProlog_enterFlags (command : BuiltinCommand) (flags : Flags) :
    (command.enterFlags flags).inProlog = false ↔ flags.inProlog = false ∨ command ≠ .require := by
  unfold enterFlags
  split
  · rename_i prolog
    simp [command.kind_eq_prolog_iff.mp prolog]
  · rename_i other
    simp [mt command.kind_eq_prolog_iff.mpr other]

@[simp] theorem BuiltinCommand.inProlog_updateFlags (command : BuiltinCommand) (flags : Flags) :
    (command.updateFlags flags).inProlog = flags.inProlog := by
  cases command with
  | action own => cases own <;> rfl
  | _ => rfl

variable (host start)

/-- The checks end the prolog if the command passes its state validation, whatever comes of its
arguments and its block. -/
theorem inProlog_prepare :
    ((BuiltinCommand.prepare host start.command.name (start.command.arguments.map
      (evaluateTest host)) start.command.block start.command.coordinate).finalState
        start.state).flags.inProlog = false ↔
      start.state.flags.inProlog = false ∨ start.EndsProlog host := by
  rw [Run.finalState, BuiltinCommand.prepare_apply]
  cases made : host.registries.commands.create start.command.name with
  | error cause =>
      have unmade : ¬ start.EndsProlog host := by
        rintro ⟨found, ⟨same, -⟩, -⟩
        rw [made] at same
        cases same
      simp [unmade]
  | ok implementation =>
      rw [Start.endsProlog_iff made]
      cases placed : implementation.validateState start.state with
      | error fault =>
          simp only [placed, reduceCtorEq, false_and, or_false]
      | ok passed =>
          have entered := implementation.inProlog_enterFlags start.state.flags
          simp only [placed, true_and]
          cases implementation.validateArguments
              (start.command.arguments.map (evaluateTest host)) with
          | error fault => exact entered
          | ok passed => cases implementation.validateBlock start.command.block <;> exact entered

/-- Behind the checks the flag stays as it is: a `require` changes nothing, and for every other
command the prolog is over. -/
theorem inProlog_act {entered : State} {block : Option (List Command)} (arguments : Arguments)
    (ended : entered.flags.inProlog = false ∨ implementation = .require) :
    ((implementation.act host (arguments.map (evaluateTest host)) block).finalState
      entered).flags.inProlog = entered.flags.inProlog := by
  rcases ended with past | rfl
  · rw [past]
    exact (prologOver.correspondence host).related_act implementation arguments block
      (fun guard _ => (prologOver.correspondence host).related_evaluateTest guard) entered past
  · rw [BuiltinCommand.finalState_act_require]

/-- **The step**: up to its block a command ends the prolog just if it is no `require` and passes
its state validation. -/
theorem inProlog_begin :
    ((start.command.begin host).finalState start.state).flags.inProlog = false ↔
      start.state.flags.inProlog = false ∨ start.EndsProlog host := by
  rw [← inProlog_prepare, Command.finalState_begin]
  cases prepared : BuiltinCommand.prepare host start.command.name
      (start.command.arguments.map (evaluateTest host)) start.command.block start.command.coordinate
      start.state with
  | error error after => rw [Run.finalState_of_error prepared]
  | ok implementation entered =>
      obtain ⟨-, -, -, -, rfl⟩ := BuiltinCommand.prepare_eq_ok_iff.mp prepared
      rw [Run.finalState_of_ok prepared]
      dsimp only
      rw [inProlog_act]
      by_cases own : implementation = .require
      · exact .inr own
      · exact .inl ((implementation.inProlog_enterFlags start.state.flags).mpr (.inr own))

end Step

section Evaluation

variable {host : Host} {command : Command} {state after : State}

/-- With a block, it is the block that decides. -/
theorem inProlog_evaluateCommand_of_block {implementation : BuiltinCommand} {inner : List Command}
    (began : command.begin host state = .ok (implementation, .block inner) after) :
    ((evaluateCommand host command).finalState state).flags.inProlog =
      ((evaluateBlock host inner).finalState after).flags.inProlog := by
  rcases finalState_evaluateCommand_of_begin_block began with left | left
  · rw [left]
  · rw [left]
    exact implementation.inProlog_updateFlags _

/-- A block leaves the flag as its commands do. -/
theorem inProlog_evaluateBlock (host : Host) (commands : List Command) (state : State) :
    ((evaluateBlock host commands).finalState state).flags.inProlog =
      ((evaluateCommands host commands).finalState
        { state with scopes := state.scopes.push }).flags.inProlog := by
  rw [evaluateBlock, Run.finalState_inScope]

/-- A `require` has no block to run. -/
theorem Command.ne_require_of_begin {implementation : BuiltinCommand} {inner : List Command}
    (began : command.begin host state = .ok (implementation, .block inner) after) :
    implementation ≠ .require := by
  rintro rfl
  obtain ⟨entered, -, acted⟩ := Command.begin_eq_ok_iff.mp began
  rw [BuiltinCommand.act_require_apply] at acted
  split at acted
  · cases acted
  · split at acted <;> cases acted

/-- A command that comes to its block has ended the prolog. -/
theorem inProlog_of_begin_block {implementation : BuiltinCommand} {inner : List Command}
    (began : command.begin host state = .ok (implementation, .block inner) after) :
    after.flags.inProlog = false := by
  let start : Start := ⟨[], 0, command, state⟩
  have step := inProlog_begin host start
  rw [Run.finalState_of_ok began] at step
  exact step.mpr
    (.inr ⟨implementation, Start.passed_of_begin began, Command.ne_require_of_begin began⟩)

/-- A command that does not fail ends the prolog unless it is a `require`. -/
theorem inProlog_of_evaluateCommand {flow : Flow}
    (ended : evaluateCommand host command state = .ok flow after) :
    after.flags.inProlog = false ↔
      state.flags.inProlog = false ∨
        host.registries.commands.create command.name ≠ .ok .require := by
  obtain ⟨implementation, next, between, reached, began, ran, rfl⟩ :=
    exists_of_evaluateCommand_eq_ok ended
  let start : Start := ⟨[], 0, command, state⟩
  have passed : start.Passed host implementation := Start.passed_of_begin began
  have made : host.registries.commands.create command.name = .ok implementation := passed.1
  have placed : implementation.validateState state = .ok () := passed.2
  have step := inProlog_begin host start
  rw [Run.finalState_of_ok began, Start.endsProlog_iff made] at step
  have other : host.registries.commands.create command.name ≠ .ok .require ↔
      implementation.validateState state = .ok () ∧ implementation ≠ .require := by
    -- the command has succeeded, so it has passed its state validation
    simp [made, placed]
  rw [BuiltinCommand.concluded, implementation.inProlog_updateFlags, other, ← step]
  cases next with
  | done flow =>
      cases ran
      rfl
  | block inner =>
      -- a command with a block is none of the prolog, so the prolog is over before the block
      have past := inProlog_of_begin_block began
      have kept := (prologOver.correspondence host).related_evaluateBlock inner between past
      rw [Next.run] at ran
      rw [Run.finalState_of_ok ran] at kept
      simp [past, kept]

end Evaluation

/-! ### Whole runs -/

/-- The flag follows a row of starts: each is made with the flag as the one before has left it. -/
inductive PrologAlong (host : Host) : Bool → List Start → Bool → Prop
  | nil (inProlog : Bool) : PrologAlong host inProlog [] inProlog
  | cons {start : Start} {starts : List Start} {before next after : Bool}
      (here : start.state.flags.inProlog = before)
      (left : next = false ↔ before = false ∨ start.EndsProlog host)
      (behind : PrologAlong host next starts after) :
      PrologAlong host before (start :: starts) after

namespace PrologAlong

variable {host : Host} {starts others : List Start} {before between after : Bool}

/-- Two rows of starts follow the flag one after the other. -/
theorem append (first : PrologAlong host before starts between)
    (second : PrologAlong host between others after) :
    PrologAlong host before (starts ++ others) after := by
  induction first with
  | nil inProlog => exact second
  | cons here left behind ih => exact .cons here left (ih second)

/-- It does not matter where the list of the commands stands. -/
theorem inside (index : Nat) (along : PrologAlong host before starts after) :
    PrologAlong host before (starts.map (Start.inside index)) after := by
  induction along with
  | nil inProlog => exact .nil inProlog
  | cons here left behind ih => exact .cons here left ih

/-- **The history behind the flag.**  A command is started with the prolog over if it was over at
the beginning, or a command started before has ended it. -/
theorem inProlog_iff {earlier later : List Start} {start : Start}
    (along : PrologAlong host before (earlier ++ start :: later) after) :
    start.state.flags.inProlog = false ↔
      before = false ∨ ∃ other ∈ earlier, other.EndsProlog host := by
  induction earlier generalizing before with
  | nil =>
      cases along with
      | cons here left behind => simp [here]
  | cons first rest ih =>
      cases along with
      | cons here left behind =>
          rw [ih behind, left, or_assoc]
          simp

end PrologAlong

section Along

variable (host : Host)

/-- The flag follows the starts of a list, given that it follows those of each command. -/
theorem prologAlong_of_each {commands : List Command}
    (each : ∀ command ∈ commands, ∀ index state,
      PrologAlong host state.flags.inProlog (traceCommand host index command state)
        ((evaluateCommand host command).finalState state).flags.inProlog)
    (index : Nat) (state : State) :
    PrologAlong host state.flags.inProlog (traceCommands host index commands state)
      ((evaluateCommands host commands).finalState state).flags.inProlog := by
  induction commands generalizing index state with
  | nil =>
      rw [traceCommands_nil]
      exact .nil _
  | cons command rest ih =>
      obtain ⟨first, later⟩ := List.forall_mem_cons.mp each
      have here := first index state
      by_cases halts : (evaluateCommand host command).Halts state
      · rw [traceCommands_of_halts halts, finalState_evaluateCommands_of_halts halts]
        exact here
      · obtain ⟨between, proceeds⟩ := Run.exists_proceed_of_not_halts halts
        rw [Run.finalState_of_ok proceeds] at here
        rw [traceCommands_of_proceed proceeds, finalState_evaluateCommands_of_proceed proceeds]
        exact here.append (ih later (index + 1) between)

/-- **The flag along a run of one command**, by induction on the tree. -/
theorem prologAlong_traceCommand (index : Nat) (command : Command) (state : State) :
    PrologAlong host state.flags.inProlog (traceCommand host index command state)
      ((evaluateCommand host command).finalState state).flags.inProlog := by
  induction command using Command.induction generalizing index state with
  | node name arguments block coordinate nested =>
      let start : Start := ⟨[], index, ⟨name, arguments, block, coordinate⟩, state⟩
      have step := inProlog_begin host start
      rw [traceCommand_apply]
      cases began : start.command.begin host state with
      | error error after =>
          rw [Run.finalState_of_error began] at step
          rw [Run.finalState_of_error (evaluateCommand_of_begin_error began)]
          exact .cons rfl step (.nil _)
      | ok begun after =>
          rw [Run.finalState_of_ok began] at step
          obtain ⟨implementation, next⟩ := begun
          cases next with
          | done flow =>
              rw [Run.finalState_of_ok (evaluateCommand_of_begin_done began),
                BuiltinCommand.concluded, implementation.inProlog_updateFlags]
              exact .cons rfl step (.nil _)
          | block inner =>
              have own : block = some inner := Command.block_eq_of_begin began
              rw [inProlog_evaluateCommand_of_block began, inProlog_evaluateBlock]
              refine .cons rfl step (.inside index ?_)
              exact prologAlong_of_each host (fun command present => nested command (by rwa [own]))
                0 { after with scopes := after.scopes.push }

/-- **The flag along a run.** -/
theorem prologAlong_traceCommands (index : Nat) (commands : List Command) (state : State) :
    PrologAlong host state.flags.inProlog (traceCommands host index commands state)
      ((evaluateCommands host commands).finalState state).flags.inProlog :=
  prologAlong_of_each host (fun command _ index => prologAlong_traceCommand host index command)
    index state

end Along

/-! ### Where a require stands -/

section Require

variable {host : Host} {start : Start}

/-- A `require` in its place can fail for its arguments, for its block, and for a feature. -/
theorem kind_of_require_error {error : RunError} {after : State}
    (made : host.registries.commands.create start.command.name = .ok .require)
    (placed : BuiltinCommand.require.validateState start.state = .ok ())
    (failed : evaluateCommand host start.command start.state = .error error after) :
    error.kind = .shape ∨ error.kind = .feature := by
  rcases exists_of_evaluateCommand_eq_error failed with began | ⟨found, inner, between, began, -, -⟩
  · rcases Command.begin_eq_error_iff.mp began with prepared | ⟨found, entered, prepared, acted⟩
    · rw [BuiltinCommand.prepare_apply] at prepared
      simp only [made, placed] at prepared
      split at prepared <;> cases prepared <;> exact .inl rfl
    · obtain ⟨same, -⟩ := BuiltinCommand.prepare_eq_ok_iff.mp prepared
      rw [made] at same
      cases same
      rw [BuiltinCommand.act_require_apply] at acted
      split at acted
      · cases acted
        exact .inl rfl
      · split at acted <;> cases acted
        exact .inr rfl
  · obtain ⟨same, -⟩ := Start.passed_of_begin began
    rw [made] at same
    cases same
    exact absurd rfl (Command.ne_require_of_begin began)

/-- A `require` may stand where the prolog is not over. -/
theorem validateState_require (state : State) :
    BuiltinCommand.require.validateState state =
      if state.flags.inProlog then .ok () else .error .prologOver := by
  unfold BuiltinCommand.validateState
  cases flag : state.flags.inProlog <;>
    simp [BuiltinCommand.kind, CommandKind.validateState, flag, bind, Except.bind]

/-- **A `require` fails for a reason of order just if the prolog is over.** -/
theorem failsWith_order_require_iff
    (made : host.registries.commands.create start.command.name = .ok .require) :
    start.FailsWith host .order ↔ start.state.flags.inProlog = false := by
  constructor
  · rintro ⟨error, after, failed, isOrder⟩
    cases flag : start.state.flags.inProlog with
    | false => rfl
    | true =>
        have placed : BuiltinCommand.require.validateState start.state = .ok () := by
          rw [validateState_require, flag, if_pos rfl]
        rcases kind_of_require_error made placed failed with isShape | isFeature
        · rw [isOrder] at isShape
          cases isShape
        · rw [isOrder] at isFeature
          cases isFeature
  · intro past
    have refused : BuiltinCommand.require.validateState start.state = .error .prologOver := by
      rw [validateState_require, past]
      rfl
    obtain ⟨-, -, -, failed⟩ := Start.outOfOrder_of_validateState made refused
    exact ⟨_, _, failed, rfl⟩

/-- A list that has been run has left the prolog if a command in it is no `require`. -/
theorem inProlog_of_evaluateCommands {earlier : List Command} {entry reached : State}
    (ran : evaluateCommands host earlier entry = .ok .proceed reached) :
    reached.flags.inProlog = false ↔
      entry.flags.inProlog = false ∨
        ∃ command ∈ earlier, host.registries.commands.create command.name ≠ .ok .require := by
  induction earlier generalizing entry with
  | nil =>
      cases ran
      simp
  | cons command rest ih =>
      obtain ⟨between, first, behind⟩ := exists_of_evaluateCommands_cons ran
      rw [ih behind, inProlog_of_evaluateCommand first, or_assoc]
      simp

/-- In a block the prolog is over. -/
theorem EntersBlock.inProlog {entry : State} (enters : EntersBlock host entry) :
    entry.flags.inProlog = false := by
  obtain ⟨command, implementation, inner, before, after, began, rfl⟩ := enters
  have past : after.flags.inProlog = false := inProlog_of_begin_block began
  exact past

end Require

/-! ### Sessions -/

section Session

variable {host : Host} {state : State}

/-- A step leaves the state in which its run ends. -/
theorem Run.asStep_state {α : Type} (answer : α → Answer) (run : Run α) (state : State) :
    (run.asStep answer state).2 = run.finalState state := by
  unfold asStep finalState
  cases run state <;> rfl

/-- A call leaves all but the message and the calls as it is. -/
theorem Step.flags_call {α : Type} (host : Host) (call : Call) (value : α) (answer : α → Answer)
    (message : α → Message) (state : State) :
    (Step.call host call value answer message state).2.flags = state.flags := by
  unfold Step.call
  dsimp only
  cases host.failures.answer state.calls call value <;> rfl

/-- What a host computes as a step does not bring the prolog back. -/
theorem inProlog_asStep {α : Type} {run : Run α} (forward : prologOver.Forward run)
    (answer : α → Answer) (past : state.flags.inProlog = false) :
    (run.asStep answer state).2.flags.inProlog = false := by
  rw [Run.asStep_state]
  exact forward state past

/-- No phase of a command brings the prolog back. -/
theorem inProlog_takeCommandPhase (host : Host) (command : Command)
    (implementation : BuiltinCommand) (phase : CommandPhase)
    (past : state.flags.inProlog = false) :
    (Step.takeCommandPhase host command implementation phase state).2.flags.inProlog = false := by
  cases phase with
  | kind | continuesChain => exact past
  | validateState | validateArguments | validateBlock =>
      exact inProlog_asStep (prologOver.forward_ofExcept _ _) _ past
  | execute =>
      exact inProlog_asStep (prologOver.forward_execute host implementation command.arguments
        command.block) _ past
  | updateState => exact (implementation.inProlog_updateFlags state.flags).trans past

/-- No phase of a test brings the prolog back. -/
theorem inProlog_takeTestPhase (host : Host) (test : Test) (implementation : BuiltinTest)
    (phase : TestPhase) (past : state.flags.inProlog = false) :
    (Step.takeTestPhase host test implementation phase state).2.flags.inProlog = false := by
  cases phase with
  | validateArguments => exact inProlog_asStep (prologOver.forward_ofExcept _ _) _ past
  | evaluate =>
      exact inProlog_asStep ((prologOver.correspondence host).related_evaluate implementation
        test.arguments fun inner _ => (prologOver.correspondence host).related_evaluateTest inner) _
        past

/-- **A step of a session does not bring the prolog back.** -/
theorem inProlog_perform (host : Host) (step : Step) (past : state.flags.inProlog = false) :
    (step.perform host state).2.flags.inProlog = false := by
  cases step with
  | script tree => exact inProlog_asStep (prologOver.le_finalState host tree.commands) _ past
  | block commands =>
      exact inProlog_asStep ((prologOver.correspondence host).related_evaluateBlock commands) _ past
  | command node =>
      exact inProlog_asStep ((prologOver.correspondence host).related_evaluateCommand node) _ past
  | test node => exact inProlog_asStep (prologOver.toTestOrder.le_finalState host node) _ past
  | commandPhase node phase =>
      unfold Step.perform
      dsimp only
      -- where nothing can be made under the name, the state stays as it was
      split
      · exact inProlog_takeCommandPhase host node _ phase past
      · exact past
  | testPhase node phase =>
      unfold Step.perform
      dsimp only
      split
      · exact inProlog_takeTestPhase host node _ phase past
      · exact past
  | validateKind kind => exact inProlog_asStep (prologOver.forward_ofExcept _ _) _ past
  | recordKind kind => cases kind <;> exact past
  | compare comparator matchType value key =>
      exact inProlog_asStep (prologOver.forward_bind (prologOver.forward_ofExcept _ _)
        fun _ => prologOver.forward_ofExcept _ _) _ past
  | compareAny comparator matchType values keys =>
      exact inProlog_asStep ((prologOver.correspondence host).related_compareAny comparator
        matchType values keys) _ past
  | addAction action => exact (congrArg _ (Step.flags_call host _ _ _ _ state)).trans past
  | header name | matchingHeader name =>
      exact (congrArg _ (Step.flags_call host _ _ _ _ state)).trans past
  | headerNames | size => exact (congrArg _ (Step.flags_call host _ _ _ _ state)).trans past
  | leaveProlog => rfl
  | _ => exact past

/-- The states that a session comes through, from the first on. -/
def Step.states (host : Host) (steps : List Step) (state : State) : List State :=
  state :: (Step.performAll host steps state).map Prod.snd

/-- **A session does not bring the prolog back.** -/
theorem pairwise_inProlog_states (host : Host) (steps : List Step) (state : State) :
    (Step.states host steps state).Pairwise fun before after =>
      before.flags.inProlog = false → after.flags.inProlog = false := by
  induction steps generalizing state with
  | nil => exact List.pairwise_singleton _ state
  | cons step rest ih =>
      have behind := ih (step.perform host state).2
      refine List.pairwise_cons.mpr ⟨?_, behind⟩
      intro after present past
      have next := inProlog_perform host step past
      rcases List.mem_cons.mp present with rfl | later
      · exact next
      · exact (List.pairwise_cons.mp behind).1 after later next

end Session

/-! ### The rule -/

/-- The command at this index and all commands before it in the list stand for `require`. -/
def InLeadingRequires (registries : Registries) (commands : List Command) (index : Nat) : Prop :=
  ∀ command ∈ commands.take (index + 1), registries.commands.create command.name = .ok .require

/-- **The rule on the prolog is exact.**  Take a `require` that the run of a script comes to.  It
fails for a reason of order if some command started before it was no `require` and passed its state
validation, and not otherwise.  At the top level this is so just if it does not belong to the
leading run of `require` commands, and within a block it is always so.  And no step of a session
brings the prolog back. -/
theorem prolog_exact (host : Host) :
    (∀ (script : Script) (message : Message) (earlier : List Start) (start : Start)
        (later : List Start),
      script.trace host message = earlier ++ start :: later →
      host.registries.commands.create start.command.name = .ok .require →
        (start.FailsWith host .order ↔ ∃ other ∈ earlier, other.EndsProlog host) ∧
        (start.outer = [] → script.commands[start.index]? = some start.command ∧
          (start.FailsWith host .order ↔
            ¬ InLeadingRequires host.registries script.commands start.index)) ∧
        (start.outer ≠ [] → start.FailsWith host .order)) ∧
    ∀ (steps : List Step) (state : State), (Step.states host steps state).Pairwise
      fun before after => before.flags.inProlog = false → after.flags.inProlog = false := by
  refine ⟨?_, pairwise_inProlog_states host⟩
  intro script message earlier start later split made
  have along := prologAlong_traceCommands host 0 script.commands { message }
  rw [← Script.trace, split] at along
  have started : start ∈ script.trace host message := by
    rw [split]
    simp
  obtain ⟨front, behind, entry, there, place, came, origin⟩ :=
    exists_list_of_mem_traceCommands started
  have reached := inProlog_of_evaluateCommands came
  rw [failsWith_order_require_iff made]
  refine ⟨?_, ?_, ?_⟩
  · rw [along.inProlog_iff]
    simp
  · intro top
    rw [top] at there
    have list : script.commands = front ++ start.command :: behind := Option.some.inj there
    rcases origin with ⟨-, rfl⟩ | ⟨inner, -⟩
    · refine ⟨by simp [list, place], ?_⟩
      have taken : script.commands.take (start.index + 1) = front ++ [start.command] := by
        simp [list, place, List.take_append, List.take_of_length_le (Nat.le_succ front.length)]
      have leading : InLeadingRequires host.registries script.commands start.index ↔
          ∀ command ∈ front, host.registries.commands.create command.name = .ok .require := by
        simp [InLeadingRequires, taken, made, or_imp, forall_and]
      rw [leading, reached]
      simp
    · exact absurd top inner
  · intro inner
    rcases origin with ⟨top, -⟩ | ⟨-, enters⟩
    · exact absurd top inner
    · exact reached.mpr (.inl enters.inProlog)

/-- `require "fileinto"; if true { require "fileinto"; }` -/
def lateRequire : Script where
  commands := [
    { name := "require", arguments := { args := [.stringList ["fileinto"]] } },
    { name := "if"
      arguments := { tests := some [{ name := "true" }] }
      block := some [{ name := "require", arguments := { args := [.stringList ["fileinto"]] } }] }]

/-- The first `require` does not fail for a reason of order, but the one in the block does: the `if`
around it has ended the prolog. -/
theorem prolog_exact_lateRequire :
    let host : Host := { registries := .builtin }
    ∃ first second third, lateRequire.trace host {} = [] ++ first :: [second, third] ∧
      lateRequire.trace host {} = [first, second] ++ third :: [] ∧
      host.registries.commands.create first.command.name = .ok .require ∧
      host.registries.commands.create third.command.name = .ok .require ∧
      ¬ first.FailsWith host .order ∧ third.outer ≠ [] ∧ third.FailsWith host .order := by
  intro host
  have starts : (lateRequire.trace host {}).map
      (fun start => (start.outer, start.index, start.command.name)) =
        [([], 0, "require"), ([], 1, "if"), ([1], 0, "require")] := by
    decide +kernel
  obtain ⟨first, behind, split, firstIs, starts⟩ := List.map_eq_cons_iff.mp starts
  obtain ⟨second, behind, rfl, -, starts⟩ := List.map_eq_cons_iff.mp starts
  obtain ⟨third, behind, rfl, thirdIs, starts⟩ := List.map_eq_cons_iff.mp starts
  obtain rfl := List.map_eq_nil_iff.mp starts
  have isRequire : host.registries.commands.create "require" = .ok .require :=
    Registries.create_builtin_command .require
  obtain ⟨-, -, firstName⟩ : first.outer = [] ∧ first.index = 0 ∧ first.command.name = "require" :=
    by simpa using firstIs
  obtain ⟨inner, -, thirdName⟩ : third.outer = [1] ∧ third.index = 0 ∧
      third.command.name = "require" := by simpa using thirdIs
  have madeFirst : host.registries.commands.create first.command.name = .ok .require := by
    rw [firstName]
    exact isRequire
  have madeThird : host.registries.commands.create third.command.name = .ok .require := by
    rw [thirdName]
    exact isRequire
  have nested : third.outer ≠ [] := by simp [inner]
  have rule := (prolog_exact host).1 lateRequire {}
  refine ⟨first, second, third, split, split, madeFirst, madeThird, ?_, nested, ?_⟩
  · rw [(rule [] first [second, third] split madeFirst).1]
    simp
  · exact (rule [first, second] third [] split madeThird).2.2 nested

end MailSieve
