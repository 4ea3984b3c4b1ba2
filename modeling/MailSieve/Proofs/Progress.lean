import MailSieve.Proofs.Scoping
import MailSieve.Proofs.WellFormed

/-!
# Well-formed scripts do not go wrong

A script is checked while it runs: names are looked up, arguments are read a second time by the
implementation, and whether a command may stand where it does is told from the state.  None of these
checks fails in a well-formed script.  What is left are calls on the message that fail, and actions
that are refused because of a reject.

* `FailedCall` and `Refused` are the two errors that are left.
* `onlyFailedCalls_evaluateTest` is the statement for tests.
* `Place.Fits` relates a place in the script to the states in which a run can get there;
  `excused_of_evaluateCommand` and `fits_of_evaluateCommand` are the step from one command to the
  next.
* `evaluate_of_wellFormed` is the conclusion for scripts.
-/

namespace MailSieve

/-- An error that hands on the fault of the last call made. -/
def FailedCall (host : Host) (error : RunError) (reached : State) : Prop :=
  ∃ earlier call fault, reached.calls = earlier ++ [call] ∧
    host.failures earlier call = some fault ∧ error.cause = .mailAccess fault

/-! ### Tests -/

/-- A computation that fails only if a call does. -/
def OnlyFailedCalls (host : Host) {α : Type} (run : Run α) : Prop :=
  ∀ state error after, run state = .error error after → FailedCall host error after

/-- Computations that fail only if a call does can be sequenced. -/
def onlyFailedCalls (host : Host) : RunRelation where
  Related run _ := OnlyFailedCalls host run
  related_pure value := Run.FailsOnly.of_ok fun state => ⟨value, state, rfl⟩
  related_bind := Run.FailsOnly.bind

section Tests

variable {host : Host} {α β : Type}

namespace OnlyFailedCalls

theorem pure (value : α) : OnlyFailedCalls host (Pure.pure value) :=
  (onlyFailedCalls host).related_pure value

/-- Computations in a row fail only with a call if both do. -/
theorem bind {first : Run α} {rest : α → Run β} (here : OnlyFailedCalls host first)
    (later : ∀ value, OnlyFailedCalls host (rest value)) :
    OnlyFailedCalls host (first >>= rest) := by
  show (onlyFailedCalls host).Related (first >>= rest) (first >>= rest)
  exact (onlyFailedCalls host).related_bind here later

theorem mapM {items : List α} {each : α → Run β} (only : ∀ item, OnlyFailedCalls host (each item)) :
    OnlyFailedCalls host (items.mapM each) := by
  show (onlyFailedCalls host).Related (items.mapM each) (items.mapM each)
  exact (onlyFailedCalls host).related_mapM only

theorem anyM {items : List α} {holds : α → Run Bool}
    (only : ∀ item ∈ items, OnlyFailedCalls host (holds item)) :
    OnlyFailedCalls host (items.anyM holds) := by
  show (onlyFailedCalls host).Related (items.anyM holds) (items.anyM holds)
  exact (onlyFailedCalls host).related_anyM only

theorem allM {items : List α} {holds : α → Run Bool}
    (only : ∀ item ∈ items, OnlyFailedCalls host (holds item)) :
    OnlyFailedCalls host (items.allM holds) := by
  show (onlyFailedCalls host).Related (items.allM holds) (items.allM holds)
  exact (onlyFailedCalls host).related_allM only

/-- A call fails only if it is made to fail. -/
theorem ask (call : Call) (answer : Message → α) :
    OnlyFailedCalls host (Run.ask host call answer) := by
  intro state error after failed
  rw [Run.ask_apply] at failed
  split at failed
  · rename_i fault refused
    cases failed
    exact ⟨state.calls, call, fault, rfl, refused, rfl⟩
  · cases failed

theorem get : OnlyFailedCalls host (get : Run State) := by
  intro state error after failed
  cases failed

theorem modify (change : State → State) : OnlyFailedCalls host (modify change : Run Unit) := by
  intro state error after failed
  cases failed

/-- An action fails only if its call does. -/
theorem collect (action : Action) : OnlyFailedCalls host (Run.collect host action) :=
  .bind (.ask (.addAction action) _) fun _ => .modify _

end OnlyFailedCalls

/-- To collect the values of headers fails only with a call. -/
theorem onlyFailedCalls_headerValues (names : List String) :
    OnlyFailedCalls host (BuiltinTest.headerValues host names) := by
  unfold BuiltinTest.headerValues
  refine .bind (.mapM fun name => ?_) fun values => .pure values.flatten
  exact .ask (.matchingHeader name) _

/-- A comparison by a built-in comparator does not fail at all, since it refuses no pattern. -/
theorem onlyFailedCalls_compareAny {wanted : MatchArguments}
    (collates : host.registries.Collates wanted) (values : List String) :
    OnlyFailedCalls host
      (BuiltinTest.compareAny host wanted.comparator wanted.matchType values wanted.keys) := by
  obtain ⟨collation, made⟩ := collates
  obtain ⟨found, compared⟩ := collation.exists_compareAny wanted.matchType values wanted.keys
  rw [BuiltinTest.compareAny, made, Run.ofExcept_ok, pure_bind, compared]
  exact .pure found

/-- An implementation fails only if a call does, on arguments that it has accepted. -/
theorem onlyFailedCalls_evaluate {test : BuiltinTest} {arguments : Arguments}
    (shaped : test.validateArguments arguments = .ok ())
    (comparable : test.Comparable host.registries arguments)
    (nested : ∀ inner ∈ arguments.testList, OnlyFailedCalls host (evaluateTest host inner)) :
    OnlyFailedCalls host (test.evaluate host (arguments.map (evaluateTest host))) := by
  -- the arguments have the right shape, so no reader is at fault
  cases test with
  | constant value => exact .pure value
  | negation =>
      obtain ⟨inner, read⟩ := exists_of_discard shaped
      rw [BuiltinTest.evaluate, ArgumentsOf.singleTest_map, read]
      show OnlyFailedCalls host (evaluateTest host inner >>= fun holds => Pure.pure !holds)
      exact .bind (nested inner (ArgumentsOf.mem_testList_of_singleTest read))
        fun holds => .pure !holds
  | anyOf =>
      obtain ⟨tests, read⟩ := exists_of_discard shaped
      rw [ArgumentsOf.testList_of_listOfTests read] at nested
      rw [BuiltinTest.evaluate, ArgumentsOf.listOfTests_map, read]
      show OnlyFailedCalls host ((tests.map (evaluateTest host)).anyM id)
      rw [anyM_evaluations]
      exact .anyM nested
  | allOf =>
      obtain ⟨tests, read⟩ := exists_of_discard shaped
      rw [ArgumentsOf.testList_of_listOfTests read] at nested
      rw [BuiltinTest.evaluate, ArgumentsOf.listOfTests_map, read]
      show OnlyFailedCalls host ((tests.map (evaluateTest host)).allM id)
      rw [allM_evaluations]
      exact .allM nested
  | header =>
      obtain ⟨wanted, read⟩ := exists_of_discard shaped
      rw [BuiltinTest.evaluate, ArgumentsOf.matchArguments_map, read, Run.ofShape_ok,
        pure_bind]
      exact .bind (onlyFailedCalls_headerValues wanted.headerNames)
        fun values => onlyFailedCalls_compareAny (comparable wanted read) values
  | presence =>
      obtain ⟨names, read⟩ := exists_of_discard shaped
      rw [BuiltinTest.evaluate, ArgumentsOf.stringList_map, read]
      refine .allM fun name _ => ?_
      exact .bind (.ask (.matchingHeader name) _) fun values => .pure _
  | address =>
      obtain ⟨wanted, read⟩ := exists_of_discard shaped
      rw [BuiltinTest.evaluate, ArgumentsOf.matchArguments_map, read, Run.ofShape_ok,
        pure_bind]
      exact .bind (onlyFailedCalls_headerValues wanted.headerNames)
        fun values => onlyFailedCalls_compareAny (comparable wanted read) _
  | size =>
      obtain ⟨wanted, read⟩ := exists_of_discard shaped
      rw [BuiltinTest.evaluate, ArgumentsOf.sizeLimit_map, read, Run.ofShape_ok, pure_bind]
      exact .bind (.ask .size _) fun size => .pure _

/-- **A well-formed test fails only if a call does.** -/
theorem onlyFailedCalls_evaluateTest {test : Test} (wellFormed : test.WellFormed host.registries) :
    OnlyFailedCalls host (evaluateTest host test) := by
  induction wellFormed with
  | @node name arguments coordinate test made shaped comparable nested ih =>
      rw [evaluateTest_mk, BuiltinTest.runNode, made]
      simp only [Run.ofExcept_ok, pure_bind, BuiltinTest.validateArguments_map, shaped,
        Run.ofShape_ok]
      exact .bind (.modify _) fun _ => onlyFailedCalls_evaluate shaped comparable ih

end Tests

/-! ### The own part of a command -/

section Act

variable {host : Host} {implementation : BuiltinCommand} {command : Command} {state after : State}

/-- The features required by a well-formed script are there. -/
theorem act_require (sound : command.Sound host.registries .require) {β : Type} (block : Option β) :
    BuiltinCommand.require.act host (command.arguments.map (evaluateTest host)) block =
      pure (.done .proceed) := by
  obtain ⟨features, read⟩ := exists_of_discard_bind sound.shaped
  have supported := sound.available rfl features read
  have granted : features.forM (BuiltinCommand.requireFeature host.registries) = pure () := by
    clear read
    induction features with
    | nil => rfl
    | cons feature rest ih =>
        obtain ⟨here, later⟩ := List.forall_mem_cons.mp supported
        show (BuiltinCommand.requireFeature host.registries feature >>= fun _ =>
          rest.forM (BuiltinCommand.requireFeature host.registries)) = pure ()
        rw [BuiltinCommand.requireFeature, if_pos here, pure_bind]
        exact ih later
  rw [BuiltinCommand.act, ArgumentsOf.stringList_map, read, Run.ofShape_ok, pure_bind, granted,
    pure_bind]

/-- A guarded branch of the right shape fails only with a call of its guard. -/
theorem onlyFailedCalls_actGuarded {β : Type} {arguments : Arguments} {guard : Test}
    (found : arguments.singleTest = .ok guard) (wellFormed : guard.WellFormed host.registries)
    (block : β) :
    OnlyFailedCalls host
      (BuiltinCommand.actGuarded (arguments.map (evaluateTest host)) (some block)) := by
  rw [BuiltinCommand.actGuarded, ArgumentsOf.singleTest_map, found]
  show OnlyFailedCalls host (evaluateTest host guard >>= fun holds => do
    Run.setScopes (·.record holds)
    pure (if holds then Next.block block else .done .proceed))
  exact .bind (onlyFailedCalls_evaluateTest wellFormed) fun holds =>
    .bind (.modify _) fun _ => .pure _

/-- **The own part of a sound command fails only if a call does.** -/
theorem onlyFailedCalls_act (sound : command.Sound host.registries implementation) :
    OnlyFailedCalls host
      (implementation.act host (command.arguments.map (evaluateTest host)) command.block) := by
  have present : ∀ member, implementation = .branch member →
      ∃ inner, command.block = some inner := by
    rintro member rfl
    cases there : command.block with
    | some inner => exact ⟨inner, rfl⟩
    | none =>
        -- a branch without a block has the wrong shape
        have blocked := sound.blocked
        rw [there] at blocked
        cases blocked
  cases implementation with
  | require =>
      rw [act_require sound]
      exact .pure _
  | branch member =>
      obtain ⟨inner, block⟩ := present member rfl
      rw [block]
      cases member with
      | opening =>
          obtain ⟨guard, found⟩ := exists_of_discard_bind sound.shaped
          exact onlyFailedCalls_actGuarded found
            (sound.tests guard (ArgumentsOf.mem_testList_of_singleTest found)) inner
      | alternative =>
          obtain ⟨guard, found⟩ := exists_of_discard_bind sound.shaped
          refine .bind .get fun state => ?_
          split
          · exact onlyFailedCalls_actGuarded found
              (sound.tests guard (ArgumentsOf.mem_testList_of_singleTest found)) inner
          · exact .pure _
      | fallback =>
          refine .bind .get fun state => ?_
          split
          · exact .pure _
          · exact .pure _
  | stop => exact .pure _
  | action own =>
      obtain ⟨action, asked⟩ := ActionCommand.exists_actionOf sound.shaped
      rw [BuiltinCommand.act, ActionCommand.actionOf_map, asked, Run.ofShape_ok, pure_bind]
      exact .bind (.collect action) fun _ => .pure _
  | log =>
      obtain ⟨wanted, read⟩ := exists_of_discard_bind sound.shaped
      rw [BuiltinCommand.act, ArgumentsOf.logMessage_map, read, Run.ofShape_ok, pure_bind]
      exact .bind (.modify _) fun _ => .pure _

end Act

/-! ### Commands -/

/-- A command occurs in a list of commands, or in a block of one. -/
inductive Command.Within (command : Command) : List Command → Prop
  | head (rest : List Command) : Within command (command :: rest)
  | behind {first : Command} {rest : List Command} (later : Within command rest) :
      Within command (first :: rest)
  | inside {first : Command} (rest : List Command) (block : Within command first.blockList) :
      Within command (first :: rest)

/-- An error by which an action command was refused: the message has been rejected, or it has
actions and was to be rejected. -/
def Refused (host : Host) (commands : List Command) (error : RunError) (reached : State) : Prop :=
  ∃ command own, Command.Within command commands ∧
    host.registries.commands.create command.name = .ok (.action own) ∧
    error.coordinate = command.coordinate ∧
    (error.cause = .order .afterReject ∧ reached.flags.rejected = true ∨
      error.cause = .order .rejectAfterAction ∧ own = .reject ∧ reached.flags.hasActions = true)

/-- The two ways in which a well-formed script can fail. -/
def Excused (host : Host) (commands : List Command) (error : RunError) (reached : State) : Prop :=
  Refused host commands error reached ∨ FailedCall host error reached

namespace Excused

variable {host : Host} {command : Command} {rest : List Command} {error : RunError}
  {reached : State}

/-- An error that is excused in the rest is excused in the whole. -/
theorem behind (excused : Excused host rest error reached) :
    Excused host (command :: rest) error reached := by
  rcases excused with ⟨refused, own, within, why⟩ | failed
  · exact .inl ⟨refused, own, .behind within, why⟩
  · exact .inr failed

/-- The scope of the block is left. -/
theorem inside (excused : Excused host command.blockList error reached) (scopes : Scopes) :
    Excused host (command :: rest) error { reached with scopes } := by
  rcases excused with ⟨refused, own, within, why⟩ | failed
  · exact .inl ⟨refused, own, .inside rest within, why⟩
  · exact .inr failed

end Excused

/-- The states in which a run can be when it comes to a place. -/
structure Place.Fits (place : Place) (state : State) : Prop where
  inProlog : place.inProlog = true → state.flags.inProlog = true
  behindBranch : place.behindBranch = true → state.scopes.current.isSome = true

theorem Place.fits_top (message : Message) : Place.top.Fits { message } :=
  ⟨fun _ => rfl, fun behind => by cases behind⟩

theorem Place.fits_block (state : State) : Place.block.Fits state :=
  ⟨fun inProlog => (by cases inProlog), fun behind => (by cases behind)⟩

section Step

variable {host : Host} {place : Place} {implementation : BuiltinCommand} {command : Command}
  {rest : List Command} {state after : State}

/-- Of the commands that are in their place, only actions are refused. -/
theorem Place.Fits.refused (fits : place.Fits state) (placed : place.Admits implementation)
    {fault : OrderFault} (failed : implementation.validateState state = .error fault) :
    ∃ own, implementation = .action own ∧
      (fault = .afterReject ∧ state.flags.rejected = true ∨
        fault = .rejectAfterAction ∧ own = .reject ∧ state.flags.hasActions = true) := by
  cases implementation with
  | require =>
      -- the place lies in the prolog, where a `require` is in order
      have inProlog := fits.inProlog placed
      simp [BuiltinCommand.validateState, BuiltinCommand.kind, CommandKind.validateState,
        inProlog, bind, Except.bind] at failed
  | branch member =>
      cases member with
      | opening => cases failed
      | alternative | fallback =>
          -- the place is behind a branch, so a chain is open
          obtain ⟨result, opened⟩ := Option.isSome_iff_exists.mp (fits.behindBranch placed)
          rw [BuiltinCommand.validateState, opened] at failed
          cases failed
  | action own =>
      refine ⟨own, rfl, ?_⟩
      rw [BuiltinCommand.validateState_action] at failed
      split at failed
      · rename_i rejected
        cases failed
        exact .inl ⟨rfl, rejected⟩
      · split at failed
        · rename_i late
          cases failed
          exact .inr ⟨rfl, late⟩
        · cases failed
  | stop | log => cases failed

/-- A sound command that fails on its own part has an excuse. -/
theorem excused_of_begin (sound : command.Sound host.registries implementation)
    (placed : place.Admits implementation) (fits : place.Fits state) {error : RunError}
    (began : command.begin host state = .error error after) :
    Excused host (command :: rest) error after := by
  rcases Command.begin_eq_error_iff.mp began with failed | ⟨other, entered, prepared, failed⟩
  · rw [BuiltinCommand.prepare_apply, sound.made] at failed
    cases verdict : implementation.validateState state with
    | error fault =>
        simp only [verdict] at failed
        cases failed
        obtain ⟨own, rfl, why⟩ := fits.refused placed verdict
        refine .inl ⟨command, own, .head rest, sound.made, rfl, ?_⟩
        rcases why with ⟨rfl, rejected⟩ | ⟨rfl, reject, hasActions⟩
        · exact .inl ⟨rfl, rejected⟩
        · exact .inr ⟨rfl, reject, hasActions⟩
    | ok passed =>
        have shaped := sound.shaped
        rw [← BuiltinCommand.validateArguments_map _ (evaluateTest host)] at shaped
        simp only [verdict, shaped, sound.blocked] at failed
        cases failed
  -- a name stands for one implementation, so it is the one whose checks are known to pass
  · have made := (BuiltinCommand.prepare_eq_ok_iff.mp prepared).1
    rw [sound.made] at made
    cases made
    exact .inr (onlyFailedCalls_act sound _ _ _ failed)

/-- **A sound command that fails has an excuse**, be it on its own part or in its block. -/
theorem excused_of_evaluateCommand (sound : command.Sound host.registries implementation)
    (placed : place.Admits implementation) (fits : place.Fits state)
    (block : ∀ {entry error reached},
      evaluateCommands host command.blockList entry = .error error reached →
        Excused host command.blockList error reached)
    {error : RunError} (failed : evaluateCommand host command state = .error error after) :
    Excused host (command :: rest) error after := by
  rcases exists_of_evaluateCommand_eq_error failed with
    began | ⟨other, commands, between, began, own, ran⟩
  · exact excused_of_begin sound placed fits began
  · have blockList : command.blockList = commands := by
      rw [Command.blockList, own]
      rfl
    obtain ⟨inner, failedInside, rfl⟩ := Run.exists_of_inScope_eq_error ran
    rw [← blockList] at failedInside
    exact (block failedInside).inside inner.scopes.pop

/-- **A sound command that ends leaves the run fit for the next one.** -/
theorem fits_of_evaluateCommand (sound : command.Sound host.registries implementation)
    (fits : place.Fits state) {flow : Flow}
    (ended : evaluateCommand host command state = .ok flow after) :
    (place.after implementation).Fits after := by
  constructor
  · intro inProlog
    obtain ⟨other, next, between, reached, began, ran, rfl⟩ := exists_of_evaluateCommand_eq_ok ended
    obtain ⟨entered, prepared, acted⟩ := Command.begin_eq_ok_iff.mp began
    obtain ⟨made, -, -, -, rfl⟩ := BuiltinCommand.prepare_eq_ok_iff.mp prepared
    rw [sound.made] at made
    cases made
    obtain ⟨before, isProlog⟩ := Bool.and_eq_true_iff.mp inProlog
    -- only a `require` leaves the prolog going on
    cases implementation with
    | require =>
        rw [act_require sound] at acted
        cases acted
        cases ran
        exact fits.inProlog before
    | _ => cases isProlog
  · intro continues
    obtain ⟨other, made, opened⟩ := isSome_current_of_evaluateCommand ended
    rw [sound.made] at made
    cases made
    exact opened.trans continues

end Step

/-- **A run of well-formed commands from a state that fits** can only fail with an excuse. -/
theorem WellFormed.excused {host : Host} {place : Place} {commands : List Command}
    (wellFormed : WellFormed host.registries place commands) {state : State}
    (fits : place.Fits state) {error : RunError} {after : State}
    (failed : evaluateCommands host commands state = .error error after) :
    Excused host commands error after := by
  induction wellFormed generalizing state error after with
  | nil place => cases failed
  | @cons place command rest implementation sound placed block later blockExcused laterExcused =>
      rw [evaluateCommands_cons] at failed
      rcases Run.bind_eq_error_iff.mp failed with here | ⟨flow, between, ended, behind⟩
      · apply excused_of_evaluateCommand sound placed fits ?_ here
        intro entry error reached failedInside
        exact blockExcused (Place.fits_block entry) failedInside
      · cases flow with
        | stop => cases behind
        | proceed =>
            -- the state fits the next place, whatever the block of the command has done
            have next := fits_of_evaluateCommand sound fits ended
            exact (laterExcused next behind).behind

/-- **A well-formed script does not go wrong.**  It comes to an end, or an action is refused because
of a reject, or a call on the message fails. -/
theorem evaluate_of_wellFormed (host : Host) (script : Script) (message : Message)
    (wellFormed : WellFormed host.registries .top script.commands) :
    let outcome := script.evaluate host message
    (∃ flow, outcome.result = .ok flow) ∨
      ∃ error, outcome.result = .error error ∧
        Excused host script.commands error outcome.state := by
  intro outcome
  cases ended : evaluateCommands host script.commands { message } with
  | ok flow after =>
      have reached : outcome = ⟨.ok flow, after⟩ := Run.outcome_of_ok ended
      rw [reached]
      exact .inl ⟨flow, rfl⟩
  | error error after =>
      have reached : outcome = ⟨.error error, after⟩ := Run.outcome_of_error ended
      rw [reached]
      exact .inr ⟨error, rfl, wellFormed.excused (Place.fits_top message) ended⟩

/-- `require "fileinto"; if header "Subject" "sale" { fileinto "offers"; }
elsif not true { stop; } else { reject "no"; keep; }` -/
def refusal : Script where
  commands := [
    { name := "require", arguments := { args := [.stringList ["fileinto"]] } },
    { name := "if"
      arguments := { tests := some [{
        name := "header"
        arguments := { args := [.stringList ["Subject"], .stringList ["sale"]] } }] }
      block := some [{ name := "fileinto", arguments := { args := [.stringList ["offers"]] } }] },
    { name := "elsif"
      arguments := { tests := some [{
        name := "not"
        arguments := { tests := some [{ name := "true" }] } }] }
      block := some [{ name := "stop" }] },
    { name := "else"
      block := some [
        { name := "reject", arguments := { args := [.stringList ["no"]] } }, { name := "keep" }] }]

/-- A command under the word of a built-in one. -/
theorem Command.Sound.of_word {command : Command} (implementation : BuiltinCommand)
    (other : implementation ≠ .require) (named : command.name = implementation.word)
    (shaped : implementation.validateArguments command.arguments = .ok ())
    (blocked : implementation.validateBlock command.block = .ok ())
    (tests : ∀ test ∈ command.arguments.testList, test.WellFormed .builtin) :
    command.Sound .builtin implementation where
  made := by
    rw [named]
    exact Registries.create_builtin_command implementation
  shaped := shaped
  blocked := blocked
  available := BuiltinCommand.available_of_ne other command.arguments
  tests := tests

/-- The script is well formed, although its `keep` will be refused. -/
theorem wellFormed_refusal : WellFormed .builtin .top refusal.commands := by
  have untested : ∀ {arguments : Arguments}, arguments.tests = none →
      ∀ test ∈ arguments.testList, Test.WellFormed .builtin test := by
    intro arguments none test present
    simp [ArgumentsOf.testList, none] at present
  have header : Test.WellFormed .builtin {
      name := "header"
      arguments := { args := [.stringList ["Subject"], .stringList ["sale"]] } } := by
    refine .node (Registries.create_builtin_test .header) rfl ?_ (untested rfl)
    intro wanted read
    cases read
    exact ⟨.octet, Registries.create_builtin_comparator .octet⟩
  have negation : Test.WellFormed .builtin {
      name := "not"
      arguments := { tests := some [{ name := "true" }] } } := by
    refine .node (Registries.create_builtin_test .negation) rfl trivial ?_
    intro inner present
    cases List.mem_singleton.mp present
    exact .node (Registries.create_builtin_test (.constant true)) rfl trivial (untested rfl)
  have leaf : ∀ {place : Place} {command : Command} {rest : List Command}
      (implementation : BuiltinCommand), command.Sound .builtin implementation →
      place.Admits implementation → command.blockList = [] →
      WellFormed .builtin (place.after implementation) rest →
        WellFormed .builtin place (command :: rest) := by
    intro place command rest implementation sound placed bare later
    refine .cons sound placed ?_ later
    rw [bare]
    exact .nil .block
  refine leaf .require ?_ rfl rfl ?_
  · refine ⟨Registries.create_builtin_command .require, rfl, rfl, ?_, untested rfl⟩
    rintro - features read feature present
    cases read
    cases List.mem_singleton.mp present
    decide +kernel
  refine .cons (.of_word (.branch .opening) (by decide) rfl rfl rfl ?_) trivial ?_ ?_
  · intro test present
    cases List.mem_singleton.mp present
    exact header
  · refine leaf (.action .fileInto) ?_ trivial rfl (.nil _)
    exact .of_word _ (by decide) rfl rfl rfl (untested rfl)
  refine .cons (.of_word (.branch .alternative) (by decide) rfl rfl rfl ?_) rfl ?_ ?_
  · intro test present
    cases List.mem_singleton.mp present
    exact negation
  · refine leaf .stop ?_ trivial rfl (.nil _)
    exact .of_word _ (by decide) rfl rfl rfl (untested rfl)
  refine .cons (.of_word (.branch .fallback) (by decide) rfl rfl rfl (untested rfl)) rfl ?_ (.nil _)
  refine leaf (.action .reject) (.of_word _ (by decide) rfl rfl rfl (untested rfl)) trivial rfl ?_
  refine leaf (.action .keep) (.of_word _ (by decide) rfl rfl rfl (untested rfl)) trivial rfl ?_
  exact .nil _

/-- A well-formed script that fails: the message has no subject, so it is rejected, and then it is
not to be kept. -/
theorem evaluate_of_wellFormed_refusal :
    let host : Host := { registries := .builtin }
    let outcome := refusal.evaluate host {}
    WellFormed host.registries .top refusal.commands ∧ outcome.result.toOption = none ∧
      outcome.state.message.pending = [.reject "no"] ∧
      ((∃ flow, outcome.result = .ok flow) ∨
        ∃ error, outcome.result = .error error ∧
          Excused host refusal.commands error outcome.state) := by
  intro host outcome
  refine ⟨wellFormed_refusal, ?_, ?_, ?_⟩
  · decide +kernel
  · decide +kernel
  · exact evaluate_of_wellFormed host refusal {} wellFormed_refusal

end MailSieve
