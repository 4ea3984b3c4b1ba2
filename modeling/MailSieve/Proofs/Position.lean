import MailSieve.Proofs.Boundary
import MailSieve.Proofs.Recasting

/-!
# Positions

The position of a run is one cell.  Every node writes its own position there when its evaluation
starts, a command once more when it has run, and whatever is stamped is stamped with what stands
there.  So it has to be shown that an error or a log entry never takes the position of another node.

Two comparisons show it.  The first writes the tree elsewhere: `evaluate_relocate` says that all
stamps follow, and nothing else changes.  The second evaluates the same tree and notes in the log
each node whose evaluation starts, as `announceTest` and `announceCommand` do.

* `related_announceTest` and `related_announceCommand`: the notes are all that an announced run
  adds, so the last note tells which node the run came to last.
* `BuiltinCommand.act_eq_error`: a command fails where it stands, or its guard has failed.
* `failsNoted_announceTest` and `failsNoted_announceCommand`: where a run fails, the last note is of
  the node at whose position the error is stamped.
* `positions_only_stamp` puts the two comparisons together.
-/

namespace MailSieve

/-! ### Announced evaluation -/

section Announced

variable (host : Host) (note : Coordinate → LogEntry)

/-- Note in the log that the evaluation of the node at this position starts. -/
def Run.announce (coordinate : Coordinate) : Run Unit :=
  modify fun state => { state with log := state.log ++ [note coordinate] }

/-- A note is written, and the run goes on from there. -/
theorem Run.announce_bind_apply {α : Type} (rest : Run α) (coordinate : Coordinate)
    (state : State) :
    (announce note coordinate >>= fun _ => rest) state =
      rest { state with log := state.log ++ [note coordinate] } := rfl

/-- The evaluation of a test, with a note for each node whose evaluation starts. -/
def announceTest : Test → Run Bool :=
  Test.fold fun name arguments coordinate => do
    Run.announce note coordinate
    BuiltinTest.runNode host name arguments coordinate

/-- The evaluation of a command, with a note for each node whose evaluation starts. -/
def announceCommand : Command → Run Flow :=
  Command.fold fun name arguments block coordinate => do
    Run.announce note coordinate
    BuiltinCommand.runNode host name (arguments.map (announceTest host note))
      (block.map fun commands => Run.inScope (Run.sequence commands)) coordinate

/-- Commands run in order, with each announced before it runs. -/
def announceCommands (commands : List Command) : Run Flow :=
  Run.sequence (commands.map (announceCommand host note))

/-- A block, with each of its commands announced before it runs. -/
def announceBlock (commands : List Command) : Run Flow :=
  Run.inScope (announceCommands host note commands)

/-- The equation of the announced evaluation of a test. -/
theorem announceTest_mk (name : String) (arguments : Arguments) (coordinate : Coordinate) :
    announceTest host note ⟨name, arguments, coordinate⟩ = (do
      Run.announce note coordinate
      BuiltinTest.runNode host name (arguments.map (announceTest host note)) coordinate) :=
  Test.fold_mk _ name arguments coordinate

/-- The equation of the announced evaluation of a command. -/
theorem announceCommand_mk (name : String) (arguments : Arguments) (block : Option (List Command))
    (coordinate : Coordinate) :
    announceCommand host note ⟨name, arguments, block, coordinate⟩ = (do
      Run.announce note coordinate
      BuiltinCommand.runNode host name (arguments.map (announceTest host note))
        (block.map (announceBlock host note)) coordinate) := by
  rw [announceCommand, Command.fold_mk, Option.map_map]
  rfl

end Announced

section Quiet

variable {host : Host} {note : Coordinate → LogEntry}

/-- Runs that differ only in that the second has further entries in its log. -/
def adding (host : Host) : Correspondence host host :=
  recasting host id List.Sublist fun _ _ _ kept => kept.append_right _

/-- A note before the run is a further entry. -/
theorem related_announce {α : Type} {quiet loud : Run α} (coordinate : Coordinate)
    (related : (adding host).Related quiet loud) :
    (adding host).Related quiet (Run.announce note coordinate >>= fun _ => loud) := by
  show Run.Recasts id List.Sublist quiet _
  intro state log kept
  exact related state (log ++ [note coordinate]) (kept.trans (List.sublist_append_left log _))

/-- **The notes are all that is new** in the announced evaluation of a test. -/
theorem related_announceTest (test : Test) :
    (adding host).Related (evaluateTest host test) (announceTest host note test) := by
  induction test using Test.induction with
  | node name arguments coordinate nested =>
      rw [evaluateTest_mk, announceTest_mk]
      exact related_announce coordinate
        ((adding host).related_testNode name arguments coordinate nested)

/-- **The notes are all that is new** in the announced evaluation of a command. -/
theorem related_announceCommand (command : Command) :
    (adding host).Related (evaluateCommand host command) (announceCommand host note command) := by
  induction command using Command.induction with
  | node name arguments block coordinate nested =>
      rw [evaluateCommand_mk, announceCommand_mk]
      refine related_announce coordinate ?_
      refine (adding host).related_commandNode name arguments block coordinate
        (fun guard _ => related_announceTest guard) fun commands present => ?_
      refine (adding host).related_inScope ((adding host).related_sequence ?_)
      intro command inside
      refine nested command ?_
      rwa [Option.mem_def.mp present]

/-- Announced commands have further entries in the log, and nothing else differs. -/
theorem related_announceCommands (commands : List Command) :
    (adding host).Related (evaluateCommands host commands) (announceCommands host note commands) :=
  (adding host).related_sequence fun command _ => related_announceCommand command

theorem related_announceBlock (commands : List Command) :
    (adding host).Related (evaluateBlock host commands) (announceBlock host note commands) :=
  (adding host).related_inScope (related_announceCommands commands)

end Quiet

/-! ### Where a run fails -/

/-- The error is stamped with the position from which the computation started, where it still stands
without having written to the log. -/
structure FailsInPlace (state : State) (error : RunError) (after : State) : Prop where
  stamp : error.coordinate = state.coordinate
  coordinate : after.coordinate = state.coordinate
  log : after.log = state.log

section InPlace

variable {α β ε : Type} {host : Host} {state after : State} {error : RunError}

/-- What is read first may be at fault, or else the rest has failed. -/
theorem Run.ofExcept_bind_eq_error {toCause : ε → Cause} {result : Except ε α} {rest : α → Run β}
    (failed : (ofExcept toCause result >>= rest) state = .error error after) :
    FailsInPlace state error after ∨
      ∃ value, result = .ok value ∧ rest value state = .error error after := by
  cases result with
  | ok value => exact .inr ⟨value, rfl, failed⟩
  | error reason =>
      cases failed
      exact .inl ⟨rfl, rfl, rfl⟩

/-- A feature that is refused leaves the run where it stands. -/
theorem failsInPlace_requireFeatures {features : List String}
    (failed : features.forM (BuiltinCommand.requireFeature host.registries) state =
      .error error after) : FailsInPlace state error after := by
  induction features with
  | nil => cases failed
  | cons feature rest ih =>
      have inTurn : (BuiltinCommand.requireFeature host.registries feature >>= fun _ =>
          rest.forM (BuiltinCommand.requireFeature host.registries)) state = .error error after :=
        failed
      rw [BuiltinCommand.requireFeature] at inTurn
      -- the first feature that is missing ends the search, and nothing has changed by then
      by_cases supported : host.registries.supportsFeature feature = true
      · rw [if_pos supported] at inTurn
        exact ih inTurn
      · rw [if_neg supported] at inTurn
        cases inTurn
        exact ⟨rfl, rfl, rfl⟩

variable {arguments : ArgumentsOf (Run Bool)} {block : Option β}

/-- A command that is not admitted fails at its own position. -/
theorem BuiltinCommand.failsInPlace_of_prepare {name : String} {coordinate : Coordinate}
    (failed : prepare host name arguments block coordinate state = .error error after) :
    FailsInPlace { state with coordinate } error after := by
  rw [prepare_apply] at failed
  split at failed
  · cases failed
    exact ⟨rfl, rfl, rfl⟩
  · split at failed
    · cases failed
      exact ⟨rfl, rfl, rfl⟩
    · dsimp only at failed
      split at failed <;> cases failed <;> exact ⟨rfl, rfl, rfl⟩

/-- A guarded branch fails on its own part where it stands, or else its guard has failed. -/
theorem BuiltinCommand.actGuarded_eq_error
    (failed : actGuarded arguments block state = .error error after) :
    FailsInPlace state error after ∨
      ∃ guard, arguments.singleTest = .ok guard ∧ guard state = .error error after := by
  rcases Run.ofExcept_bind_eq_error failed with inPlace | ⟨guard, read, failed⟩
  · exact .inl inPlace
  rcases Run.ofExcept_bind_eq_error failed with inPlace | ⟨inner, -, failed⟩
  · exact .inl inPlace
  rcases Run.bind_eq_error_iff.mp failed with asked | ⟨holds, between, -, recorded⟩
  · exact .inr ⟨guard, read, asked⟩
  · cases recorded

/-- **A command fails on its own part at its own position, or else its guard has failed.** -/
theorem BuiltinCommand.act_eq_error {command : BuiltinCommand}
    (failed : command.act host arguments block state = .error error after) :
    FailsInPlace state error after ∨
      ∃ guard, arguments.singleTest = .ok guard ∧ guard state = .error error after := by
  -- what a command reads, asks for or collects fails in place; a guard alone moves on
  cases command with
  | require =>
      rcases Run.ofExcept_bind_eq_error failed with inPlace | ⟨features, -, failed⟩
      · exact .inl inPlace
      rcases Run.bind_eq_error_iff.mp failed with lacking | ⟨done, between, -, ended⟩
      · exact .inl (failsInPlace_requireFeatures lacking)
      · cases ended
  | branch member =>
      cases member with
      | opening => exact actGuarded_eq_error failed
      | alternative =>
          rw [act, Run.get_bind_apply] at failed
          split at failed
          · exact actGuarded_eq_error failed
          · cases failed
      | fallback =>
          rw [act, Run.get_bind_apply] at failed
          split at failed
          · rw [map_eq_pure_bind] at failed
            rcases Run.ofExcept_bind_eq_error failed with inPlace | ⟨inner, -, ended⟩
            · exact .inl inPlace
            · cases ended
          · cases failed
  | stop => cases failed
  | action own =>
      rw [act_action_apply] at failed
      split at failed
      · cases failed
        exact .inl ⟨rfl, rfl, rfl⟩
      · split at failed
        · cases failed
          exact .inl ⟨rfl, rfl, rfl⟩
        · cases failed
  | log =>
      rcases Run.ofExcept_bind_eq_error failed with inPlace | ⟨entry, -, ended⟩
      · exact .inl inPlace
      · cases ended

end InPlace

/-! ### The last note -/

section Noted

variable {host : Host} {note : Coordinate → LogEntry} {α β ε : Type}

/-- The last entry of the log is the note of the node at which the run stands. -/
def State.Noted (note : Coordinate → LogEntry) (state : State) : Prop :=
  state.log.getLast? = some (note state.coordinate)

/-- A run has failed at the node noted last, and its error is stamped there. -/
structure RunError.Noted (note : Coordinate → LogEntry) (error : RunError) (after : State) :
    Prop where
  last : after.Noted note
  stamp : error.coordinate = after.coordinate

/-- A run has ended at the node noted last, with a value or with an error. -/
def Run.EndsNoted (note : Coordinate → LogEntry) : EStateM.Result RunError State α → Prop
  | .ok _ after => after.Noted note
  | .error error after => error.Noted note after

/-- A note makes the node the last one noted. -/
theorem State.noted_concat (state : State) (coordinate : Coordinate) :
    State.Noted note { state with coordinate, log := state.log ++ [note coordinate] } :=
  List.getLast?_concat

/-- What fails where it stands fails at the node noted last. -/
theorem FailsInPlace.noted {state after : State} {error : RunError}
    (failed : FailsInPlace state error after) (noted : state.Noted note) :
    error.Noted note after := by
  refine ⟨?_, failed.stamp.trans failed.coordinate.symm⟩
  rw [State.Noted, failed.log, failed.coordinate]
  exact noted

/-- To use a result does not lead away from the node noted last. -/
theorem Run.endsNoted_ofExcept (toCause : ε → Cause) (result : Except ε α) (state : State)
    (noted : state.Noted note) : EndsNoted note (ofExcept toCause result state) := by
  cases result with
  | ok value => exact noted
  | error reason => exact ⟨noted, rfl⟩

/-- What an implementation of a test does itself leaves the run at the node noted last. -/
def tracking (host : Host) (note : Coordinate → LogEntry) : TestOperations host host where
  Related run _ := ∀ state, state.Noted note → Run.EndsNoted note (run state)
  related_pure _ _ noted := noted
  related_bind {_ _ run _ _ _} here later := by
    intro state noted
    have first := here state noted
    rw [Run.bind_apply]
    cases started : run state with
    | ok value between =>
        rw [started] at first
        exact later value between first
    | error error after =>
        rw [started] at first
        exact first
  related_fail _ _ noted := ⟨noted, rfl⟩
  related_ask call answer state noted := by
    rw [Run.ask_apply]
    cases host.failures state.calls call with
    | some fault => exact ⟨noted, rfl⟩
    | none => exact noted
  related_test _ := Run.endsNoted_ofExcept id _
  related_comparator _ := Run.endsNoted_ofExcept id _

/-- **A test ends at the last node that was started in it**, however it ends. -/
theorem endsNoted_announceTest (test : Test) (state : State) :
    Run.EndsNoted note (announceTest host note test state) := by
  induction test using Test.induction generalizing state with
  | node name arguments coordinate nested =>
      rw [announceTest_mk, Run.announce_bind_apply]
      let entered : State := { state with coordinate, log := state.log ++ [note coordinate] }
      let rest (implementation : BuiltinTest) : Run Bool := do
        Run.ofShape (implementation.validateArguments arguments)
        implementation.evaluate host (arguments.map (announceTest host note))
      have own : ∀ implementation,
          (tracking host note).Related (rest implementation) (rest implementation) := by
        intro implementation
        refine (tracking host note).related_bind ((tracking host note).related_ofShape _)
          fun _ => ?_
        exact (tracking host note).related_evaluate implementation arguments
          fun inner inside between _ => nested inner inside between
      have ended := (tracking host note).related_bind ((tracking host note).related_test name) own
        entered (state.noted_concat coordinate)
      simp only [BuiltinTest.runNode, BuiltinTest.validateArguments_map]
      exact ended

/-- If the computation fails, it fails at the node noted last. -/
def Run.FailsNoted (note : Coordinate → LogEntry) (run : Run α) : Prop :=
  ∀ state error after, run state = .error error after → error.Noted note after

/-- **An announced test fails at the node noted last**, by induction on the tree. -/
theorem failsNoted_announceTest (test : Test) :
    Run.FailsNoted note (announceTest host note test) := by
  intro state error after failed
  have ended : Run.EndsNoted note (announceTest host note test state) :=
    endsNoted_announceTest test state
  rwa [failed] at ended

/-- A scope does not hide where its body has failed. -/
theorem Run.FailsNoted.inScope {body : Run α} (inner : FailsNoted note body) :
    FailsNoted note (Run.inScope body) := by
  intro state error after failed
  obtain ⟨within, ended, rfl⟩ := exists_of_inScope_eq_error failed
  obtain ⟨last, stamp⟩ := inner _ error within ended
  exact ⟨last, stamp⟩

/-- Runs in a row fail at the node noted last if each of them does. -/
theorem Run.failsNoted_sequence {runs : List (Run Flow)}
    (each : ∀ run ∈ runs, FailsNoted note run) : FailsNoted note (sequence runs) := by
  induction runs with
  | nil =>
      intro state error after failed
      cases failed
  | cons run rest ih =>
      obtain ⟨here, later⟩ := List.forall_mem_cons.mp each
      intro state error after failed
      rcases bind_eq_error_iff.mp failed with first | ⟨flow, between, -, next⟩
      · exact here state error after first
      · cases flow with
        | stop => cases next
        | proceed => exact ih later between error after next

/-- A command that fails while it runs fails where it stands, in its guard or in its block. -/
theorem BuiltinCommand.noted_of_execute {command : BuiltinCommand}
    {arguments : ArgumentsOf (Run Bool)} {block : Option (Run Flow)} {state after : State}
    {error : RunError} (guards : ∀ guard, arguments.singleTest = .ok guard → guard.FailsNoted note)
    (blocks : ∀ inner, block = some inner → inner.FailsNoted note) (noted : state.Noted note)
    (failed : command.execute host arguments block state = .error error after) :
    error.Noted note after := by
  rcases Run.bind_eq_error_iff.mp failed with acted | ⟨next, between, acted, ended⟩
  · rcases act_eq_error acted with inPlace | ⟨guard, read, asked⟩
    · exact inPlace.noted noted
    · exact guards guard read state error after asked
  · cases next with
    | done flow => cases ended
    | block inner => exact blocks inner (eq_some_of_act_eq_block acted) between error after ended

/-- **A command that fails stands at the last node that was started in it.** -/
theorem failsNoted_announceCommand (command : Command) :
    Run.FailsNoted note (announceCommand host note command) := by
  induction command using Command.induction with
  | node name arguments block coordinate nested =>
      have guards : ∀ guard, (arguments.map (announceTest host note)).singleTest = .ok guard →
          guard.FailsNoted note := by
        intro guard read
        rw [ArgumentsOf.singleTest_map] at read
        cases single : arguments.singleTest with
        | error fault =>
            rw [single] at read
            cases read
        | ok test =>
            rw [single] at read
            cases read
            exact failsNoted_announceTest test
      have blocks : ∀ inner, block.map (announceBlock host note) = some inner →
          inner.FailsNoted note := by
        intro inner present
        obtain ⟨commands, inside, rfl⟩ := Option.map_eq_some_iff.mp present
        refine Run.FailsNoted.inScope (Run.failsNoted_sequence ?_)
        rw [List.forall_mem_map]
        rwa [inside] at nested
      intro state error after failed
      have noted : State.Noted note
          { state with coordinate, log := state.log ++ [note coordinate] } :=
        state.noted_concat coordinate
      rw [announceCommand_mk, Run.announce_bind_apply] at failed
      rcases Run.bind_eq_error_iff.mp failed with refused | ⟨command, entered, admitted, failed⟩
      · exact (BuiltinCommand.failsInPlace_of_prepare refused).noted noted
      obtain ⟨-, -, -, -, rfl⟩ := BuiltinCommand.prepare_eq_ok_iff.mp admitted
      rcases Run.bind_eq_error_iff.mp failed with failed | ⟨flow, executed, -, concluded⟩
      · refine BuiltinCommand.noted_of_execute guards blocks ?_ failed
        exact noted
      -- a command moves back to its own position at the end, where it can no longer fail
      · cases concluded

/-- Announced commands fail at the node noted last. -/
theorem failsNoted_announceCommands (commands : List Command) :
    Run.FailsNoted note (announceCommands host note commands) := by
  refine Run.failsNoted_sequence ?_
  rw [List.forall_mem_map]
  exact fun command _ => failsNoted_announceCommand command

end Noted

/-! ### The stamp of an error -/

/-- If the run fails from this state, its error is stamped with the position at which it stands.
The announced run then fails in the same way, has only notes added to the log, and the last of them
is of the node at that position. -/
def Run.FailsAtLastStart {α : Type} (note : Coordinate → LogEntry) (run announced : Run α)
    (state : State) : Prop :=
  ∀ error after, run state = .error error after →
    error.coordinate = after.coordinate ∧
      ∃ log, announced state = .error error { after with log } ∧ after.log.Sublist log ∧
        log.getLast? = some (note error.coordinate)

/-- Where the announced run fails at the node noted last, the run itself fails at the node started
last. -/
theorem Run.FailsNoted.failsAtLastStart {host : Host} {note : Coordinate → LogEntry} {α : Type}
    {run announced : Run α} (noted : FailsNoted note announced)
    (related : (adding host).Related run announced) (state : State) :
    FailsAtLastStart note run announced state := by
  intro error after failed
  have same := related state state.log (List.Sublist.refl _)
  rw [failed] at same
  obtain ⟨log, kept, ended⟩ := same
  obtain ⟨last, stamp⟩ := noted _ _ _ ended
  refine ⟨stamp, log, ended, kept, ?_⟩
  have there : log.getLast? = some (note after.coordinate) := last
  rw [there]
  exact congrArg (some ∘ note) stamp.symm

/-- **Positions are for stamps alone, and errors are stamped with the right one.**

A script that is written elsewhere does the same: it ends in the same way, with the same actions and
the same log, except that its error and each entry of its log are stamped with the corresponding
positions.  And whatever fails, from whatever state, a test, a command, a block or a list of
commands: the error is stamped with the position at which the run stands, which is that of the last
node whose evaluation was started. -/
theorem positions_only_stamp (host : Host) :
    (∀ (move : Coordinate → Coordinate) (script : Script) (message : Message),
      let original := script.evaluate host message
      let relocated := (script.relocate move).evaluate host message
      relocated.result = original.result.mapError (RunError.relocate move) ∧
        relocated.state.message = original.state.message ∧
        relocated.state.log = original.state.log.map (LogEntry.relocate move)) ∧
    ∀ (note : Coordinate → LogEntry) (state : State),
      (∀ test, Run.FailsAtLastStart note (evaluateTest host test) (announceTest host note test)
        state) ∧
      (∀ command, Run.FailsAtLastStart note (evaluateCommand host command)
        (announceCommand host note command) state) ∧
      (∀ commands, Run.FailsAtLastStart note (evaluateBlock host commands)
        (announceBlock host note commands) state) ∧
      ∀ commands, Run.FailsAtLastStart note (evaluateCommands host commands)
        (announceCommands host note commands) state := by
  refine ⟨evaluate_relocate host, fun note state => ⟨fun test => ?_, fun command => ?_,
    fun commands => ?_, fun commands => ?_⟩⟩
  · exact (failsNoted_announceTest test).failsAtLastStart (related_announceTest test) state
  · exact (failsNoted_announceCommand command).failsAtLastStart (related_announceCommand command)
      state
  · exact (failsNoted_announceCommands commands).inScope.failsAtLastStart
      (related_announceBlock commands) state
  · exact (failsNoted_announceCommands commands).failsAtLastStart
      (related_announceCommands commands) state

/-- `if not nope { keep; }` in the first line; there is no test of the name `nope`. -/
def guessing : Script where
  commands := [
    { name := "if"
      arguments := { tests := some [
        { name := "not"
          arguments := { tests := some [{ name := "nope", coordinate := ⟨1, 8⟩ }] }
          coordinate := ⟨1, 4⟩ }] }
      block := some [{ name := "keep", coordinate := ⟨1, 15⟩ }]
      coordinate := ⟨1, 1⟩ }]

/-- The script fails where the unknown name stands, be it in the first line or ten lines below, and
the test of that name is the last node that is started. -/
theorem positions_only_stamp_unknownTest :
    let host : Host := { registries := .builtin }
    let below (coordinate : Coordinate) : Coordinate :=
      { coordinate with line := coordinate.line + 10 }
    let note (coordinate : Coordinate) : LogEntry := ⟨.debug, "starts", coordinate⟩
    (guessing.evaluate host {}).result = .error ⟨.notMapped .test "nope", ⟨1, 8⟩⟩ ∧
      ((guessing.relocate below).evaluate host {}).result =
        .error ⟨.notMapped .test "nope", ⟨11, 8⟩⟩ ∧
      ∃ after : State, (announceCommands host note guessing.commands {}) =
          .error ⟨.notMapped .test "nope", ⟨1, 8⟩⟩ after ∧
        after.log.getLast? = some (note ⟨1, 8⟩) := by
  intro host below note
  let outcome := guessing.evaluate host {}
  obtain ⟨relocated, failing⟩ := positions_only_stamp host
  have failed : (match outcome.result with | .ok _ => none | .error error => some error) =
      some ⟨.notMapped .test "nope", ⟨1, 8⟩⟩ := by
    decide +kernel
  cases ended : evaluateCommands host guessing.commands {} with
  | ok flow after =>
      have reached : outcome = ⟨.ok flow, after⟩ := Run.outcome_of_ok ended
      rw [reached] at failed
      cases failed
  | error error after =>
      have reached : outcome = ⟨.error error, after⟩ := Run.outcome_of_error ended
      rw [reached] at failed
      obtain rfl : error = ⟨.notMapped .test "nope", ⟨1, 8⟩⟩ := Option.some.inj failed
      have result : outcome.result = .error ⟨.notMapped .test "nope", ⟨1, 8⟩⟩ :=
        congrArg Outcome.result reached
      obtain ⟨elsewhere, -⟩ := relocated below guessing {}
      obtain ⟨-, log, announced, -, last⟩ := (failing note {}).2.2.2 guessing.commands _ after ended
      refine ⟨result, ?_, _, announced, last⟩
      rw [elsewhere, result]
      rfl

end MailSieve
