import MailSieve.Proofs.Trace

/-!
# The end of a run

A run that stops or fails does so in the last command that it has started.  The end goes up through
all blocks around that command, and nothing that stands behind it is looked at.  So other commands
may stand there, unknown or malformed ones too, and nobody could tell the runs apart.

* `SameUpTo`: two lists of commands that are the same up to a place.
* `begin_map`: what a command does before its block does not depend on what stands there.
* `EndsIn`: a run ends in the last command started, and all that counts stands before it.
  `endsIn_traceCommand` is the induction on the tree.
* `eq_stop_iff`: a run stops just if it has executed a `stop`.
* `ending_final` puts these together.
-/

namespace MailSieve

mutual

/-- Two commands that are the same up to a place in their blocks. -/
inductive Command.SameUpTo : List Nat → Command → Command → Prop
  /-- The place is that of the commands themselves: either both have a block or neither has. -/
  | here (command : Command) (block : Option (List Command))
      (both : block.isSome = command.block.isSome) :
      Command.SameUpTo [] command { command with block }
  | inside {place : List Nat} (command : Command) {block other : List Command}
      (own : command.block = some block) (inner : SameUpTo place block other) :
      Command.SameUpTo place command { command with block := some other }

/-- Two lists of commands that are the same up to the command at a place.  What stands behind it, in
its list and in those around it, may differ, and so may what stands in its block. -/
inductive SameUpTo : List Nat → List Command → List Command → Prop
  | among {place : List Nat} (earlier : List Command) {command other : Command}
      (later others : List Command) (same : Command.SameUpTo place command other) :
      SameUpTo (earlier.length :: place) (earlier ++ command :: later) (earlier ++ other :: others)

end

/-- Lists that are the same up to a place have the same commands before it, and are the same up to
there in the command around it. -/
theorem SameUpTo.exists_of_cons {place : List Nat} {earlier later others : List Command}
    {command : Command}
    (same : SameUpTo (earlier.length :: place) (earlier ++ command :: later) others) :
    ∃ other rest, others = earlier ++ other :: rest ∧ Command.SameUpTo place command other := by
  generalize index : earlier.length = length at same
  generalize whole : earlier ++ command :: later = commands at same
  cases same with
  | among front behind rest same =>
      obtain ⟨rfl, tail⟩ := List.append_inj whole index
      obtain ⟨rfl, -⟩ := List.cons.inj tail
      exact ⟨_, rest, rfl, same⟩

/-! ### A command with another block -/

/-- **What a command does before its block** does not depend on what stands in it. -/
theorem Command.begin_map (host : Host) (command : Command) (f : List Command → List Command) :
    Command.begin host { command with block := command.block.map f } =
      (fun begun => (begun.1, begun.2.map f)) <$> command.begin host := by
  simp only [Command.begin, BuiltinCommand.prepare, BuiltinCommand.validateBlock_map,
    BuiltinCommand.act_map, map_bind, bind_assoc, bind_map_left, map_pure, pure_bind]

section Begin

variable {host : Host} {command : Command} {state : State} {other : Option (List Command)}

/-- A command with another block begins in the same way, and the other block comes next if the own
one did. -/
theorem Command.begin_apply_of_isSome (both : other.isSome = command.block.isSome) :
    Command.begin host { command with block := other } state =
      match command.begin host state with
      | .error error after => .error error after
      | .ok (implementation, next) after =>
          .ok (implementation, next.map fun _ => other.getD []) after := by
  have mapped : other = command.block.map fun _ => other.getD [] := by
    cases other <;> cases own : command.block <;> simp [own] at both ⊢
  have begun := congrFun (command.begin_map host fun _ => other.getD []) state
  rw [← mapped] at begun
  rw [begun, map_eq_pure_bind, Run.bind_apply]
  cases command.begin host state <;> rfl

end Begin

/-! ### Where a run ends -/

/-- The evaluation of the command ends in the start that is last, and ends alike if the command is
the same up to there. -/
structure Command.EndsIn (host : Host) (index : Nat) (command : Command) (state : State)
    (place : List Nat) (last : Start) : Prop where
  isLast : (traceCommand host index command state).getLast? = some last
  place_eq : last.place = index :: place
  refl : command.SameUpTo place command
  alike : ∀ other, command.SameUpTo place other →
    evaluateCommand host other state = evaluateCommand host command state

/-- The run of the commands ends in the start that is last, and ends alike if the commands are the
same up to there. -/
structure EndsIn (host : Host) (commands : List Command) (state : State) (last : Start) : Prop where
  isLast : (traceCommands host 0 commands state).getLast? = some last
  refl : SameUpTo last.place commands commands
  alike : ∀ others, SameUpTo last.place commands others →
    evaluateCommands host others state = evaluateCommands host commands state

section Ends

variable {host : Host}

/-- A list ends where the command ends that ends the run. -/
theorem exists_endsIn_of_each {commands : List Command} {state : State}
    (each : ∀ command ∈ commands, ∀ index state, (evaluateCommand host command).Halts state →
      ∃ place last, command.EndsIn host index state place last)
    (halts : (evaluateCommands host commands).Halts state) :
    ∃ last, EndsIn host commands state last := by
  -- one command ends the run, and those before it have let it go on
  obtain ⟨earlier, command, later, before, rfl, ran, stays⟩ :=
    exists_halting_of_evaluateCommands halts
  obtain ⟨place, last, ends⟩ := each command (by simp) earlier.length before stays
  have upToHere : ∀ other rest, evaluateCommands host (earlier ++ other :: rest) state =
      evaluateCommands host (other :: rest) before :=
    fun other rest => evaluateCommands_append_of_proceed ran (other :: rest)
  refine ⟨last, ?_, ?_, ?_⟩
  · rw [traceCommands_append_of_proceed ran, traceCommands_of_halts stays, Nat.zero_add,
      List.getLast?_append, ends.isLast]
    rfl
  · rw [ends.place_eq]
    exact .among earlier later later ends.refl
  · intro others same
    rw [ends.place_eq] at same
    obtain ⟨other, rest, rfl, sameThere⟩ := same.exists_of_cons
    have alike := ends.alike other sameThere
    -- what stands in place of the command ends the run too, so nothing behind it counts
    have otherStays : (evaluateCommand host other).Halts before := by
      intro after
      rw [alike]
      exact stays after
    rw [upToHere, upToHere, evaluateCommands_of_halts otherStays, evaluateCommands_of_halts stays,
      alike]

/-- A command that ends the run with nothing in its block ends at its own place. -/
theorem Command.endsIn_self (host : Host) (index : Nat) {command : Command} {state : State}
    (itself : ∀ implementation inner after,
      command.begin host state ≠ .ok (implementation, .block inner) after) :
    command.EndsIn host index state [] ⟨[], index, command, state⟩ := by
  refine ⟨?_, rfl, ?_, ?_⟩
  · rw [traceCommand_apply]
    split
    · rename_i began
      exact absurd began (itself _ _ _)
    · rfl
  · obtain ⟨name, arguments, block, coordinate⟩ := command
    exact .here ⟨name, arguments, block, coordinate⟩ block rfl
  · intro other same
    cases same with
    | here command block both =>
        rw [evaluateCommand_apply, evaluateCommand_apply, Command.begin_apply_of_isSome both]
        cases began : command.begin host state with
        | error error after => rfl
        | ok begun after =>
            obtain ⟨implementation, next⟩ := begun
            cases next with
            | done flow => rfl
            | block inner => exact absurd began (itself _ _ _)
    | inside command own inner => cases inner

/-- A command whose block ends the run ends where the block ends. -/
theorem Command.endsIn_block (index : Nat) {command : Command} {state after : State}
    {implementation : BuiltinCommand} {inner : List Command} {nested : Start}
    (began : command.begin host state = .ok (implementation, .block inner) after)
    (ends : MailSieve.EndsIn host inner { after with scopes := after.scopes.push } nested) :
    command.EndsIn host index state nested.place (nested.inside index) := by
  have own := Command.block_eq_of_begin began
  refine ⟨?_, nested.place_inside index, ?_, ?_⟩
  · rw [traceCommand_apply, began]
    simp [List.getLast?_cons, ends.isLast]
  · obtain ⟨name, arguments, block, coordinate⟩ := command
    cases own
    exact .inside ⟨name, arguments, some inner, coordinate⟩ rfl ends.refl
  · intro other same
    generalize place : nested.place = found at same
    cases same with
    -- a start inside the block lies deeper than the command, so the block is what differs
    | here command block both => simp [Start.place] at place
    | @inside _ command _ replacement present sameInner =>
        rw [own] at present
        cases present
        rw [← place] at sameInner
        have both : (some replacement).isSome = command.block.isSome := by
          rw [own]
          rfl
        have alike := ends.alike _ sameInner
        rw [evaluateCommand_apply, evaluateCommand_apply, Command.begin_apply_of_isSome both, began]
        simp only [Next.map, Next.run, Option.getD_some, evaluateBlock, Run.inScope, alike]

/-- **A command ends the run in the last command started**, by induction on the tree. -/
theorem Command.exists_endsIn (command : Command) (index : Nat) (state : State)
    (halts : (evaluateCommand host command).Halts state) :
    ∃ place last, command.EndsIn host index state place last := by
  induction command using Command.induction generalizing index state with
  | node name arguments block coordinate nested =>
      let command : Command := ⟨name, arguments, block, coordinate⟩
      by_cases enters : ∃ implementation inner after,
          command.begin host state = .ok (implementation, .block inner) after
      · obtain ⟨implementation, inner, after, began⟩ := enters
        have own : block = some inner := Command.block_eq_of_begin began
        -- a block that lets the run go on would let the command do so
        have inside : (evaluateCommands host inner).Halts
            { after with scopes := after.scopes.push } := by
          intro reached proceeds
          refine halts (implementation.concluded command.coordinate
            { reached with scopes := reached.scopes.pop }) ?_
          rw [evaluateCommand_apply, began]
          simp only [Next.run, evaluateBlock, Run.inScope, proceeds]
          rfl
        obtain ⟨last, ends⟩ :=
          exists_endsIn_of_each (fun command present => nested command (by rwa [own])) inside
        exact ⟨last.place, last.inside index, Command.endsIn_block index began ends⟩
      · have itself : ∀ implementation inner after,
            command.begin host state ≠ .ok (implementation, .block inner) after := by
          intro implementation inner after began
          exact enters ⟨implementation, inner, after, began⟩
        exact ⟨[], _, Command.endsIn_self host index itself⟩

/-- **A run ends in the last command started.** -/
theorem exists_endsIn {commands : List Command} {state : State}
    (halts : (evaluateCommands host commands).Halts state) :
    ∃ last, EndsIn host commands state last :=
  exists_endsIn_of_each (fun command _ index state => command.exists_endsIn index state) halts

end Ends

/-! ### Which runs stop -/

/-- The computation stops the run. -/
def Run.Stops (run : Run Flow) (state : State) : Prop := ∃ after, run state = .ok .stop after

section Stop

variable {host : Host} {command : Command} {state after : State}

/-- Only a `stop` stops the run on its own part. -/
theorem BuiltinCommand.eq_stop_of_act {β : Type} {implementation : BuiltinCommand}
    {arguments : ArgumentsOf (Run Bool)} {block : Option β}
    (acted : implementation.act host arguments block state = .ok (.done .stop) after) :
    implementation = .stop := by
  have guarded : ∀ state, actGuarded arguments block state ≠ .ok (.done .stop) after := by
    -- a guarded branch goes on to its block or behind it, and neither is a stop
    intro state ended
    obtain ⟨condition, _, -, rest⟩ := Run.bind_eq_ok_iff.mp ended
    obtain ⟨found, _, -, rest⟩ := Run.bind_eq_ok_iff.mp rest
    obtain ⟨holds, _, -, rest⟩ := Run.bind_eq_ok_iff.mp rest
    obtain ⟨_, _, -, last⟩ := Run.bind_eq_ok_iff.mp rest
    cases holds <;> cases last
  cases implementation with
  | require =>
      rw [act_require_apply] at acted
      split at acted
      · cases acted
      · split at acted <;> cases acted
  | branch member =>
      cases member with
      | opening => exact absurd acted (guarded state)
      | alternative =>
          rw [act, Run.get_bind_apply] at acted
          split at acted
          · exact absurd acted (guarded state)
          · cases acted
      | fallback =>
          rw [act, Run.get_bind_apply] at acted
          split at acted
          · cases block <;> cases acted
          · cases acted
  | stop => rfl
  | action own => cases (act_action_eq_ok acted).1
  | log =>
      obtain ⟨entry, _, -, rest⟩ := Run.bind_eq_ok_iff.mp acted
      obtain ⟨_, _, -, last⟩ := Run.bind_eq_ok_iff.mp rest
      cases last

/-- A `stop` that is executed stops the run, and nothing else does on its own part. -/
theorem Start.executed_stop_iff {start : Start} :
    start.Executed host .stop ↔
      ∃ implementation after,
        start.command.begin host start.state = .ok (implementation, .done .stop) after := by
  constructor
  · rintro ⟨entered, prepared⟩
    exact ⟨.stop, entered, Command.begin_eq_ok_iff.mpr ⟨entered, prepared, rfl⟩⟩
  · rintro ⟨implementation, after, began⟩
    obtain ⟨entered, prepared, acted⟩ := Command.begin_eq_ok_iff.mp began
    obtain rfl := BuiltinCommand.eq_stop_of_act acted
    exact ⟨entered, prepared⟩

/-- A block stops the run just if its commands do, under a scope of their own. -/
theorem evaluateBlock_stops_iff (host : Host) (commands : List Command) (state : State) :
    (evaluateBlock host commands).Stops state ↔
      (evaluateCommands host commands).Stops { state with scopes := state.scopes.push } := by
  unfold Run.Stops evaluateBlock Run.inScope
  cases evaluateCommands host commands { state with scopes := state.scopes.push } <;> simp

/-- **The step**: a command stops the run on its own part or in its block. -/
theorem evaluateCommand_stops_iff (index : Nat) :
    (evaluateCommand host command).Stops state ↔
      Start.Executed host .stop ⟨[], index, command, state⟩ ∨
        ∃ implementation inner after,
          command.begin host state = .ok (implementation, .block inner) after ∧
            (evaluateCommands host inner).Stops { after with scopes := after.scopes.push } := by
  rw [Start.executed_stop_iff]
  constructor
  · rintro ⟨after, ended⟩
    obtain ⟨implementation, next, between, reached, began, ran, rfl⟩ :=
      exists_of_evaluateCommand_eq_ok ended
    cases next with
    | done flow =>
        cases ran
        exact .inl ⟨implementation, between, began⟩
    | block inner =>
        exact .inr ⟨implementation, inner, between, began,
          (evaluateBlock_stops_iff host inner between).mp ⟨reached, ran⟩⟩
  · rintro (⟨implementation, after, began⟩ | ⟨implementation, inner, after, began, inside⟩)
    · refine ⟨implementation.concluded command.coordinate after, ?_⟩
      rw [evaluateCommand_apply]
      simp only [began, Next.run, Run.pure_apply]
    · obtain ⟨reached, ran⟩ := (evaluateBlock_stops_iff host inner after).mpr inside
      refine ⟨implementation.concluded command.coordinate reached, ?_⟩
      rw [evaluateCommand_apply]
      simp only [began, Next.run, ran]

/-- Commands stop the run just if one that is started does, given that this is so of each of
them. -/
theorem evaluateCommands_stops_iff_of_each {commands : List Command}
    (each : ∀ command ∈ commands, ∀ index state, (evaluateCommand host command).Stops state ↔
      ∃ start ∈ traceCommand host index command state, start.Executed host .stop)
    (index : Nat) (state : State) :
    (evaluateCommands host commands).Stops state ↔
      ∃ start ∈ traceCommands host index commands state, start.Executed host .stop := by
  induction commands generalizing index state with
  | nil =>
      rw [traceCommands_nil]
      constructor
      · rintro ⟨after, ended⟩
        cases ended
      · rintro ⟨start, started, -⟩
        cases started
  | cons command rest ih =>
      obtain ⟨first, later⟩ := List.forall_mem_cons.mp each
      have here := first index state
      by_cases halts : (evaluateCommand host command).Halts state
      · rw [traceCommands_of_halts halts, ← here, Run.Stops, evaluateCommands_of_halts halts]
        rfl
      · obtain ⟨between, proceeds⟩ := Run.exists_proceed_of_not_halts halts
        -- the command lets the run go on, so it has not executed a `stop`
        have unstopped : ¬ ∃ start ∈ traceCommand host index command state,
            start.Executed host .stop := by
          rw [← here]
          rintro ⟨after, stopped⟩
          rw [proceeds] at stopped
          cases stopped
        rw [traceCommands_of_proceed proceeds, Run.Stops, evaluateCommands_of_proceed proceeds]
        simp only [List.mem_append, or_and_right, exists_or, unstopped, false_or]
        exact ih later (index + 1) between

/-- **A command stops the run just if it has executed a `stop`**, by induction on the tree. -/
theorem evaluateCommand_stops_iff_executed (command : Command) (index : Nat) (state : State) :
    (evaluateCommand host command).Stops state ↔
      ∃ start ∈ traceCommand host index command state, start.Executed host .stop := by
  induction command using Command.induction generalizing index state with
  | node name arguments block coordinate nested =>
      rw [evaluateCommand_stops_iff index, traceCommand_apply]
      simp only [List.mem_cons, exists_eq_or_imp]
      refine or_congr Iff.rfl ?_
      cases began : Command.begin host ⟨name, arguments, block, coordinate⟩ state with
      | error error after => simp
      | ok begun after =>
          obtain ⟨implementation, next⟩ := begun
          cases next with
          | done flow => simp
          | block inner =>
              have own : block = some inner := Command.block_eq_of_begin began
              let entry : State := { after with scopes := after.scopes.push }
              have inside : (evaluateCommands host inner).Stops entry ↔
                  ∃ start ∈ traceCommands host 0 inner entry, start.Executed host .stop :=
                evaluateCommands_stops_iff_of_each
                  (fun command present => nested command (by rwa [own])) 0 entry
              constructor
              · rintro ⟨_, _, _, same, stopped⟩
                cases same
                obtain ⟨start, started, executed⟩ := inside.mp stopped
                exact ⟨start.inside index, List.mem_map_of_mem started, executed⟩
              · rintro ⟨_, started, executed⟩
                obtain ⟨start, present, rfl⟩ := List.mem_map.mp started
                exact ⟨implementation, inner, after, rfl, inside.mpr ⟨start, present, executed⟩⟩

/-- **A run stops just if it has executed a `stop`.** -/
theorem evaluateCommands_stops_iff (commands : List Command) (index : Nat) (state : State) :
    (evaluateCommands host commands).Stops state ↔
      ∃ start ∈ traceCommands host index commands state, start.Executed host .stop :=
  evaluateCommands_stops_iff_of_each
    (fun command _ => evaluateCommand_stops_iff_executed command) index state

end Stop

/-! ### Scripts -/

/-- **Stops and errors are final, at every depth.**  A run that does not come to the end of its
script has started some command last.  With any other commands in place of those behind it, in its
list, in the lists around it and in its block, the run ends in the same way and in the same state,
so with the same actions and the same log.  And a run ends with a stop just if it has executed a
`stop`. -/
theorem ending_final (host : Host) (script : Script) (message : Message) :
    ((script.evaluate host message).result ≠ .ok .proceed →
      ∃ last, (script.trace host message).getLast? = some last ∧
        SameUpTo last.place script.commands script.commands ∧
        ∀ others, SameUpTo last.place script.commands others →
          Script.evaluate host ⟨others⟩ message = script.evaluate host message) ∧
    ((script.evaluate host message).result = .ok .stop ↔
      ∃ start ∈ script.trace host message, start.Executed host .stop) := by
  constructor
  · intro ended
    have halts : (evaluateCommands host script.commands).Halts { message } :=
      fun after proceeds => ended (Run.outcome_result_eq_ok_iff.mpr ⟨after, proceeds⟩)
    obtain ⟨last, ends⟩ := exists_endsIn halts
    refine ⟨last, ends.isLast, ends.refl, ?_⟩
    intro others same
    exact Run.outcome_congr (ends.alike others same)
  · rw [Script.trace, ← evaluateCommands_stops_iff]
    exact Run.outcome_result_eq_ok_iff

/-- `if true { keep; stop; unknown; } elsif;` -/
def stoppedEarly : Script where
  commands := [
    { name := "if"
      arguments := { tests := some [{ name := "true" }] }
      block := some [{ name := "keep" }, { name := "stop" }, { name := "unknown" }] },
    { name := "elsif" }]

/-- Behind the `stop` in the block there may as well be nothing, though neither an unknown command
nor an `elsif` without arguments can be run. -/
theorem ending_final_stoppedEarly :
    let host : Host := { registries := .builtin }
    let clean : Script := ⟨[
      { name := "if"
        arguments := { tests := some [{ name := "true" }] }
        block := some [{ name := "keep" }, { name := "stop" }] }]⟩
    (stoppedEarly.evaluate host {}).result ≠ .ok .proceed ∧
      SameUpTo [0, 1] stoppedEarly.commands clean.commands ∧
      clean.evaluate host {} = stoppedEarly.evaluate host {} ∧
      (stoppedEarly.evaluate host {}).result = .ok .stop := by
  intro host clean
  have stopped : (stoppedEarly.evaluate host {}).result = .ok .stop := by
    have found : (stoppedEarly.evaluate host {}).result.toOption = some .stop := by decide +kernel
    cases ended : (stoppedEarly.evaluate host {}).result with
    | error error =>
        rw [ended] at found
        cases found
    | ok flow =>
        rw [ended] at found
        exact congrArg Except.ok (Option.some.inj found)
  have ended : (stoppedEarly.evaluate host {}).result ≠ .ok .proceed := by
    rw [stopped]
    nofun
  obtain ⟨last, isLast, -, alike⟩ := (ending_final host stoppedEarly {}).1 ended
  have place : (stoppedEarly.trace host {}).getLast?.map Start.place = some [0, 1] := by
    decide +kernel
  rw [isLast] at place
  have same : SameUpTo [0, 1] stoppedEarly.commands clean.commands :=
    .among [] _ _ (.inside _ rfl (.among [{ name := "keep" }] _ _ (.here _ none rfl)))
  refine ⟨ended, same, alike clean.commands ?_, stopped⟩
  rwa [Option.some.inj place]

end MailSieve
