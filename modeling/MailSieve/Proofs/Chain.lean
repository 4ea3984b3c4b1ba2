import MailSieve.Proofs.Locality

/-!
# Chains of branches

A chain is an `if`, any number of `elsif`, and perhaps an `else`.  Between two of its members a run
keeps nothing of the chain but the result of the last guard, and whatever lies in the block of a
member runs in between.

* `Chain` is a chain as it is written, with names that stand for branches.
* `firstHolding` asks the guards in order up to the first that holds, and `firstHoldingRun` runs
  that block alone, or the fallback.
* `Settled` compares a run of the commands with that reference; `Settled.cons` is the step from one
  member to the next.
* `evaluateCommands_chain` is the comparison for whole chains.
-/

namespace MailSieve

/-- A member of a chain with a guard, under a name that stands for it. -/
structure Branch (registries : Registries) (member : BranchCommand) where
  name : String
  guard : Test
  block : List Command
  coordinate : Coordinate := {}
  create_eq : registries.commands.create name = .ok (.branch member)

/-- The last member of a chain, without a guard. -/
structure Fallback (registries : Registries) where
  name : String
  block : List Command
  coordinate : Coordinate := {}
  create_eq : registries.commands.create name = .ok (.branch .fallback)

/-- A chain of branches as it is written. -/
structure Chain (registries : Registries) where
  opening : Branch registries .opening
  alternatives : List (Branch registries .alternative) := []
  fallback : Option (Fallback registries) := none

/-- The branch as it stands in a script. -/
def Branch.command {registries : Registries} {member : BranchCommand}
    (branch : Branch registries member) : Command where
  name := branch.name
  arguments := { tests := some [branch.guard] }
  block := some branch.block
  coordinate := branch.coordinate

/-- The `else` as it stands in a script. -/
def Fallback.command {registries : Registries} (fallback : Fallback registries) : Command where
  name := fallback.name
  block := some fallback.block
  coordinate := fallback.coordinate

/-- A guard with the block it guards. -/
def Branch.guarded {registries : Registries} {member : BranchCommand}
    (branch : Branch registries member) : Test × List Command := (branch.guard, branch.block)

namespace Chain

variable {registries : Registries}

/-- The commands behind the first. -/
def laterCommands (alternatives : List (Branch registries .alternative))
    (fallback : Option (Fallback registries)) : List Command :=
  alternatives.map Branch.command ++ fallback.toList.map Fallback.command

/-- The commands of a chain, one after another. -/
def commands (chain : Chain registries) : List Command :=
  chain.opening.command :: laterCommands chain.alternatives chain.fallback

/-- The guards of a chain in order, each with its block. -/
def guarded (chain : Chain registries) : List (Test × List Command) :=
  chain.opening.guarded :: chain.alternatives.map Branch.guarded

end Chain

/-! ### What a chain ought to do -/

/-- Ask guards in order, and take the block of the first that holds. -/
def firstHolding (host : Host) : List (Test × List Command) → Run (Option (List Command))
  | [] => pure none
  | (guard, block) :: rest => do
      if ← evaluateTest host guard then pure (some block) else firstHolding host rest

/-- Run the block of the first guard that holds, or else the fallback, if there is one. -/
def firstHoldingRun (host : Host) (guarded : List (Test × List Command))
    (fallback : Option (List Command)) : Run Flow := do
  match (← firstHolding host guarded).or fallback with
  | some block => evaluateBlock host block
  | none => pure .proceed

section Reference

variable {host : Host} {guard : Test} {block : List Command} {rest : List (Test × List Command)}
  {fallback : Option (List Command)} {state asked : State}

/-- A guard that fails ends the search. -/
theorem firstHolding_of_error {error : RunError}
    (ended : evaluateTest host guard state = .error error asked) :
    firstHolding host ((guard, block) :: rest) state = .error error asked :=
  Run.bind_of_error ended

/-- A guard that holds is the one that is searched for. -/
theorem firstHolding_of_true (ended : evaluateTest host guard state = .ok true asked) :
    firstHolding host ((guard, block) :: rest) state = .ok (some block) asked :=
  Run.bind_of_ok ended

/-- A guard that does not hold is passed over. -/
theorem firstHolding_of_false (ended : evaluateTest host guard state = .ok false asked) :
    firstHolding host ((guard, block) :: rest) state = firstHolding host rest asked :=
  Run.bind_of_ok ended

/-- Where the search comes to an end, the block that it has found is run, or else the fallback. -/
theorem firstHoldingRun_of_ok {guarded : List (Test × List Command)}
    {found : Option (List Command)} (chosen : firstHolding host guarded state = .ok found asked) :
    firstHoldingRun host guarded fallback state =
      (match found.or fallback with
        | some block => evaluateBlock host block
        | none => pure .proceed) asked :=
  Run.bind_of_ok chosen

theorem firstHoldingRun_of_error {error : RunError}
    (ended : evaluateTest host guard state = .error error asked) :
    firstHoldingRun host ((guard, block) :: rest) fallback state = .error error asked :=
  Run.bind_of_error (firstHolding_of_error ended)

theorem firstHoldingRun_of_true (ended : evaluateTest host guard state = .ok true asked) :
    firstHoldingRun host ((guard, block) :: rest) fallback state = evaluateBlock host block asked :=
  Run.bind_of_ok (firstHolding_of_true ended)

theorem firstHoldingRun_of_false (ended : evaluateTest host guard state = .ok false asked) :
    firstHoldingRun host ((guard, block) :: rest) fallback state =
      firstHoldingRun host rest fallback asked := by
  rw [firstHoldingRun, firstHoldingRun, Run.bind_apply, Run.bind_apply, firstHolding_of_false ended]

/-- The choice between blocks touches nothing but the position and the calls made. -/
theorem forward_firstHolding (host : Host) (guarded : List (Test × List Command)) :
    observing.Forward (firstHolding host guarded) := by
  induction guarded with
  | nil => exact observing.refl
  | cons first rest ih =>
      refine observing.forward_bind (observing.le_finalState host first.1) fun holds => ?_
      cases holds with
      | true => exact observing.refl
      | false => exact ih

end Reference

/-- The open chain after all commands of a chain: none behind a fallback, and otherwise one that
tells whether a guard has held. -/
def Scopes.afterChain (scopes : Scopes) (ended held : Bool) : Scopes :=
  if ended then scopes.close else scopes.record held

/-- What was recorded before does not matter. -/
theorem Scopes.afterChain_record (scopes : Scopes) (result ended held : Bool) :
    (scopes.record result).afterChain ended held = scopes.afterChain ended held := by
  cases ended <;> rfl

/-- The same state with the prolog over. -/
def State.pastProlog (state : State) : State :=
  { state with flags := { state.flags with inProlog := false } }

/-! ### One member -/

section Member

variable {host : Host} {member : BranchCommand} {state : State}

/-- The evaluation of a branch that may stand where it does. -/
theorem evaluateCommand_branch {name : String} {arguments : Arguments} {block : List Command}
    {coordinate : Coordinate}
    (made : host.registries.commands.create name = .ok (.branch member))
    (placed : (BuiltinCommand.branch member).validateState state = .ok ())
    (shaped : (BuiltinCommand.branch member).validateArguments arguments = .ok ()) :
    evaluateCommand host ⟨name, arguments, some block, coordinate⟩ state =
      match (BuiltinCommand.branch member).act host (arguments.map (evaluateTest host)) (some block)
          { state.pastProlog with coordinate } with
      | .error error after => .error error after
      | .ok next after =>
          match next.run (evaluateBlock host) after with
          | .error error reached => .error error reached
          | .ok flow reached =>
              .ok flow ((BuiltinCommand.branch member).concluded coordinate reached) := by
  have prepared : BuiltinCommand.prepare host name (arguments.map (evaluateTest host)) (some block)
      coordinate state = .ok (.branch member) { state.pastProlog with coordinate } := by
    refine BuiltinCommand.prepare_eq_ok_iff.mpr ⟨made, placed, ?_, rfl, rfl⟩
    rw [BuiltinCommand.validateArguments_map]
    exact shaped
  rw [evaluateCommand_eq, Run.bind_of_ok prepared, Run.bind_apply]
  cases (BuiltinCommand.branch member).act host (arguments.map (evaluateTest host)) (some block)
      { state.pastProlog with coordinate } with
  | error error after => rfl
  | ok next after =>
      simp only [Run.bind_apply]
      cases next.run (evaluateBlock host) after <;> rfl

/-- The next member of a chain asks its guard: it opens the chain, or no guard has held. -/
def Asks (member : BranchCommand) (state : State) : Prop :=
  member = .opening ∨ member = .alternative ∧ state.scopes.current = some false

/-- **A member that asks its guard** runs its block if the guard holds. -/
theorem Branch.evaluateCommand_of_asks (branch : Branch host.registries member)
    (asks : Asks member state) :
    evaluateCommand host branch.command state =
      match evaluateTest host branch.guard state.pastProlog with
      | .error error asked => .error error asked
      | .ok holds asked =>
          match (if holds then evaluateBlock host branch.block else pure .proceed)
              { asked with scopes := asked.scopes.record holds } with
          | .error error reached => .error error reached
          | .ok flow reached => .ok flow { reached with coordinate := branch.coordinate } := by
  have placed : (BuiltinCommand.branch member).validateState state = .ok () := by
    rcases asks with rfl | ⟨rfl, untaken⟩
    · rfl
    · rw [BuiltinCommand.validateState, untaken]
      rfl
  have shaped : (BuiltinCommand.branch member).validateArguments branch.command.arguments =
      .ok () := by
    rcases asks with rfl | ⟨rfl, -⟩ <;> rfl
  have acted : (BuiltinCommand.branch member).act host
      (branch.command.arguments.map (evaluateTest host)) (some branch.block)
        { state.pastProlog with coordinate := branch.coordinate } =
      BuiltinCommand.actGuarded (branch.command.arguments.map (evaluateTest host))
        (some branch.block) { state.pastProlog with coordinate := branch.coordinate } := by
    rcases asks with rfl | ⟨rfl, untaken⟩
    · rfl
    · simp only [BuiltinCommand.act, Run.get_bind_apply, State.pastProlog, untaken, if_true]
  have concluded : ∀ reached, (BuiltinCommand.branch member).concluded branch.coordinate reached =
      { reached with coordinate := branch.coordinate } := by
    intro reached
    rcases asks with rfl | ⟨rfl, -⟩ <;> rfl
  have single : (branch.command.arguments.map (evaluateTest host)).singleTest =
      .ok (evaluateTest host branch.guard) := rfl
  -- the guard is asked at the position of the branch, which no test looks at
  refine (evaluateCommand_branch branch.create_eq placed shaped).trans ?_
  rw [acted, BuiltinCommand.actGuarded_apply single, evaluateTest_moved]
  cases evaluateTest host branch.guard state.pastProlog with
  | error error asked => rfl
  | ok holds asked => cases holds <;> simp only [Next.run, concluded, if_true, Bool.false_eq_true,
      if_false]

/-- An `elsif` behind a branch that was taken does nothing. -/
theorem Branch.evaluateCommand_of_taken (branch : Branch host.registries .alternative)
    (taken : state.scopes.current = some true) :
    evaluateCommand host branch.command state =
      .ok .proceed { state.pastProlog with coordinate := branch.coordinate } := by
  have placed : (BuiltinCommand.branch .alternative).validateState state = .ok () := by
    rw [BuiltinCommand.validateState, taken]
    rfl
  refine (evaluateCommand_branch branch.create_eq placed rfl).trans ?_
  simp only [BuiltinCommand.act, Run.get_bind_apply, State.pastProlog, taken]
  rfl

/-- An `else` behind a branch that was taken ends the chain. -/
theorem Fallback.evaluateCommand_of_taken (fallback : Fallback host.registries)
    (taken : state.scopes.current = some true) :
    evaluateCommand host fallback.command state =
      .ok .proceed { state.pastProlog with
        coordinate := fallback.coordinate
        scopes := state.scopes.close } := by
  have placed : (BuiltinCommand.branch .fallback).validateState state = .ok () := by
    rw [BuiltinCommand.validateState, taken]
    rfl
  refine (evaluateCommand_branch fallback.create_eq placed rfl).trans ?_
  simp only [BuiltinCommand.act, Run.get_bind_apply, State.pastProlog, taken]
  rfl

/-- An `else` behind guards that did not hold runs its block, and ends the chain. -/
theorem Fallback.evaluateCommand_of_untaken (fallback : Fallback host.registries)
    (untaken : state.scopes.current = some false) :
    evaluateCommand host fallback.command state =
      match evaluateBlock host fallback.block
          { state.pastProlog with coordinate := fallback.coordinate } with
      | .error error reached => .error error reached
      | .ok flow reached =>
          .ok flow { reached with
            coordinate := fallback.coordinate
            scopes := reached.scopes.close } := by
  have placed : (BuiltinCommand.branch .fallback).validateState state = .ok () := by
    rw [BuiltinCommand.validateState, untaken]
    rfl
  refine (evaluateCommand_branch fallback.create_eq placed rfl).trans ?_
  simp only [BuiltinCommand.act, Run.get_bind_apply, State.pastProlog, untaken, if_true]
  rfl

end Member

/-! ### The members behind the first -/

section Later

variable {host : Host} {alternatives : List (Branch host.registries .alternative)}
  {fallback : Option (Fallback host.registries)} {state : State}

/-- Once a branch has been taken, the rest of the chain does nothing but end it. -/
theorem evaluateCommands_of_taken (taken : state.scopes.current = some true)
    (pastProlog : state.pastProlog = state) :
    ∃ after, evaluateCommands host (Chain.laterCommands alternatives fallback) state =
        .ok .proceed after ∧
      after.Alike state ∧ after.scopes = state.scopes.afterChain fallback.isSome true := by
  induction alternatives generalizing state with
  | nil =>
      cases fallback with
      | none =>
          -- nothing runs, and the open chain still says that a branch was taken
          refine ⟨state, rfl, .refl state, ?_⟩
          show state.scopes = state.scopes.record true
          rw [Scopes.record, ← taken]
      | some fallback =>
          have step := fallback.evaluateCommand_of_taken taken
          rw [pastProlog] at step
          exact ⟨_, Run.bind_of_ok step, ⟨rfl, rfl, rfl, rfl⟩, rfl⟩
  | cons branch rest ih =>
      have step := branch.evaluateCommand_of_taken taken
      rw [pastProlog] at step
      have still : ({ state with coordinate := branch.coordinate } : State).pastProlog =
          { state with coordinate := branch.coordinate } := by
        rw [← pastProlog]
        rfl
      -- the member has moved the run to its position, and no more
      obtain ⟨after, ended, alike, left⟩ :=
        @ih { state with coordinate := branch.coordinate } taken still
      exact ⟨after, (Run.bind_of_ok step).trans ended, alike.trans ⟨rfl, rfl, rfl, rfl⟩, left⟩

/-- The end of the prolog is not taken back. -/
def prologOver : CommandOrder where
  le before after := before.flags.inProlog = false → after.flags.inProlog = false
  refl _ past := past
  trans first second past := second (first past)
  moveTo _ _ past := past
  call _ _ past := past
  enterFlags state command past := by
    unfold BuiltinCommand.enterFlags
    split
    · exact past
    · rfl
  updateFlags state command past := by
    by_cases isAction : command.kind = .action
    · obtain ⟨action, rfl⟩ := BuiltinCommand.eq_action_of_kind_eq isAction
      cases action <;> exact past
    · rw [BuiltinCommand.updateFlags_of_kind_ne isAction]
      exact past
  record _ _ past := past
  leaveScopes _ _ past := past
  addAction _ _ past := past
  write _ _ past := past
  block inner past := inner past

end Later

/-! ### From member to member -/

/-- A run of commands, compared with the reference for guards and a fallback: it ends in the same
way and with the same effects, and behind a chain that was completed, by a run that goes on or by
the fallback, the open chain is the one that is due. -/
structure Settled (host : Host) (guarded : List (Test × List Command))
    (fallback : Option (List Command)) (scopes : Scopes) (origin : State) (outcome : Outcome) :
    Prop where
  alike : outcome.Alike ((firstHoldingRun host guarded fallback).outcome origin)
  scopes : ∀ found asked flow, firstHolding host guarded origin = .ok found asked →
    outcome.result = .ok flow → (flow = .proceed ∨ found = none) →
      outcome.state.scopes = scopes.afterChain fallback.isSome found.isSome

section Settled

variable {host : Host} {guarded : List (Test × List Command)} {state origin : State}

/-- No guard is left, and none has held. -/
theorem Settled.nil (fallback : Option (Fallback host.registries))
    (untaken : state.scopes.current = some false) (alike : state.pastProlog.Alike origin)
    (pastProlog : state.pastProlog = state) :
    Settled host [] (fallback.map Fallback.block) state.scopes origin
      ((evaluateCommands host (Chain.laterCommands [] fallback)).outcome state) := by
  cases fallback with
  | none =>
      rw [pastProlog] at alike
      refine ⟨⟨rfl, alike⟩, ?_⟩
      intro found asked flow first ended complete
      cases first
      show state.scopes = state.scopes.record false
      rw [Scopes.record, ← untaken]
  | some fallback =>
      have step := fallback.evaluateCommand_of_untaken untaken
      -- the fallback is noted nowhere, so its block starts from what the guards have left
      have moved :
          ({ state.pastProlog with coordinate := fallback.coordinate } : State).Alike origin :=
        ⟨alike.flags, alike.message, alike.log, alike.calls⟩
      have block := evaluateBlock_alike host fallback.block moved
      have kept := scopes_finalState_evaluateBlock host fallback.block
        { state.pastProlog with coordinate := fallback.coordinate }
      have only : evaluateCommands host (Chain.laterCommands [] (some fallback)) =
          evaluateCommand host fallback.command :=
        evaluateCommands_singleton host fallback.command
      rw [only, Run.outcome, step]
      rw [Run.outcome] at block
      cases ended : evaluateBlock host fallback.block
          { state.pastProlog with coordinate := fallback.coordinate } with
      | error error reached =>
          rw [ended] at block
          exact ⟨block, fun found asked flow first failed => by cases failed⟩
      | ok flow reached =>
          rw [ended] at block
          rw [Run.finalState_of_ok ended] at kept
          obtain ⟨result, effects⟩ := block
          refine ⟨⟨result, effects.flags, effects.message, effects.log, effects.calls⟩, ?_⟩
          intro found asked flow first done complete
          cases first
          exact congrArg Scopes.close kept

section Cons

variable {member : BranchCommand} (branch : Branch host.registries member)
  {alternatives : List (Branch host.registries .alternative)}
  {fallback : Option (Fallback host.registries)} {asked : State}

/-- The guard of the next member fails. -/
theorem Settled.of_error (asks : Asks member state) (alike : state.pastProlog.Alike origin)
    {error : RunError} (ended : evaluateTest host branch.guard origin = .error error asked) :
    Settled host (branch.guarded :: guarded) (fallback.map Fallback.block) state.scopes origin
      ((evaluateCommands host
        (branch.command :: Chain.laterCommands alternatives fallback)).outcome state) := by
  have observed := observing.le_finalState host branch.guard origin
  rw [Run.finalState_of_error ended] at observed
  have step := branch.evaluateCommand_of_asks asks
  rw [evaluateTest_apply host branch.guard alike.message.symm alike.calls.symm, ended] at step
  have failed : evaluateCommands host (branch.command :: Chain.laterCommands alternatives fallback)
      state = .error error { state.pastProlog with
        coordinate := asked.coordinate
        calls := asked.calls } :=
    Run.bind_of_error step
  rw [Run.outcome_of_error failed]
  constructor
  · rw [Branch.guarded, Run.outcome_of_error (firstHoldingRun_of_error ended), observed]
    exact ⟨rfl, alike.flags, alike.message, alike.log, rfl⟩
  · intro found reached flow first done
    cases done

/-- The guard of the next member does not hold. -/
theorem Settled.of_false (asks : Asks member state) (alike : state.pastProlog.Alike origin)
    (ended : evaluateTest host branch.guard origin = .ok false asked)
    (settled : ∀ between : State, between.scopes = state.scopes.record false →
      between.pastProlog = between → between.Alike asked →
        Settled host guarded (fallback.map Fallback.block) between.scopes asked
          ((evaluateCommands host (Chain.laterCommands alternatives fallback)).outcome between)) :
    Settled host (branch.guarded :: guarded) (fallback.map Fallback.block) state.scopes origin
      ((evaluateCommands host
        (branch.command :: Chain.laterCommands alternatives fallback)).outcome state) := by
  have observed := observing.le_finalState host branch.guard origin
  rw [Run.finalState_of_ok ended] at observed
  have step := branch.evaluateCommand_of_asks asks
  rw [evaluateTest_apply host branch.guard alike.message.symm alike.calls.symm, ended] at step
  -- where the rest starts: the guard has noted its result, and there may be further calls
  have later := settled { state.pastProlog with
    coordinate := branch.coordinate
    calls := asked.calls
    scopes := state.scopes.record false } rfl rfl (by
      rw [observed]
      exact ⟨alike.flags, alike.message, alike.log, rfl⟩)
  have proceeds : evaluateCommands host
      (branch.command :: Chain.laterCommands alternatives fallback) state =
        evaluateCommands host (Chain.laterCommands alternatives fallback) { state.pastProlog with
          coordinate := branch.coordinate
          calls := asked.calls
          scopes := state.scopes.record false } :=
    Run.bind_of_ok step
  rw [Run.outcome_congr proceeds]
  constructor
  · rw [Branch.guarded, Run.outcome_congr (firstHoldingRun_of_false ended)]
    exact later.alike
  · rw [Branch.guarded, firstHolding_of_false ended]
    exact later.scopes

/-- The guard of the next member holds. -/
theorem Settled.of_true (asks : Asks member state) (alike : state.pastProlog.Alike origin)
    (ended : evaluateTest host branch.guard origin = .ok true asked) :
    Settled host (branch.guarded :: guarded) (fallback.map Fallback.block) state.scopes origin
      ((evaluateCommands host
        (branch.command :: Chain.laterCommands alternatives fallback)).outcome state) := by
  have observed := observing.le_finalState host branch.guard origin
  rw [Run.finalState_of_ok ended] at observed
  have step := branch.evaluateCommand_of_asks asks
  rw [evaluateTest_apply host branch.guard alike.message.symm alike.calls.symm, ended] at step
  -- the state in which the block starts: the guard has been asked and its result noted
  let entry : State := { state.pastProlog with
    coordinate := asked.coordinate
    calls := asked.calls
    scopes := state.scopes.record true }
  change evaluateCommand host branch.command state =
    match evaluateBlock host branch.block entry with
    | .error error reached => .error error reached
    | .ok flow reached => .ok flow { reached with coordinate := branch.coordinate } at step
  have entryAlike : entry.Alike asked := by
    rw [observed]
    exact ⟨alike.flags, alike.message, alike.log, rfl⟩
  have effects := evaluateBlock_alike host branch.block entryAlike
  have kept := scopes_finalState_evaluateBlock host branch.block entry
  have past := (prologOver.correspondence host).related_evaluateBlock branch.block entry rfl
  have chosen : (firstHoldingRun host (branch.guarded :: guarded)
      (fallback.map Fallback.block)).outcome origin =
        (evaluateBlock host branch.block).outcome asked :=
    Run.outcome_congr (firstHoldingRun_of_true ended)
  rw [← chosen] at effects
  cases block : evaluateBlock host branch.block entry with
  | error error reached =>
      rw [block] at step
      rw [Run.outcome_of_error block] at effects
      rw [Run.outcome_of_error (evaluateCommands_of_error step)]
      refine ⟨effects, ?_⟩
      intro found asked flow first done
      cases done
  | ok flow reached =>
      rw [Run.finalState_of_ok block] at kept past
      rw [block] at step
      rw [Run.outcome_of_ok block] at effects
      obtain ⟨result, same⟩ := effects
      cases flow with
      | stop =>
          -- the chain is not completed, so nothing is due about its scope
          rw [Run.outcome_of_ok (evaluateCommands_of_stop step)]
          refine ⟨⟨result, same.flags, same.message, same.log, same.calls⟩, ?_⟩
          intro found last flow first done complete
          cases done
          rw [Branch.guarded, firstHolding_of_true ended] at first
          cases first
          simp at complete
      | proceed =>
          have pastProlog : ({ reached with coordinate := branch.coordinate } : State).pastProlog =
              { reached with coordinate := branch.coordinate } := by
            rw [State.pastProlog, ← past]
          -- the chains within the block are gone, and this one is current again
          have taken : reached.scopes.current = some true := by
            rw [kept]
            rfl
          obtain ⟨after, proceeds, still, left⟩ :=
            @evaluateCommands_of_taken host alternatives fallback
              { reached with coordinate := branch.coordinate } taken pastProlog
          rw [Run.outcome_of_ok ((evaluateCommands_of_proceed step).trans proceeds)]
          refine ⟨⟨result, still.trans ⟨same.flags, same.message, same.log, same.calls⟩⟩, ?_⟩
          intro found last flow first done complete
          rw [Branch.guarded, firstHolding_of_true ended] at first
          cases first
          rw [left, Option.isSome_map, Option.isSome_some]
          show reached.scopes.afterChain _ true = _
          rw [kept]
          exact Scopes.afterChain_record state.scopes true fallback.isSome true

end Cons

/-- **From one member of a chain to the next.**  If its guard holds, the rest of the chain does
nothing; if it fails, there is no rest; and else the rest settles what happens. -/
theorem Settled.cons {member : BranchCommand} (branch : Branch host.registries member)
    {alternatives : List (Branch host.registries .alternative)}
    {fallback : Option (Fallback host.registries)} (asks : Asks member state)
    (alike : state.pastProlog.Alike origin)
    (settled : ∀ between asked : State, between.scopes = state.scopes.record false →
      between.pastProlog = between → between.Alike asked →
        Settled host guarded (fallback.map Fallback.block) between.scopes asked
          ((evaluateCommands host (Chain.laterCommands alternatives fallback)).outcome between)) :
    Settled host (branch.guarded :: guarded) (fallback.map Fallback.block) state.scopes origin
      ((evaluateCommands host
        (branch.command :: Chain.laterCommands alternatives fallback)).outcome state) := by
  cases ended : evaluateTest host branch.guard origin with
  | error error asked => exact .of_error branch asks alike ended
  | ok holds asked =>
      cases holds with
      | true => exact .of_true branch asks alike ended
      | false => exact .of_false branch asks alike ended fun between => settled between asked

/-- The members behind one whose guard did not hold. -/
theorem Settled.later (alternatives : List (Branch host.registries .alternative))
    (fallback : Option (Fallback host.registries)) (untaken : state.scopes.current = some false)
    (alike : state.pastProlog.Alike origin) (pastProlog : state.pastProlog = state) :
    Settled host (alternatives.map Branch.guarded) (fallback.map Fallback.block) state.scopes origin
      ((evaluateCommands host (Chain.laterCommands alternatives fallback)).outcome state) := by
  induction alternatives generalizing state origin with
  | nil => exact .nil fallback untaken alike pastProlog
  | cons branch rest ih =>
      refine .cons branch (.inr ⟨rfl, untaken⟩) alike ?_
      intro between asked recorded still alikeThere
      have refused : between.scopes.current = some false := by
        rw [recorded]
        rfl
      rw [← still] at alikeThere
      exact ih refused alikeThere still

end Settled

/-! ### The whole chain -/

/-- However a chain ends, it is settled as its guards, its blocks and its fallback say. -/
theorem settled_chain (host : Host) (chain : Chain host.registries) (state : State) :
    Settled host chain.guarded (chain.fallback.map Fallback.block) state.scopes state.pastProlog
      ((evaluateCommands host chain.commands).outcome state) := by
  refine .cons chain.opening (.inl rfl) (.refl _) ?_
  intro between asked recorded still alike
  have refused : between.scopes.current = some false := by
    rw [recorded]
    rfl
  rw [← still] at alike
  exact .later chain.alternatives chain.fallback refused alike still

/-- **A chain runs exactly the first branch whose guard holds.**  The guards are asked in order,
with the prolog over.

* If one fails before any holds, the chain fails with that error and has done nothing else.
* If one holds, the chain ends as its block alone would and has the same effects.
* If none holds, so it is with the block of the fallback, and a chain without a fallback goes on and
  has done nothing.

No chain is open behind a fallback; without one, the open chain tells whether a guard has held. -/
theorem evaluateCommands_chain (host : Host) (chain : Chain host.registries) (state : State) :
    let outcome := (evaluateCommands host chain.commands).outcome state
    let asking (asked : State) : State := { state.pastProlog with calls := asked.calls }
    match firstHolding host chain.guarded state.pastProlog with
    | .error error asked => outcome.result = .error error ∧ outcome.state.Alike (asking asked)
    | .ok (some block) asked =>
        outcome.Alike ((evaluateBlock host block).outcome (asking asked)) ∧
          (outcome.result = .ok .proceed →
            outcome.state.scopes = state.scopes.afterChain chain.fallback.isSome true)
    | .ok none asked =>
        match chain.fallback with
        | some fallback =>
            outcome.Alike ((evaluateBlock host fallback.block).outcome (asking asked)) ∧
              ∀ flow, outcome.result = .ok flow → outcome.state.scopes = state.scopes.close
        | none =>
            outcome.result = .ok .proceed ∧ outcome.state.Alike (asking asked) ∧
              outcome.state.scopes = state.scopes.record false := by
  intro outcome asking
  obtain ⟨alike, scopes⟩ := settled_chain host chain state
  have observed := forward_firstHolding host chain.guarded state.pastProlog
  have onlyCalls : ∀ asked, observing.le state.pastProlog asked → asked.Alike (asking asked) := by
    intro asked same
    rw [same]
    exact ⟨rfl, rfl, rfl, rfl⟩
  cases first : firstHolding host chain.guarded state.pastProlog with
  | error error asked =>
      rw [Run.finalState_of_error first] at observed
      have reference : firstHoldingRun host chain.guarded (chain.fallback.map Fallback.block)
          state.pastProlog = .error error asked := Run.bind_of_error first
      rw [Run.outcome_of_error reference] at alike
      exact ⟨alike.result, alike.state.trans (onlyCalls asked observed)⟩
  | ok found asked =>
      rw [Run.finalState_of_ok first] at observed
      have here := onlyCalls asked observed
      have left := scopes found asked
      rw [first, Option.isSome_map] at left
      rw [Run.outcome_congr (firstHoldingRun_of_ok first)] at alike
      cases found with
      | some block =>
          have effects := evaluateBlock_alike host block here
          refine ⟨⟨alike.result.trans effects.result, alike.state.trans effects.state⟩, ?_⟩
          intro proceeds
          exact left .proceed rfl proceeds (.inl rfl)
      | none =>
          cases last : chain.fallback with
          | some fallback =>
              rw [last] at alike left
              have effects := evaluateBlock_alike host fallback.block here
              refine ⟨⟨alike.result.trans effects.result, alike.state.trans effects.state⟩, ?_⟩
              intro flow ended
              exact left flow rfl ended (.inr rfl)
          | none =>
              rw [last] at alike left
              have scopes := left .proceed rfl alike.result (.inl rfl)
              exact ⟨alike.result, alike.state.trans here, scopes⟩

/-- `if false { discard; } elsif true { fileinto "work"; } else { keep; }` -/
def Chain.sample : Chain .builtin where
  opening := {
    name := "if"
    guard := { name := "false" }
    block := [{ name := "discard" }]
    create_eq := Registries.create_builtin_command (.branch .opening) }
  alternatives := [{
    name := "elsif"
    guard := { name := "true" }
    block := [{ name := "fileinto", arguments := { args := [.stringList ["work"]] } }]
    create_eq := Registries.create_builtin_command (.branch .alternative) }]
  fallback := some {
    name := "else"
    block := [{ name := "keep" }]
    create_eq := Registries.create_builtin_command (.branch .fallback) }

/-- The second guard is the first to hold, so the message is filed and nothing else happens. -/
theorem evaluateCommands_chain_sample :
    let host : Host := { registries := .builtin }
    let outcome := (evaluateCommands host Chain.sample.commands).outcome {}
    ∃ block, firstHolding host Chain.sample.guarded ({} : State).pastProlog =
        .ok (some block) ({} : State).pastProlog ∧
      outcome.Alike ((evaluateBlock host block).outcome ({} : State).pastProlog) ∧
      outcome.state.message.pending = [.fileInto "work"] ∧ outcome.state.scopes = {} := by
  intro host outcome
  let start := ({} : State).pastProlog
  have refused : evaluateTest host { name := "false" } start = .ok false start :=
    evaluateTest_constant (Registries.create_builtin_test (.constant false)) {} start
  have held : evaluateTest host { name := "true" } start = .ok true start :=
    evaluateTest_constant (Registries.create_builtin_test (.constant true)) {} start
  have first : firstHolding host Chain.sample.guarded ({} : State).pastProlog = _ :=
    (firstHolding_of_false refused).trans (firstHolding_of_true held)
  have settled := evaluateCommands_chain host Chain.sample {}
  simp only [first] at settled
  obtain ⟨alike, scopes⟩ := settled
  have proceeds : outcome.result.toOption = some .proceed := by decide +kernel
  refine ⟨_, first, alike, by decide +kernel, scopes ?_⟩
  cases ended : outcome.result with
  | error error =>
      rw [ended] at proceeds
      cases proceeds
  | ok flow =>
      rw [ended] at proceeds
      cases proceeds
      rfl

end MailSieve
