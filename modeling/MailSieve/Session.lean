import MailSieve.Evaluation.Command

/-!
# Sessions

A host need not run whole scripts.  In a session it holds one state and takes single steps on it:
it evaluates trees or parts of them, calls one phase of a command or test, changes the state by
hand, and makes calls on the message.  An error does not end a session.

`Step` lists what a host can do, and `Step.perform` says what comes back and which state is left.
-/

namespace MailSieve

/-- One phase of the evaluation of a command. -/
inductive CommandPhase where
  | kind
  | continuesChain
  | validateState
  | validateArguments
  | validateBlock
  | execute
  | updateState
  deriving DecidableEq

/-- One phase of the evaluation of a test. -/
inductive TestPhase where
  | validateArguments
  | evaluate
  deriving DecidableEq

/-- What a host can do in a session. -/
inductive Step where
  | script (script : Script)
  | block (commands : List Command)
  | command (command : Command)
  | test (test : Test)
  | commandPhase (command : Command) (phase : CommandPhase)
  | testPhase (test : Test) (phase : TestPhase)
  /-- Check the rule on order for a kind of command. -/
  | validateKind (kind : CommandKind)
  /-- Note that a command of a kind has run. -/
  | recordKind (kind : CommandKind)
  | compare (comparator : String) (matchType : MatchType) (value key : String)
  | compareAny (comparator : Option String) (matchType : MatchType) (values keys : List String)
  /-- Make an error at the current position. -/
  | report (cause : Cause)
  | moveTo (coordinate : Coordinate)
  | pushScope
  | popScope
  | recordGuard (result : Bool)
  | closeChain
  | leaveProlog
  | setHasActions
  | setRejected
  | addAction (action : Action)
  | header (name : String)
  | matchingHeader (name : String)
  | headerNames
  | size
  | executeActions
  | reset
  | withHeader (header : Header)
  | withSize (size : UInt64)

/-- What comes back from a step. -/
inductive Answer where
  | done
  | flow (flow : Flow)
  | truth (value : Bool)
  | kind (kind : CommandKind)
  | texts (values : List String)
  | number (value : Nat)
  | error (error : RunError)
  /-- A call on the message failed. -/
  | fault (fault : MailFault)

namespace Run

/-- Run as a step: an error is an answer. -/
def asStep {α : Type} (answer : α → Answer) (run : Run α) (state : State) : Answer × State :=
  match run state with
  | .ok value after => (answer value, after)
  | .error error after => (.error error, after)

end Run

namespace Step

/-- A call on the message outside a run: a failure is an answer, and so is what the call gives.  On
success the message may change. -/
def call {α : Type} (host : Host) (call : Call) (value : α) (answer : α → Answer)
    (message : α → Message) (state : State) : Answer × State :=
  let after := { state with calls := state.calls ++ [call] }
  match host.failures.answer state.calls call value with
  | .ok value => (answer value, { after with message := message value })
  | .error fault => (.fault fault, after)

/-- A question to the message, which leaves it as it is. -/
def question {α : Type} (host : Host) (question : Call) (read : Message → α) (answer : α → Answer)
    (state : State) : Answer × State :=
  call host question (read state.message) answer (fun _ => state.message) state

/-- A change of the state that cannot fail. -/
def change (f : State → State) (state : State) : Answer × State := (.done, f state)

/-- A change of the message alone. -/
def changeMessage (f : Message → Message) : State → Answer × State :=
  change fun state => { state with message := f state.message }

/-- A change of the scopes alone. -/
def changeScopes (f : Scopes → Scopes) : State → Answer × State :=
  change fun state => { state with scopes := f state.scopes }

/-- A change of the flags alone. -/
def changeFlags (f : Flags → Flags) : State → Answer × State :=
  change fun state => { state with flags := f state.flags }

/-- One phase of a command whose implementation has been made. -/
def takeCommandPhase (host : Host) (command : Command) (implementation : BuiltinCommand) :
    CommandPhase → State → Answer × State
  | .kind => fun state => (.kind implementation.kind, state)
  | .continuesChain => fun state => (.truth implementation.continuesChain, state)
  | .validateState => fun state =>
      Run.asStep (fun _ => .done) (Run.ofExcept .order (implementation.validateState state)) state
  | .validateArguments =>
      Run.asStep (fun _ => .done) (Run.ofShape (implementation.validateArguments command.arguments))
  | .validateBlock =>
      Run.asStep (fun _ => .done) (Run.ofShape (implementation.validateBlock command.block))
  | .execute =>
      Run.asStep .flow (implementation.execute host (command.arguments.map (evaluateTest host))
        (command.block.map (evaluateBlock host)))
  | .updateState => changeFlags implementation.updateFlags

/-- One phase of a test whose implementation has been made. -/
def takeTestPhase (host : Host) (test : Test) (implementation : BuiltinTest) :
    TestPhase → State → Answer × State
  | .validateArguments =>
      Run.asStep (fun _ => .done) (Run.ofShape (implementation.validateArguments test.arguments))
  | .evaluate =>
      Run.asStep .truth (implementation.evaluate host (test.arguments.map (evaluateTest host)))

/-- Take a step: what comes back, and the state afterwards. -/
def perform (host : Host) : Step → State → Answer × State
  | .script tree => Run.asStep .flow (evaluateCommands host tree.commands)
  | .block commands => Run.asStep .flow (evaluateBlock host commands)
  | .command node => Run.asStep .flow (evaluateCommand host node)
  | .test node => Run.asStep .truth (evaluateTest host node)
  | .commandPhase node phase => fun state =>
      match host.registries.commands.create node.name with
      | .ok implementation => takeCommandPhase host node implementation phase state
      | .error cause => (.error ⟨cause, node.coordinate⟩, state)
  | .testPhase node phase => fun state =>
      match host.registries.tests.create node.name with
      | .ok implementation => takeTestPhase host node implementation phase state
      | .error cause => (.error ⟨cause, node.coordinate⟩, state)
  | .validateKind kind => fun state =>
      Run.asStep (fun _ => .done) (Run.ofExcept .order (kind.validateState state)) state
  | .recordKind kind => changeFlags kind.updateFlags
  | .compare name matchType value key =>
      Run.asStep .truth do
        let comparator ← Run.ofExcept id (host.registries.comparators.create name)
        Run.ofExcept .pattern (comparator.compare matchType value key)
  | .compareAny comparator matchType values keys =>
      Run.asStep .truth (BuiltinTest.compareAny host comparator matchType values keys)
  | .report cause => fun state => (.error ⟨cause, state.coordinate⟩, state)
  | .moveTo coordinate => change fun state => { state with coordinate }
  | .pushScope => changeScopes (·.push)
  | .popScope => changeScopes (·.pop)
  | .recordGuard result => changeScopes (·.record result)
  | .closeChain => changeScopes (·.close)
  | .leaveProlog => changeFlags ({ · with inProlog := false })
  | .setHasActions => changeFlags ({ · with hasActions := true })
  | .setRejected => changeFlags ({ · with rejected := true })
  | .addAction action => fun state =>
      call host (.addAction action) (state.message.addAction action) (fun _ => .done) id state
  | .header name => question host (.header name) (·.valuesOf name) .texts
  | .matchingHeader name => question host (.matchingHeader name) (·.valuesMatching name) .texts
  | .headerNames => question host .headerNames (·.headerNames) .texts
  | .size => question host .size (·.size) .number
  | .executeActions => changeMessage (·.executeActions)
  | .reset => changeMessage (·.reset)
  | .withHeader field => changeMessage (·.withHeader field)
  | .withSize octets => changeMessage (·.withSize octets)

/-- Take steps one after the other; for each what came back and the state after it. -/
def performAll (host : Host) : List Step → State → List (Answer × State)
  | [], _ => []
  | step :: rest, state =>
      let taken := step.perform host state
      taken :: performAll host rest taken.2

end Step

end MailSieve
