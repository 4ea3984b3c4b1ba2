import MailSieve.Registry

/-!
# The state of a run

A run walks a script and carries a state along: the position it has reached, the chains of branches
that are open, what may still come, the message, the log, and the calls made on the message.  It may
fail with an error at any node; the state reached by then stays.

## Main Definitions

* `Scopes`: for the list of commands being run, and for each list around it, the result of the last
  guard of the open chain.  The current one always exists, so there is no empty stack.
* `State`, and `Run α`, the computations over it.
* `Run.fail` stamps an error with the current position; every error of a run is made there.
* `Run.ask` makes a call on the message, which fails as the `Host` says.
* `Run.inScope` runs a block under a scope of its own and removes it whatever the outcome.
-/

namespace MailSieve

/-- For each list of commands being run, the result of the last guard of its open chain, or nothing
where no chain is open. -/
structure Scopes where
  current : Option Bool := none
  /-- The scopes around the current one, innermost first. -/
  outer : List (Option Bool) := []
  deriving DecidableEq, Inhabited

namespace Scopes

/-- How many lists of commands are being run, the script itself included. -/
def depth (scopes : Scopes) : Nat := scopes.outer.length + 1

/-- Enter a block. -/
def push (scopes : Scopes) : Scopes := { current := none, outer := scopes.current :: scopes.outer }

/-- Leave a block.  The outermost scope stays. -/
def pop (scopes : Scopes) : Scopes :=
  match scopes.outer with
  | [] => scopes
  | current :: outer => { current, outer }

/-- Note the result of a guard. -/
def record (scopes : Scopes) (result : Bool) : Scopes := { scopes with current := some result }

/-- End the open chain. -/
def close (scopes : Scopes) : Scopes := { scopes with current := none }

/-- Whether a further branch would run: the open chain has had no guard that held. -/
def branchAllowed? (scopes : Scopes) : Option Bool := scopes.current.map (!·)

@[simp] theorem pop_push (scopes : Scopes) : scopes.push.pop = scopes := rfl

end Scopes

/-- What the commands run so far allow for the next. -/
structure Flags where
  /-- No command but prolog commands has run. -/
  inProlog : Bool := true
  /-- An action command has run. -/
  hasActions : Bool := false
  /-- The message has been rejected. -/
  rejected : Bool := false
  deriving DecidableEq, Inhabited

/-- An entry of the log. -/
structure LogEntry where
  level : LogLevel
  message : String
  coordinate : Coordinate
  deriving DecidableEq

/-- How far a run has come. -/
structure State where
  coordinate : Coordinate := {}
  scopes : Scopes := {}
  flags : Flags := {}
  message : Message := {}
  /-- What has been written to the log, oldest first. -/
  log : List LogEntry := []
  /-- The calls made on the message, oldest first, failed ones included. -/
  calls : List Call := []
  deriving Inhabited

/-- What surrounds a run: the implementations by name, and the calls on the message that fail. -/
structure Host where
  registries : Registries
  failures : Failures := .none

/-- Whether the run goes on after a command. -/
inductive Flow where
  | proceed
  | stop
  deriving DecidableEq, Inhabited

/-- A computation over the state of a run.  An error leaves the state as it was reached. -/
abbrev Run := EStateM RunError State

namespace Run

variable {α : Type}

@[simp] theorem pure_apply (value : α) (state : State) :
    (pure value : Run α) state = .ok value state := rfl

/-- The second computation starts where the first one has arrived, unless that failed. -/
theorem bind_apply {β : Type} (first : Run α) (rest : α → Run β) (state : State) :
    (first >>= rest) state =
      match first state with
      | .ok value after => rest value after
      | .error error after => .error error after := by
  show EStateM.bind first rest state = _
  unfold EStateM.bind
  cases first state <;> rfl

@[simp] theorem get_bind_apply (rest : State → Run α) (state : State) :
    (get >>= rest) state = rest state state := rfl

/-- Fail at the current position. -/
def fail (cause : Cause) : Run α := fun state => .error ⟨cause, state.coordinate⟩ state

/-- Take a result, or fail for the reason given. -/
def ofExcept {ε : Type} (toCause : ε → Cause) : Except ε α → Run α
  | .ok value => pure value
  | .error reason => fail (toCause reason)

/-- Take what a reader found, or fail with its fault. -/
def ofShape (result : Except ShapeFault α) : Run α := ofExcept .shape result

/-- Go to a position in the script. -/
def moveTo (coordinate : Coordinate) : Run Unit :=
  modify fun state => { state with coordinate }

/-- Change the scopes. -/
def setScopes (change : Scopes → Scopes) : Run Unit :=
  modify fun state => { state with scopes := change state.scopes }

/-- Change what the next commands may do. -/
def setFlags (change : Flags → Flags) : Run Unit :=
  modify fun state => { state with flags := change state.flags }

@[simp] theorem fail_apply (cause : Cause) (state : State) :
    (fail cause : Run α) state = .error ⟨cause, state.coordinate⟩ state := rfl

@[simp] theorem ofExcept_ok {ε : Type} (toCause : ε → Cause) (value : α) :
    ofExcept toCause (.ok value) = (pure value : Run α) := rfl

@[simp] theorem ofExcept_error {ε : Type} (toCause : ε → Cause) (reason : ε) :
    ofExcept toCause (.error reason) = (fail (toCause reason) : Run α) := rfl

@[simp] theorem ofShape_ok (value : α) : ofShape (.ok value) = (pure value : Run α) := rfl

@[simp] theorem ofShape_error (fault : ShapeFault) :
    ofShape (.error fault) = (fail (.shape fault) : Run α) := rfl

@[simp] theorem moveTo_apply (coordinate : Coordinate) (state : State) :
    moveTo coordinate state = .ok () { state with coordinate } := rfl

@[simp] theorem setScopes_apply (change : Scopes → Scopes) (state : State) :
    setScopes change state = .ok () { state with scopes := change state.scopes } := rfl

@[simp] theorem setFlags_apply (change : Flags → Flags) (state : State) :
    setFlags change state = .ok () { state with flags := change state.flags } := rfl

/-- Make a call on the message and take its answer, unless the call fails. -/
def ask (host : Host) (call : Call) (answer : Message → α) : Run α := do
  let state ← get
  set { state with calls := state.calls ++ [call] }
  ofExcept .mailAccess (host.failures.answer state.calls call (answer state.message))

/-- A call is noted whether it fails or not; a failed one ends the run at the current position. -/
theorem ask_apply (host : Host) (call : Call) (answer : Message → α) (state : State) :
    ask host call answer state =
      match host.failures state.calls call with
      | some fault =>
          .error ⟨.mailAccess fault, state.coordinate⟩ { state with calls := state.calls ++ [call] }
      | none => .ok (answer state.message) { state with calls := state.calls ++ [call] } := by
  show ofExcept .mailAccess (host.failures.answer state.calls call (answer state.message))
    { state with calls := state.calls ++ [call] } = _
  unfold Failures.answer
  cases host.failures state.calls call <;> rfl

/-- Collect an action on the message. -/
def collect (host : Host) (action : Action) : Run Unit := do
  let message ← ask host (.addAction action) (·.addAction action)
  modify fun state => { state with message }

/-- An action is added to the message unless the call fails, and nothing else changes but the note
of the call. -/
theorem collect_apply (host : Host) (action : Action) (state : State) :
    collect host action state =
      match host.failures state.calls (.addAction action) with
      | some fault =>
          .error ⟨.mailAccess fault, state.coordinate⟩
            { state with calls := state.calls ++ [.addAction action] }
      | none =>
          .ok () { state with
            message := state.message.addAction action
            calls := state.calls ++ [.addAction action] } := by
  rw [collect, bind_apply, ask_apply]
  cases host.failures state.calls (.addAction action) <;> rfl

/-- Write to the log, at the current position. -/
def write (level : LogLevel) (message : String) : Run Unit :=
  modify fun state => { state with log := state.log ++ [⟨level, message, state.coordinate⟩] }

@[simp] theorem write_apply (level : LogLevel) (message : String) (state : State) :
    write level message state =
      .ok () { state with log := state.log ++ [⟨level, message, state.coordinate⟩] } := rfl

/-- Run under a scope of its own, which is removed whatever the outcome. -/
def inScope (body : Run α) : Run α := fun state =>
  match body { state with scopes := state.scopes.push } with
  | .ok value after => .ok value { after with scopes := after.scopes.pop }
  | .error error after => .error error { after with scopes := after.scopes.pop }

/-- Run one after the other until one says to stop. -/
def sequence : List (Run Flow) → Run Flow
  | [] => pure .proceed
  | first :: rest => do
      match ← first with
      | .stop => pure .stop
      | .proceed => sequence rest

end Run

end MailSieve
