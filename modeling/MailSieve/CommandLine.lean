import MailSieve.Evaluation.Command
import MailSieve.Store

/-!
# The command line

The program evaluates a script on a message and prints the actions collected.  Configuration, script
and message are loaded in this order, then the script is evaluated; the first failure ends the
program and is reported on the error stream.
-/

namespace MailSieve.CommandLine

/-- What the program leaves behind. -/
structure Report where
  exitCode : UInt32
  output : String
  errors : String
  deriving DecidableEq

/-- A report of the actions collected. -/
def success (actions : List Action) : Report :=
  { exitCode := 0, output := actionsText actions ++ "\n", errors := "" }

/-- A report of a file that could not be loaded.  What is wrong with JSON is not told. -/
def loadFailure : StoreError → Report
  | .json => { exitCode := 1, output := "", errors := s!"error: {StoreError.json.text}" }
  | error => { exitCode := 1, output := "", errors := s!"error: {error.text}\n" }

/-- A report of a script that failed. -/
def runFailure (error : RunError) : Report :=
  { exitCode := 1, output := "", errors := s!"error: {error.text}\n" }

/-- Load all that is needed. -/
def load (config script message : FileContent) : Except StoreError (Config × Script × Message) := do
  let config ← config.loadConfig
  let script ← script.loadScript
  let message ← message.loadMessage
  .ok (config, script, message)

/-- Run the program on the contents of its files. -/
def run (config script message : FileContent) : Report :=
  match load config script message with
  | .error error => loadFailure error
  | .ok (config, script, message) =>
      let outcome := script.evaluate { registries := .ofConfig config } message
      match outcome.result with
      | .ok _ => success outcome.state.message.pending
      | .error error => runFailure error

end MailSieve.CommandLine
