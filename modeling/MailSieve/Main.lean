import MailSieve.CommandLine

/-!
# Entry point

Reads the files named on the command line and prints the report of `CommandLine.run`.
-/

namespace MailSieve

/-- What the arguments of the program name. -/
structure Invocation where
  script : String
  message : String
  config : Option String := none

/-- Read the arguments: two files, and perhaps a configuration before, between or behind them. -/
def Invocation.ofArguments? : List String → Option Invocation
  | ["--config", config, script, message] | [script, "--config", config, message]
  | [script, message, "--config", config] => some { script, message, config := some config }
  | [script, message] => some { script, message }
  | _ => none

/-- Why the system could not give a file. -/
def faultOf : IO.Error → FileFault
  | .noFileOrDirectory .. => .missing
  | .permissionDenied _ code details | .inappropriateType _ code details =>
      .other s!"{details} (os error {code})"
  | error => .other (toString error)

/-- What is found at a path. -/
def contentAt (path : String) : IO FileContent := do
  try
    return .found (← IO.FS.readBinFile path)
  catch error =>
    return .unavailable (faultOf error)

/-- Where a user's own configuration is kept. -/
def userConfigPath? : IO (Option String) := do
  match ← IO.getEnv "XDG_CONFIG_HOME", ← IO.getEnv "HOME" with
  | some folder, _ => return some (folder ++ "/mailsieve/interpreter.json")
  | none, some home => return some (home ++ "/.config/mailsieve/interpreter.json")
  | none, none => return none

/-- The configuration named, or else the user's own. -/
def configContent (config : Option String) : IO FileContent := do
  match config, ← userConfigPath? with
  | some path, _ | none, some path => contentAt path
  | none, none => return .unavailable .missing

end MailSieve

/-- Evaluate a script on a message and print the actions. -/
def main (arguments : List String) : IO UInt32 := do
  match MailSieve.Invocation.ofArguments? arguments with
  | none =>
      IO.eprintln "Usage: mail-sieve [--config FILE] SCRIPT MESSAGE"
      return 2
  | some invocation =>
      let config ← MailSieve.configContent invocation.config
      let script ← MailSieve.contentAt invocation.script
      let message ← MailSieve.contentAt invocation.message
      let report := MailSieve.CommandLine.run config script message
      IO.print report.output
      IO.eprint report.errors
      return report.exitCode
