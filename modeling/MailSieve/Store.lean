import MailSieve.Format.Action
import MailSieve.Format.Config
import MailSieve.Format.Message
import MailSieve.Format.Tree
import MailSieve.Json.Printer
import MailSieve.Json.Reader

/-!
# Files

Scripts, messages and configurations are read from JSON files, and actions are written to one.  What
is found where a file should be is a parameter, `FileContent`, so that reading is a function.  A
configuration that is not there is the default one; every other absence is an error.
-/

namespace MailSieve

/-- Why a file could not be read or written. -/
inductive FileFault where
  | missing
  /-- The octets are not UTF-8. -/
  | notText
  /-- A file stands where a folder is needed. -/
  | fileInPlace
  /-- Any other reason, in the words of the system. -/
  | other (reason : String)
  deriving DecidableEq

/-- The reason in the words of the system. -/
def FileFault.reason : FileFault → String
  | missing => "No such file or directory (os error 2)"
  | notText => "stream did not contain valid UTF-8"
  | fileInPlace => "File exists (os error 17)"
  | other reason => reason

/-- Why nothing could be loaded or saved. -/
inductive StoreError where
  | file (fault : FileFault)
  /-- The text is no JSON, or no JSON of the wanted form. -/
  | json
  deriving DecidableEq

/-- The error in words. -/
def StoreError.text : StoreError → String
  | file fault => s!"I/O error: {fault.reason}"
  | json => "JSON error"

/-- What is found where a file should be. -/
inductive FileContent where
  | found (octets : ByteArray)
  | unavailable (fault : FileFault)

namespace FileContent

/-- The text of a file. -/
def text? : FileContent → Except StoreError String
  | found octets =>
      match String.fromUTF8? octets with
      | some text => .ok text
      | none => .error (.file .notText)
  | unavailable fault => .error (.file fault)

/-- What a file holds as JSON. -/
def load {α : Type} (decode : Json → Option α) (content : FileContent) : Except StoreError α := do
  let text ← content.text?
  match (Json.parse? (some Json.nestingLimit) text).bind decode with
  | some value => .ok value
  | none => .error .json

/-- The script that a file holds. -/
def loadScript : FileContent → Except StoreError Script := load Script.ofJson?

/-- The message that a file holds. -/
def loadMessage : FileContent → Except StoreError Message := load Message.ofJson?

/-- The configuration, or the default one if there is no file. -/
def loadConfig : FileContent → Except StoreError Config
  | unavailable .missing => .ok {}
  | content => load Config.ofJson? content

end FileContent

/-- The text of a file of actions. -/
def actionsText (actions : List Action) : String := (actionsJson actions).pretty

end MailSieve
