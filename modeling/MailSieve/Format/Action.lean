import MailSieve.Action
import MailSieve.Json.Fields

/-!
# Actions as JSON

An action is a record whose field `type` tells which it is, with its mailbox, address or message in
a second field.  It may also be read from a list of the two values.
-/

namespace MailSieve.Action

/-- The record of an action. -/
def toJson : Action → Json
  | keep => .record [("type", .text "keep")]
  | discard => .record [("type", .text "discard")]
  | fileInto mailbox => .record [("type", .text "file_into"), ("mailbox", .text mailbox)]
  | redirect address => .record [("type", .text "redirect"), ("address", .text address)]
  | reject message => .record [("type", .text "reject"), ("message", .text message)]

/-- The type an action is of. -/
def typeOf? : Json.Layer Json → Option String
  | .record fields => do
      let value ← ← Json.valueAt? fields "type"
      value.text?
  | .list (first :: _) => first.text?
  | _ => none

/-- The text in the second field, which has the given key. -/
def detail? (key : String) (layer : Json.Layer Json) : Option String := do
  match ← layer.fields? ["type", key] with
  | [_, some value] => value.text?
  | _ => none

/-- The action of a record or of a list.  A type without a text takes no second field. -/
def ofJson? (value : Json) : Option Action := do
  let layer := value.layer
  let type ← typeOf? layer
  if type = "keep" then (layer.fields? ["type"]).map fun _ => keep
  else if type = "discard" then (layer.fields? ["type"]).map fun _ => discard
  else if type = "file_into" then (detail? "mailbox" layer).map fileInto
  else if type = "redirect" then (detail? "address" layer).map redirect
  else if type = "reject" then (detail? "message" layer).map reject
  else none

end MailSieve.Action

namespace MailSieve

/-- The list of the records of actions. -/
def actionsJson (actions : List Action) : Json := .list (actions.map Action.toJson)

/-- The actions in a list; one that cannot be read spoils them all. -/
def actionsOfJson? (value : Json) : Option (List Action) := do
  let items ← value.list?
  items.mapM Action.ofJson?

end MailSieve
