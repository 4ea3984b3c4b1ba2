import MailSieve.Json.Fields
import MailSieve.Registry

/-!
# Configurations as JSON

Three lists of disabled names and the name of the default comparator.  Each may be absent.
-/

namespace MailSieve.Config

/-- All four fields of a configuration. -/
def toJson (config : Config) : Json :=
  .record [("disabled_commands", .ofStrings config.disabledCommands),
    ("disabled_tests", .ofStrings config.disabledTests),
    ("disabled_comparators", .ofStrings config.disabledComparators),
    ("default_comparator", .text config.defaultComparator)]

/-- The configuration in a value, with the defaults for the fields that are absent. -/
def ofJson? (value : Json) : Option Config := do
  let absent : Config := {}
  match ← value.layer.fields?
      ["disabled_commands", "disabled_tests", "disabled_comparators", "default_comparator"] with
  | [commands, tests, comparators, comparator] =>
      some {
        disabledCommands := ← Json.optional absent.disabledCommands Json.texts? commands
        disabledTests := ← Json.optional absent.disabledTests Json.texts? tests
        disabledComparators := ← Json.optional absent.disabledComparators Json.texts? comparators
        defaultComparator := ← Json.optional absent.defaultComparator Json.text? comparator }
  | _ => none

end MailSieve.Config
