import MailSieve.Json.Fields
import MailSieve.Tree

/-!
# Script trees as JSON

Encoding writes every field of every node.  Decoding lets arguments, blocks and coordinates be
absent, and looks at no other field than those of the node.

A tree is decoded bottom-up.  Which node a value stands for depends on where it stands, so the fold
takes down at each value all that it could be: its `Reading`.  The value around it then uses the
reading that fits.  So decoding is total without a bound on the depth, and its equations are those
of the fold.
-/

namespace MailSieve

namespace Coordinate

/-- Both numbers of a position. -/
def toJson (coordinate : Coordinate) : Json :=
  .record [("line", .number coordinate.line), ("column", .number coordinate.column)]

/-- Both fields are needed. -/
def ofJson? (value : Json) : Option Coordinate := do
  match ← value.layer.fields? ["line", "column"] with
  | [some line, some column] => some { line := ← line.number?, column := ← column.number? }
  | _ => none

end Coordinate

namespace Argument

/-- The one field that an argument is written as. -/
def toJson : Argument → Json
  | stringList items => .record [("string_list", .ofStrings items)]
  | number value => .record [("number", .number value)]
  | tag text => .record [("tag", .text text)]

/-- A record with one field, which tells the sort of the argument. -/
def ofJson? : Json → Option Argument
  | .record [(key, value)] =>
      if key = "string_list" then value.texts?.map stringList
      else if key = "number" then value.number?.map number
      else if key = "tag" then value.text?.map tag
      else none
  | _ => none

end Argument

namespace ArgumentsOf

/-- A list of tests, themselves already encoded. -/
def testListJson (tests : List Json) : Json := .record [("tests", .list tests)]

/-- Arguments whose tests are already encoded. -/
def toJson (arguments : ArgumentsOf Json) : Json :=
  .record [("args", .list (arguments.args.map Argument.toJson)),
    ("tests", .ofOption testListJson arguments.tests)]

end ArgumentsOf

namespace Test

/-- A test as JSON, with all that is nested in it. -/
def toJson : Test → Json :=
  fold fun name arguments coordinate =>
    .record [("name", .text name), ("arguments", arguments.toJson),
      ("coordinate", coordinate.toJson)]

end Test

/-- The arguments of a node as JSON. -/
def Arguments.toJson (arguments : Arguments) : Json := (arguments.map Test.toJson).toJson

/-- A list of commands that are already encoded. -/
def commandListJson (commands : List Json) : Json := .record [("commands", .list commands)]

namespace Command

/-- A command as JSON, with all that is nested in it. -/
def toJson : Command → Json :=
  fold fun name arguments block coordinate =>
    .record [("name", .text name), ("arguments", Arguments.toJson arguments),
      ("block", .ofOption commandListJson block), ("coordinate", coordinate.toJson)]

end Command

/-- A block as JSON. -/
def blockJson (commands : List Command) : Json := commandListJson (commands.map Command.toJson)

/-- A script as JSON. -/
def Script.toJson (script : Script) : Json := blockJson script.commands

/-- What a value could be in a tree. -/
structure TreeReading where
  json : Json
  /-- The items of a list, all of them tests. -/
  tests : Option (List Test) := none
  /-- The record around a list of tests. -/
  testList : Option (List Test) := none
  arguments : Option Arguments := none
  test : Option Test := none
  /-- The items of a list, all of them commands. -/
  commands : Option (List Command) := none
  /-- The record around a list of commands. -/
  block : Option (List Command) := none
  command : Option Command := none

namespace TreeReading

/-- Null, or a value with the wanted reading. -/
def nullable {α : Type} (select : TreeReading → Option α) (reading : TreeReading) :
    Option (Option α) :=
  if reading.json.isNull then some none else (select reading).map some

/-- The items of a list whose items are all tests. -/
def testsOf? : Json.Layer TreeReading → Option (List Test)
  | .list items => items.mapM (·.test)
  | _ => none

/-- The tests in a record around a list of tests, which has to be there. -/
def testListOf? (layer : Json.Layer TreeReading) : Option (List Test) := do
  match ← layer.fields? ["tests"] with
  | [some tests] => tests.tests
  | _ => none

/-- The positional arguments in a list. -/
def argsOf? (reading : TreeReading) : Option (List Argument) := do
  let items ← reading.json.list?
  items.mapM Argument.ofJson?

/-- The arguments in a record, either field of which may be absent.  An absent list of tests and
null mean the same. -/
def argumentsOf? (layer : Json.Layer TreeReading) : Option Arguments := do
  match ← layer.fields? ["args", "tests"] with
  | [args, tests] =>
      some {
        args := ← Json.optional [] argsOf? args
        tests := ← Json.optional none (nullable (·.testList)) tests }
  | _ => none

/-- The test in a record, which needs its name. -/
def testOf? (layer : Json.Layer TreeReading) : Option Test := do
  match ← layer.fields? ["name", "arguments", "coordinate"] with
  | [some name, arguments, coordinate] =>
      some {
        name := ← name.json.text?
        arguments := ← Json.optional {} (·.arguments) arguments
        coordinate := ← Json.optional {} (Coordinate.ofJson? ·.json) coordinate }
  | _ => none

/-- The items of a list whose items are all commands. -/
def commandsOf? : Json.Layer TreeReading → Option (List Command)
  | .list items => items.mapM (·.command)
  | _ => none

/-- The commands in a record around a list of commands, which has to be there. -/
def blockOf? (layer : Json.Layer TreeReading) : Option (List Command) := do
  match ← layer.fields? ["commands"] with
  | [some commands] => commands.commands
  | _ => none

/-- The command in a record, which needs its name.  An absent block and null mean the same. -/
def commandOf? (layer : Json.Layer TreeReading) : Option Command := do
  match ← layer.fields? ["name", "arguments", "block", "coordinate"] with
  | [some name, arguments, block, coordinate] =>
      some {
        name := ← name.json.text?
        arguments := ← Json.optional {} (·.arguments) arguments
        block := ← Json.optional none (nullable (·.block)) block
        coordinate := ← Json.optional {} (Coordinate.ofJson? ·.json) coordinate }
  | _ => none

/-- All that a value could be, from what the values inside could be. -/
def ofLayer (layer : Json.Layer TreeReading) : TreeReading where
  json := .ofLayer (layer.map (·.json))
  tests := testsOf? layer
  testList := testListOf? layer
  arguments := argumentsOf? layer
  test := testOf? layer
  commands := commandsOf? layer
  block := blockOf? layer
  command := commandOf? layer

/-- All that a value could be. -/
def ofJson : Json → TreeReading := Json.fold ofLayer

end TreeReading

/-- The arguments that a value stands for. -/
def Arguments.ofJson? (value : Json) : Option Arguments := (TreeReading.ofJson value).arguments

/-- The test that a value stands for. -/
def Test.ofJson? (value : Json) : Option Test := (TreeReading.ofJson value).test

/-- The command that a value stands for. -/
def Command.ofJson? (value : Json) : Option Command := (TreeReading.ofJson value).command

/-- The commands of the block that a value stands for. -/
def blockOfJson? (value : Json) : Option (List Command) := (TreeReading.ofJson value).block

/-- The script that a value stands for. -/
def Script.ofJson? (value : Json) : Option Script := (blockOfJson? value).map Script.mk

end MailSieve
