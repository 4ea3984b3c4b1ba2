import MailSieve.Format.Action
import MailSieve.Format.Config
import MailSieve.Format.Message
import MailSieve.Format.Tree
import Mathlib.Data.List.Forall2

/-!
# What is written can be read back

Scripts, actions, configurations and messages are written with every field, and some fields may be
left out by whoever writes them by hand.  Reading takes the one form as well as the other.

* `Json.Abridges`: one value is the other without some fields, in any records at any depth, that
  hold what their absence means anyway.
* `Json.Reads`: a decoder finds a value in all abridged forms of what was written for it.  A decoder
  of lists or of nullable values reads if the decoder of the items does.
* `Arguments.ofJson?_of_fields`, `Test.ofJson?_of_fields`, `Command.ofJson?_of_fields` and
  `blockOfJson?_of_fields` say what the decoders of a tree do, without the readings they are made
  of.  With them `Test.reads` and `Command.reads` follow by induction on the tree.
* `formats_roundTrip` is the conclusion for all that is read and written.
-/

namespace MailSieve

namespace Json

/-! ### Abridged forms -/

section Abridged

variable (absent : List (String × Json))

mutual

/-- The second value is the first one without some fields.  A field may be missing anywhere if
`absent` has it with the value that it holds. -/
inductive Abridges : Json → Json → Prop
  | refl (value : Json) : Abridges value value
  | list {items others : List Json} : AbridgesItems items others →
      Abridges (list items) (list others)
  | record {fields others : List (String × Json)} : AbridgesFields fields others →
      Abridges (record fields) (record others)

/-- Each item of a list is written in an abridged form, in the same order. -/
inductive AbridgesItems : List Json → List Json → Prop
  | nil : AbridgesItems [] []
  | cons {item shown : Json} {items others : List Json} : Abridges item shown →
      AbridgesItems items others → AbridgesItems (item :: items) (shown :: others)

/-- Each field of a record is written with an abridged value, or left out where it may be absent. -/
inductive AbridgesFields : List (String × Json) → List (String × Json) → Prop
  | nil : AbridgesFields [] []
  | keep {key : String} {value shown : Json} {fields others : List (String × Json)} :
      Abridges value shown → AbridgesFields fields others →
        AbridgesFields ((key, value) :: fields) ((key, shown) :: others)
  | leave {field : String × Json} {fields others : List (String × Json)} : field ∈ absent →
      AbridgesFields fields others → AbridgesFields (field :: fields) others

end

end Abridged

section Laws

variable {absent : List (String × Json)} {key : String} {value shown : Json}

theorem AbridgesItems.refl : ∀ items : List Json, AbridgesItems absent items items
  | [] => .nil
  | item :: rest => .cons (.refl item) (refl rest)

theorem AbridgesFields.refl : ∀ fields : List (String × Json), AbridgesFields absent fields fields
  | [] => .nil
  | field :: rest => .keep (.refl field.2) (refl rest)

/-- Only records and lists have abridged forms other than themselves. -/
theorem Abridges.isNull_eq (abridged : Abridges absent value shown) :
    shown.isNull = value.isNull := by
  cases abridged <;> rfl

/-- A text can only be written in full. -/
theorem Abridges.eq_text {text : String} (abridged : Abridges absent (.text text) shown) :
    shown = .text text := by
  cases abridged
  rfl

/-- A list is abridged in its items. -/
theorem Abridges.exists_items {items : List Json} (abridged : Abridges absent (.list items) shown) :
    ∃ others, shown = .list others ∧ AbridgesItems absent items others := by
  cases abridged with
  | refl => exact ⟨items, rfl, .refl items⟩
  | list inside => exact ⟨_, rfl, inside⟩

/-- A record is abridged in its fields. -/
theorem Abridges.exists_fields {fields : List (String × Json)}
    (abridged : Abridges absent (.record fields) shown) :
    ∃ others, shown = .record others ∧ AbridgesFields absent fields others := by
  cases abridged with
  | refl => exact ⟨fields, rfl, .refl fields⟩
  | record inside => exact ⟨_, rfl, inside⟩

/-- A record with one field that must be there is abridged in the value of it. -/
theorem Abridges.exists_single (abridged : Abridges absent (.record [(key, value)]) shown)
    (needed : (key, value) ∉ absent) :
    ∃ inside, shown = .record [(key, inside)] ∧ Abridges absent value inside := by
  obtain ⟨others, rfl, fields⟩ := abridged.exists_fields
  rcases fields with _ | ⟨shortened, ⟨⟩⟩ | ⟨allowed, _⟩
  · exact ⟨_, rfl, shortened⟩
  · exact absurd allowed needed

/-! ### Fields of an abridged record -/

/-- What may be found for a field that was written: an abridged form of its value, or nothing if the
field may be absent. -/
inductive Found (absent : List (String × Json)) : String × Json → Option Json → Prop
  | shown {key : String} {value shown : Json} : Abridges absent value shown →
      Found absent (key, value) (some shown)
  | leftOut {field : String × Json} : field ∈ absent → Found absent field none

/-- An abridged record has no keys of its own. -/
theorem AbridgesFields.mem_keys {fields others : List (String × Json)}
    (abridged : AbridgesFields absent fields others) (present : key ∈ others.map Prod.fst) :
    key ∈ fields.map Prod.fst := by
  induction fields generalizing others with
  | nil => cases abridged; exact present
  | cons field rest ih =>
      cases abridged with
      | keep _ inside =>
          rw [List.map_cons, List.mem_cons] at present ⊢
          exact present.imp_right (ih inside)
      | leave _ inside => exact List.mem_cons_of_mem _ (ih inside present)

/-- Under each key of a record, an abridged form of it has what may be found there. -/
theorem AbridgesFields.exists_valueAt? {fields others : List (String × Json)}
    (abridged : AbridgesFields absent fields others) (distinct : (fields.map Prod.fst).Nodup) :
    ∀ field ∈ fields, ∃ found, valueAt? others field.1 = some found ∧ Found absent field found := by
  induction fields generalizing others with
  | nil => simp
  | cons first rest ih =>
      obtain ⟨once, apart⟩ := List.nodup_cons.mp distinct
      cases abridged with
      | @keep key value shown _ others shortened inside =>
          -- no key is written twice, so none is left twice
          have alone : key ∉ others.map Prod.fst := fun present => once (inside.mem_keys present)
          refine List.forall_mem_cons.mpr ⟨⟨_, valueAt?_cons_self alone, .shown shortened⟩, ?_⟩
          intro field present
          have other : field.1 ≠ key := fun same =>
            once (List.mem_map.mpr ⟨field, present, same⟩)
          rw [valueAt?_cons_of_ne other]
          exact ih inside apart field present
      | leave allowed inside =>
          have missing : first.1 ∉ others.map Prod.fst := fun present =>
            once (inside.mem_keys present)
          exact List.forall_mem_cons.mpr
            ⟨⟨none, valueAt?_of_not_mem missing, .leftOut allowed⟩, ih inside apart⟩

/-- **The fields of an abridged record**, in the order in which they were written. -/
theorem Abridges.exists_found {fields : List (String × Json)}
    (abridged : Abridges absent (.record fields) shown)
    (distinct : (fields.map Prod.fst).Nodup) :
    ∃ found, shown.layer.fields? (fields.map Prod.fst) = some found ∧
      List.Forall₂ (Found absent) fields found := by
  obtain ⟨others, rfl, inside⟩ := abridged.exists_fields
  have each := inside.exists_valueAt? distinct
  clear abridged distinct inside
  simp only [layer, Layer.fields?]
  induction fields with
  | nil => exact ⟨[], rfl, .nil⟩
  | cons field rest ih =>
      obtain ⟨⟨here, at_key, found⟩, each⟩ := List.forall_mem_cons.mp each
      obtain ⟨later, at_keys, all⟩ := ih each
      refine ⟨here :: later, ?_, .cons found all⟩
      rw [List.map_cons, List.mapM_cons, at_key, at_keys]
      rfl

end Laws

/-! ### Decoders -/

variable {α : Type} {absent : List (String × Json)} {key : String} {written : Json} {value : α}
  {decode : Json → Option α}

/-- A decoder finds the value in every abridged form of what is written for it. -/
def Reads (absent : List (String × Json)) (decode : Json → Option α) (written : Json) (value : α) :
    Prop :=
  ∀ shown, Abridges absent written shown → decode shown = some value

/-- A field that must be there can be read. -/
theorem Found.exists_of_not_mem {found : Option Json} (there : Found absent (key, written) found)
    (reads : Reads absent decode written value) (needed : (key, written) ∉ absent) :
    ∃ shown, found = some shown ∧ decode shown = some value := by
  cases there with
  | shown abridged => exact ⟨_, rfl, reads _ abridged⟩
  | leftOut allowed => exact absurd allowed needed

/-- A field that may be absent can be read if its absence means the same. -/
theorem Found.optional {found : Option Json} {fallback : α}
    (there : Found absent (key, written) found) (reads : Reads absent decode written value)
    (same : (key, written) ∈ absent → fallback = value) :
    optional fallback decode found = some value := by
  cases there with
  | shown abridged => exact reads _ abridged
  | leftOut allowed => exact congrArg some (same allowed)

namespace Reads

theorem text (text : String) : Reads absent text? (.text text) text := by
  rintro _ ⟨⟩
  rfl

theorem number (number : UInt64) : Reads absent number? (.number number) number := by
  rintro _ ⟨⟩
  rfl

/-- Items are read back if each of them is. -/
theorem items {toJson : α → Json} {items : List α} {others : List Json}
    (each : ∀ item ∈ items, Reads absent decode (toJson item) item)
    (abridged : AbridgesItems absent (items.map toJson) others) :
    others.mapM decode = some items := by
  induction items generalizing others with
  | nil =>
      cases abridged
      rfl
  | cons item rest ih =>
      obtain ⟨first, later⟩ := List.forall_mem_cons.mp each
      rw [List.map_cons] at abridged
      cases abridged with
      | cons shortened inside =>
          rw [List.mapM_cons, first _ shortened, ih later inside]
          rfl

/-- A list is read back if each of its items is. -/
theorem list {toJson : α → Json} {items : List α}
    (each : ∀ item ∈ items, Reads absent decode (toJson item) item) :
    Reads absent (fun value => value.list? >>= List.mapM decode) (.list (items.map toJson))
      items := by
  intro shown abridged
  obtain ⟨others, rfl, inside⟩ := abridged.exists_items
  exact Reads.items each inside

theorem texts (texts : List String) : Reads absent texts? (.ofStrings texts) texts :=
  list fun text _ => .text text

/-- A choice is read back if its value is, and is not written as null. -/
theorem nullable {toJson : α → Json} {choice : Option α}
    (solid : ∀ value ∈ choice, (toJson value).isNull = false)
    (each : ∀ value ∈ choice, Reads absent decode (toJson value) value) :
    Reads absent (Json.nullable decode) (.ofOption toJson choice) choice := by
  intro shown abridged
  cases choice with
  | none =>
      cases abridged
      rfl
  | some value =>
      have solid : shown.isNull = false := abridged.isNull_eq.trans (solid value rfl)
      rw [Json.nullable, solid, each value rfl shown abridged]
      rfl

end Reads

/-- A nullable field can be read if its absence means null. -/
theorem Found.nullable {toJson : α → Json} {choice : Option α} {found : Option Json}
    (there : Found absent (key, .ofOption toJson choice) found)
    (meansNull : ∀ written, (key, written) ∈ absent → written = .null)
    (solid : ∀ value ∈ choice, (toJson value).isNull = false)
    (each : ∀ value ∈ choice, Reads absent decode (toJson value) value) :
    Json.optional none (Json.nullable decode) found = some choice := by
  refine there.optional (.nullable solid each) fun allowed => ?_
  cases choice with
  | none => rfl
  | some value =>
      have null : toJson value = .null := meansNull _ allowed
      have solid := solid value rfl
      rw [null] at solid
      cases solid

end Json

/-! ### Parts of a tree -/

/-- The fields of a tree that may be left out, with what they then hold. -/
def treeDefaults : List (String × Json) :=
  [("arguments", Arguments.toJson {}), ("args", .list []), ("tests", .null), ("block", .null),
    ("coordinate", Coordinate.toJson {})]

/-- Two positions are not written alike. -/
theorem Coordinate.toJson_inj {coordinate other : Coordinate}
    (same : coordinate.toJson = other.toJson) : coordinate = other := by
  obtain ⟨line, column⟩ := coordinate
  obtain ⟨otherLine, otherColumn⟩ := other
  simpa [toJson] using same

/-- Every abridged form of a position is read back: neither number may be left out. -/
theorem Coordinate.reads (coordinate : Coordinate) :
    Json.Reads treeDefaults ofJson? coordinate.toJson coordinate := by
  intro shown abridged
  obtain ⟨found, fields, all⟩ := abridged.exists_found (by simp)
  obtain _ | ⟨atLine, _ | ⟨atColumn, _ | _⟩⟩ := all
  obtain ⟨_, rfl, line⟩ :=
    atLine.exists_of_not_mem (.number coordinate.line) (by simp [treeDefaults])
  obtain ⟨_, rfl, column⟩ :=
    atColumn.exists_of_not_mem (.number coordinate.column) (by simp [treeDefaults])
  change shown.layer.fields? ["line", "column"] = _ at fields
  simp [ofJson?, fields, line, column]

/-- Every abridged form of an argument is read back. -/
theorem Argument.reads (argument : Argument) :
    Json.Reads treeDefaults ofJson? argument.toJson argument := by
  intro shown abridged
  cases argument with
  | stringList items =>
      obtain ⟨inside, rfl, kept⟩ := abridged.exists_single (by simp [treeDefaults])
      show inside.texts?.map stringList = some (stringList items)
      rw [Json.Reads.texts items inside kept]
      rfl
  | number value =>
      obtain ⟨inside, rfl, kept⟩ := abridged.exists_single (by simp [treeDefaults])
      show inside.number?.map number = some (number value)
      rw [Json.Reads.number value inside kept]
      rfl
  | tag text =>
      obtain ⟨inside, rfl, kept⟩ := abridged.exists_single (by simp [treeDefaults])
      show inside.text?.map tag = some (tag text)
      rw [Json.Reads.text text inside kept]
      rfl

/-! ### Decoding a tree without readings -/

namespace TreeReading

/-- All that a value could be, from the values inside. -/
theorem ofJson_eq (value : Json) : ofJson value = ofLayer (value.layer.map ofJson) :=
  Json.fold_eq ofLayer value

/-- A reading keeps the value that is read. -/
@[simp] theorem json_ofJson (value : Json) : (ofJson value).json = value := by
  induction value using Json.induction with
  | node value nested =>
      rw [ofJson_eq]
      cases value with
      | list items =>
          show Json.list ((items.map ofJson).map (·.json)) = .list items
          have kept : items.map (fun item => (ofJson item).json) = items.map id :=
            List.map_congr_left nested
          rw [List.map_map]
          exact congrArg Json.list (kept.trans items.map_id)
      | record fields =>
          show Json.record ((fields.map fun field => (field.1, ofJson field.2)).map
            fun field => (field.1, field.2.json)) = .record fields
          have kept : fields.map (fun field => (field.1, (ofJson field.2).json)) = fields.map id :=
            List.map_congr_left fun field present =>
              congrArg (Prod.mk field.1) (nested field.2 (List.mem_map_of_mem present))
          rw [List.map_map]
          exact congrArg Json.record (kept.trans fields.map_id)
      | null | boolean | number | otherNumber | text | unreadable => rfl

/-- A reading or null is the same on values as on their readings. -/
theorem nullable_ofJson {α : Type} (select : TreeReading → Option α) :
    nullable select ∘ ofJson = Json.nullable (select ∘ ofJson) := by
  funext value
  rw [Function.comp_apply, nullable, json_ofJson]
  rfl

theorem argsOf?_ofJson :
    argsOf? ∘ ofJson = fun value => value.list? >>= List.mapM Argument.ofJson? := by
  funext value
  rw [Function.comp_apply, argsOf?, json_ofJson]

theorem coordinate_ofJson : (Coordinate.ofJson? ·.json) ∘ ofJson = Coordinate.ofJson? := by
  funext value
  rw [Function.comp_apply, json_ofJson]

/-- Tests in a list are decoded one by one. -/
theorem tests_ofJson (value : Json) :
    (ofJson value).tests = value.list? >>= List.mapM Test.ofJson? := by
  rw [ofJson_eq]
  cases value with
  | list items => exact List.mapM_map
  | null | boolean | number | otherNumber | text | record | unreadable => rfl

/-- Commands in a list are decoded one by one. -/
theorem commands_ofJson (value : Json) :
    (ofJson value).commands = value.list? >>= List.mapM Command.ofJson? := by
  rw [ofJson_eq]
  cases value with
  | list items => exact List.mapM_map
  | null | boolean | number | otherNumber | text | record | unreadable => rfl

end TreeReading

/-- A list of tests, with the record around it. -/
def testListOfJson? (value : Json) : Option (List Test) := (TreeReading.ofJson value).testList

section OfFields

open TreeReading (ofJson_eq json_ofJson)

variable {value : Json} {args arguments block coordinate : Option Json}

/-- A list of tests is decoded from the one field of its record. -/
theorem testListOfJson?_of_fields {tests : Json}
    (fields : value.layer.fields? ["tests"] = some [some tests]) :
    testListOfJson? value = tests.list? >>= List.mapM Test.ofJson? := by
  rw [testListOfJson?, ofJson_eq]
  show TreeReading.testListOf? _ = _
  rw [TreeReading.testListOf?, Json.Layer.fields?_map, fields]
  exact TreeReading.tests_ofJson tests

/-- Arguments are decoded from what is found under their keys. -/
theorem Arguments.ofJson?_of_fields {tests : Option Json}
    (fields : value.layer.fields? ["args", "tests"] = some [args, tests]) :
    ofJson? value = (do
      let args ← Json.optional [] (fun value => value.list? >>= List.mapM Argument.ofJson?) args
      let tests ← Json.optional none (Json.nullable testListOfJson?) tests
      some { args, tests }) := by
  rw [ofJson?, ofJson_eq]
  show TreeReading.argumentsOf? _ = _
  rw [TreeReading.argumentsOf?, Json.Layer.fields?_map, fields]
  simp only [Option.map_some, List.map_cons, List.map_nil, Option.bind_eq_bind, Option.bind_some,
    Json.optional_map, TreeReading.argsOf?_ofJson, TreeReading.nullable_ofJson]
  rfl

/-- A test is decoded from what is found under its keys. -/
theorem Test.ofJson?_of_fields {name : Json}
    (fields : value.layer.fields? ["name", "arguments", "coordinate"] =
      some [some name, arguments, coordinate]) :
    ofJson? value = (do
      let name ← name.text?
      let arguments ← Json.optional {} Arguments.ofJson? arguments
      let coordinate ← Json.optional {} Coordinate.ofJson? coordinate
      some { name, arguments, coordinate }) := by
  rw [ofJson?, ofJson_eq]
  show TreeReading.testOf? _ = _
  rw [TreeReading.testOf?, Json.Layer.fields?_map, fields]
  simp only [Option.map_some, List.map_cons, List.map_nil, Option.bind_eq_bind, Option.bind_some,
    Json.optional_map, json_ofJson, TreeReading.coordinate_ofJson]
  rfl

/-- A block is decoded from the one field of its record. -/
theorem blockOfJson?_of_fields {commands : Json}
    (fields : value.layer.fields? ["commands"] = some [some commands]) :
    blockOfJson? value = commands.list? >>= List.mapM Command.ofJson? := by
  rw [blockOfJson?, ofJson_eq]
  show TreeReading.blockOf? _ = _
  rw [TreeReading.blockOf?, Json.Layer.fields?_map, fields]
  exact TreeReading.commands_ofJson commands

/-- A command is decoded from what is found under its keys. -/
theorem Command.ofJson?_of_fields {name : Json}
    (fields : value.layer.fields? ["name", "arguments", "block", "coordinate"] =
      some [some name, arguments, block, coordinate]) :
    ofJson? value = (do
      let name ← name.text?
      let arguments ← Json.optional {} Arguments.ofJson? arguments
      let block ← Json.optional none (Json.nullable blockOfJson?) block
      let coordinate ← Json.optional {} Coordinate.ofJson? coordinate
      some { name, arguments, block, coordinate }) := by
  rw [ofJson?, ofJson_eq]
  show TreeReading.commandOf? _ = _
  rw [TreeReading.commandOf?, Json.Layer.fields?_map, fields]
  simp only [Option.map_some, List.map_cons, List.map_nil, Option.bind_eq_bind, Option.bind_some,
    Json.optional_map, json_ofJson, TreeReading.coordinate_ofJson, TreeReading.nullable_ofJson]
  rfl

end OfFields

/-! ### Trees -/

theorem Arguments.toJson_mk (args : List Argument) (tests : Option (List Test)) :
    toJson ⟨args, tests⟩ =
      .record [("args", .list (args.map Argument.toJson)),
        ("tests", .ofOption (ArgumentsOf.testListJson ∘ List.map Test.toJson) tests)] := by
  rw [← Json.ofOption_map]
  rfl

theorem Test.toJson_mk (name : String) (arguments : Arguments) (coordinate : Coordinate) :
    toJson ⟨name, arguments, coordinate⟩ =
      .record [("name", .text name), ("arguments", arguments.toJson),
        ("coordinate", coordinate.toJson)] :=
  fold_mk _ name arguments coordinate

theorem Command.toJson_mk (name : String) (arguments : Arguments) (block : Option (List Command))
    (coordinate : Coordinate) :
    toJson ⟨name, arguments, block, coordinate⟩ =
      .record [("name", .text name), ("arguments", arguments.toJson),
        ("block", .ofOption blockJson block), ("coordinate", coordinate.toJson)] := by
  have blocks : blockJson = commandListJson ∘ List.map toJson := rfl
  rw [blocks, ← Json.ofOption_map]
  exact fold_mk _ name arguments block coordinate

/-- Only arguments that are empty are written as empty arguments. -/
theorem Arguments.eq_default {arguments : Arguments}
    (same : arguments.toJson = Arguments.toJson {}) : arguments = {} := by
  obtain ⟨args, tests⟩ := arguments
  rw [toJson_mk, toJson_mk] at same
  obtain ⟨none_positional, no_tests⟩ : args = [] ∧
      Json.ofOption (ArgumentsOf.testListJson ∘ List.map Test.toJson) tests = .null := by
    simpa [Json.ofOption] using same
  cases tests with
  | none => rw [none_positional]
  | some tests => cases no_tests

/-- A list of tests is read back if each test is. -/
theorem testList_reads {tests : List Test}
    (each : ∀ test ∈ tests, Json.Reads treeDefaults Test.ofJson? test.toJson test) :
    Json.Reads treeDefaults testListOfJson? (ArgumentsOf.testListJson (tests.map Test.toJson))
      tests := by
  intro shown abridged
  obtain ⟨found, fields, all⟩ := abridged.exists_found (by simp)
  obtain _ | ⟨atTests, _ | _⟩ := all
  obtain ⟨items, rfl, read⟩ :=
    atTests.exists_of_not_mem (Json.Reads.list each) (by simp [treeDefaults])
  rw [testListOfJson?_of_fields fields, read]

/-- Arguments are read back if their tests are. -/
theorem Arguments.reads (arguments : Arguments)
    (each : ∀ test ∈ arguments.testList, Json.Reads treeDefaults Test.ofJson? test.toJson test) :
    Json.Reads treeDefaults ofJson? arguments.toJson arguments := by
  obtain ⟨args, tests⟩ := arguments
  intro shown abridged
  rw [toJson_mk] at abridged
  obtain ⟨found, fields, all⟩ := abridged.exists_found (by simp)
  obtain _ | ⟨atArgs, _ | ⟨atTests, _ | _⟩⟩ := all
  have readTests := atTests.nullable (by simp [treeDefaults]) (fun _ _ => rfl) fun list same =>
    testList_reads fun test present => each test (same ▸ present)
  rw [ofJson?_of_fields fields, readTests,
    atArgs.optional (.list fun argument _ => argument.reads) (by simp [treeDefaults, eq_comm])]
  rfl

/-- What is found in the place of arguments gives them, and nothing there gives none. -/
theorem Json.Found.arguments {arguments : Arguments} {found : Option Json}
    (there : Found treeDefaults ("arguments", arguments.toJson) found)
    (each : ∀ test ∈ arguments.testList, Reads treeDefaults Test.ofJson? test.toJson test) :
    Json.optional {} Arguments.ofJson? found = some arguments := by
  refine there.optional (arguments.reads each) fun left => ?_
  exact (Arguments.eq_default (by simpa [treeDefaults] using left)).symm

/-- What is found in the place of a position gives it, and nothing there gives the default one. -/
theorem Json.Found.coordinate {coordinate : Coordinate} {found : Option Json}
    (there : Found treeDefaults ("coordinate", coordinate.toJson) found) :
    Json.optional {} Coordinate.ofJson? found = some coordinate := by
  refine there.optional coordinate.reads fun left => ?_
  exact (Coordinate.toJson_inj (by simpa [treeDefaults] using left)).symm

/-- **Tests can be read back**, from their full form and from each abridged one. -/
theorem Test.reads (test : Test) : Json.Reads treeDefaults ofJson? test.toJson test := by
  induction test using Test.induction with
  | node name arguments coordinate nested =>
      intro shown abridged
      rw [toJson_mk] at abridged
      obtain ⟨found, fields, all⟩ := abridged.exists_found (by simp)
      obtain _ | ⟨atName, _ | ⟨atArguments, _ | ⟨atCoordinate, _ | _⟩⟩⟩ := all
      obtain ⟨_, rfl, readName⟩ :=
        atName.exists_of_not_mem (.text name) (by simp [treeDefaults])
      rw [ofJson?_of_fields fields, readName, atArguments.arguments nested,
        atCoordinate.coordinate]
      rfl

/-- A block is read back if each of its commands is. -/
theorem block_reads {commands : List Command}
    (each : ∀ command ∈ commands,
      Json.Reads treeDefaults Command.ofJson? command.toJson command) :
    Json.Reads treeDefaults blockOfJson? (blockJson commands) commands := by
  intro shown abridged
  obtain ⟨found, fields, all⟩ := abridged.exists_found (by simp)
  obtain _ | ⟨atCommands, _ | _⟩ := all
  obtain ⟨items, rfl, read⟩ :=
    atCommands.exists_of_not_mem (Json.Reads.list each) (by simp [treeDefaults])
  rw [blockOfJson?_of_fields fields, read]

/-- **Commands can be read back**, from their full form and from each abridged one. -/
theorem Command.reads (command : Command) :
    Json.Reads treeDefaults ofJson? command.toJson command := by
  induction command using Command.induction with
  | node name arguments block coordinate nested =>
      intro shown abridged
      rw [toJson_mk] at abridged
      obtain ⟨found, fields, all⟩ := abridged.exists_found (by simp)
      obtain _ | ⟨atName, _ | ⟨atArguments, _ | ⟨atBlock, _ | ⟨atCoordinate, _ | _⟩⟩⟩⟩ := all
      obtain ⟨_, rfl, readName⟩ :=
        atName.exists_of_not_mem (.text name) (by simp [treeDefaults])
      -- only the block needs the induction: its tests are trees of their own
      have readBlock := atBlock.nullable (by simp [treeDefaults]) (fun _ _ => rfl)
        fun commands same => block_reads fun command present => nested command (same ▸ present)
      rw [ofJson?_of_fields fields, readName,
        atArguments.arguments fun test _ => test.reads, readBlock, atCoordinate.coordinate]
      rfl

/-- **Scripts can be read back**, from their full form and from each abridged one. -/
theorem Script.reads (script : Script) :
    Json.Reads treeDefaults ofJson? script.toJson script := by
  intro shown abridged
  rw [ofJson?, block_reads (fun command _ => command.reads) shown abridged]
  rfl

/-! ### Other files -/

/-- Actions are written without defaults. -/
theorem Action.ofJson?_toJson (action : Action) : ofJson? action.toJson = some action := by
  cases action <;> rfl

/-- The fields of a configuration that may be left out, with what they then hold. -/
def configDefaults : List (String × Json) :=
  [("disabled_commands", .list []), ("disabled_tests", .list []),
    ("disabled_comparators", .list []), ("default_comparator", .text "i;octet")]

/-- Every abridged form of a configuration is read back. -/
theorem Config.reads (config : Config) :
    Json.Reads configDefaults ofJson? config.toJson config := by
  obtain ⟨commands, tests, comparators, comparator⟩ := config
  intro shown abridged
  obtain ⟨found, fields, all⟩ := abridged.exists_found (by simp)
  obtain _ | ⟨atCommands, _ | ⟨atTests, _ | ⟨atComparators, _ | ⟨atComparator, _ | _⟩⟩⟩⟩ := all
  have readNames {key : String} {names : List String} {found : Option Json}
      (there : Json.Found configDefaults (key, .ofStrings names) found) :
      Json.optional [] Json.texts? found = some names := by
    refine there.optional (.texts names) fun left => ?_
    simp only [configDefaults, Json.ofStrings, List.mem_cons, Prod.mk.injEq, Json.list.injEq,
      List.map_eq_nil_iff, reduceCtorEq, and_false, List.not_mem_nil, or_self, or_false] at left
    obtain ⟨-, rfl⟩ | ⟨-, rfl⟩ | ⟨-, rfl⟩ := left <;> rfl
  have readComparator : Json.optional Collation.octet.word Json.text? _ = some comparator :=
    atComparator.optional (.text comparator) (by simp [configDefaults, Collation.word, eq_comm])
  change shown.layer.fields? ["disabled_commands", "disabled_tests", "disabled_comparators",
    "default_comparator"] = _ at fields
  simp [ofJson?, fields, readNames atCommands, readNames atTests, readNames atComparators,
    readComparator]

/-- The fields of a message that may be left out, with what they then hold. -/
def messageDefaults : List (String × Json) := [("headers", .list []), ("size", .null)]

/-- Every abridged form of a header field is read back: a pair has nothing to leave out. -/
theorem Header.reads (header : Header) :
    Json.Reads messageDefaults ofJson? header.toJson header := by
  intro shown abridged
  obtain ⟨_, rfl, items⟩ := abridged.exists_items
  obtain _ | ⟨name, _ | ⟨value, _ | _⟩⟩ := items
  rw [name.eq_text, value.eq_text]
  rfl

/-- **Messages can be read back**, but for their actions. -/
theorem Message.reads (message : Message) :
    Json.Reads messageDefaults ofJson? message.toJson
      { headers := message.headers, statedSize := message.statedSize } := by
  intro shown abridged
  obtain ⟨found, fields, all⟩ := abridged.exists_found (by simp)
  obtain _ | ⟨atHeaders, _ | ⟨atSize, _ | _⟩⟩ := all
  have readHeaders : Json.optional [] headersOfJson? _ = some message.headers :=
    atHeaders.optional (.list fun header _ => header.reads) (by simp [messageDefaults, eq_comm])
  have readSize := atSize.nullable (by simp [messageDefaults]) (fun _ _ => rfl)
    fun size _ => .number size
  change shown.layer.fields? ["headers", "size"] = _ at fields
  simp [ofJson?, fields, readHeaders, readSize]

/-! ### All formats -/

/-- **What is written can be read back.**

A script is found again in the value it is written as, and in each value that lacks some of its
default fields at any of its nodes; no such value stands for arguments without a list of tests and
for arguments with an empty list.  Likewise with actions, which have no default fields, with
configurations, and with messages, whose actions are not written. -/
theorem formats_roundTrip :
    (∀ script : Script, Script.ofJson? script.toJson = some script ∧
      ∀ shown, Json.Abridges treeDefaults script.toJson shown →
        Script.ofJson? shown = some script) ∧
    (∀ (args others : List Argument) (shown : Json),
      Json.Abridges treeDefaults (Arguments.toJson { args, tests := none }) shown →
        ¬ Json.Abridges treeDefaults (Arguments.toJson { args := others, tests := some [] })
          shown) ∧
    (∀ action : Action, Action.ofJson? action.toJson = some action) ∧
    (∀ config : Config, Config.ofJson? config.toJson = some config ∧
      ∀ shown, Json.Abridges configDefaults config.toJson shown →
        Config.ofJson? shown = some config) ∧
    ∀ message : Message,
      let unhandled : Message := { message with pending := [], executed := [] }
      Message.ofJson? message.toJson = some unhandled ∧
        ∀ shown, Json.Abridges messageDefaults message.toJson shown →
          Message.ofJson? shown = some unhandled := by
  refine ⟨fun script => ⟨script.reads _ (.refl _), script.reads⟩, ?_, Action.ofJson?_toJson,
    fun config => ⟨config.reads _ (.refl _), config.reads⟩,
    fun message => ⟨message.reads _ (.refl _), message.reads⟩⟩
  -- a value that stands for both would be read as both
  intro args others shown without empty
  have readWithout := Arguments.reads ⟨args, none⟩ (fun test _ => test.reads) shown without
  have readEmpty := Arguments.reads ⟨others, some []⟩ (fun test _ => test.reads) shown empty
  cases readWithout.symm.trans readEmpty

/-- A script as it is written by hand, a configuration and a message of which nothing is said. -/
theorem formats_roundTrip_handWritten :
    let always : Test := { name := "allof", arguments := { tests := some [] } }
    let branch : Command :=
      { name := "if", arguments := { tests := some [always] }, block := some [{ name := "keep" }] }
    let condition : Json :=
      .record [("name", .text "allof"),
        ("arguments", .record [("tests", .record [("tests", .list [])])])]
    let action : Json := .record [("name", .text "keep")]
    let choice : Json :=
      .record [("name", .text "if"),
        ("arguments", .record [("tests", .record [("tests", .list [condition])])]),
        ("block", .record [("commands", .list [action])])]
    Script.ofJson? (.record [("commands", .list [choice])]) = some { commands := [branch] } ∧
      Config.ofJson? (.record []) = some {} ∧ Message.ofJson? (.record []) = some {} := by
  intro always branch condition action choice
  have noArguments : ("arguments", Arguments.toJson {}) ∈ treeDefaults := by simp [treeDefaults]
  have noArgs : ("args", Json.list []) ∈ treeDefaults := by simp [treeDefaults]
  have noBlock : ("block", Json.null) ∈ treeDefaults := by simp [treeDefaults]
  have noCoordinate : ("coordinate", Coordinate.toJson {}) ∈ treeDefaults := by simp [treeDefaults]
  have shortAction : Json.Abridges treeDefaults (Command.toJson { name := "keep" }) action :=
    .record (.keep (.refl _) (.leave noArguments (.leave noBlock (.leave noCoordinate .nil))))
  have shortCondition : Json.Abridges treeDefaults always.toJson condition :=
    .record (.keep (.refl _) (.keep (.record (.leave noArgs (.keep (.refl _) .nil)))
      (.leave noCoordinate .nil)))
  have shortChoice : Json.Abridges treeDefaults branch.toJson choice :=
    .record (.keep (.refl _)
      (.keep (.record (.leave noArgs
        (.keep (.record (.keep (.list (.cons shortCondition .nil)) .nil)) .nil)))
      (.keep (.record (.keep (.list (.cons shortAction .nil)) .nil)) (.leave noCoordinate .nil))))
  obtain ⟨scripts, -, -, configs, messages⟩ := formats_roundTrip
  refine ⟨(scripts ⟨[branch]⟩).2 _ ?_, (configs {}).2 _ ?_, (messages {}).2 _ ?_⟩
  · exact .record (.keep (.list (.cons shortChoice .nil)) .nil)
  · refine .record (.leave ?_ (.leave ?_ (.leave ?_ (.leave ?_ .nil)))) <;>
      simp [configDefaults, Json.ofStrings, Collation.word]
  · refine .record (.leave ?_ (.leave ?_ .nil)) <;> simp [messageDefaults, Json.ofOption]

end MailSieve
