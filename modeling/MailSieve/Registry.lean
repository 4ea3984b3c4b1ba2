import MailSieve.Builtin
import MailSieve.Error

/-!
# Registries

A registry says what stands behind a name: the command, test or comparator registered under it, or
why that cannot be made.  Names are compared without regard to letter case, and of several
registrations under one name the last one counts.

* `Registry` holds each name once, in small letters; `Registry.find?_foldl_register` says which of
  several registrations counts.
* `Registrations` is the list of what is to be registered, before names are folded; a host adds to
  it or removes names from it, and `build` turns it into `Registries`.
* `Registries.builtin` has all that is built in, each under its word, and `Registries.ofConfig` all
  except for what a `Config` disables.

What stands behind the name of a command or a test is a `BuiltinCommand` or a `BuiltinTest`: a host
may register them under any names, leave them out, put one in place of another, or register one that
cannot be made.  Commands and tests that a host programs itself are left out of this library, for
nothing is known of what they do to a run; only the laws of tests that hold of every `Evaluates` take
in whatever a host has behind other names.  Comparators are not restricted: a `Comparator` holds
functions, and a host may register its own.
-/

namespace MailSieve

/-- What can be made under a name, or why it cannot be made. -/
abbrev Constructor (ι : Type) := Except String ι

/-- What stands behind each name of one kind. -/
structure Registry (kind : EntryKind) (ι : Type) where
  /-- Names in small letters, with what they stand for. -/
  entries : List (String × Constructor ι) := []
  nodup_names : (entries.map Prod.fst).Nodup := by simp

namespace Registry

variable {kind : EntryKind} {ι : Type}

instance : Inhabited (Registry kind ι) := ⟨{}⟩

/-- The names with something behind them, in small letters, each once. -/
def names (registry : Registry kind ι) : List String := registry.entries.map Prod.fst

/-- How many names have something behind them. -/
def size (registry : Registry kind ι) : Nat := registry.entries.length

/-- Put something under a name, in place of what was there. -/
def register (registry : Registry kind ι) (name : String) (constructor : Constructor ι) :
    Registry kind ι where
  entries := (Text.foldCase name, constructor) ::
    registry.entries.filter (·.1 != Text.foldCase name)
  nodup_names := by
    refine List.nodup_cons.mpr ⟨?_, ?_⟩
    · simp
    · exact registry.nodup_names.sublist (List.filter_sublist.map Prod.fst)

/-- The registry after a row of registrations. -/
def ofList (registrations : List (String × Constructor ι)) : Registry kind ι :=
  registrations.foldl (fun registry (name, constructor) => registry.register name constructor) {}

/-- What stands behind a name in any case of its letters. -/
def find? (registry : Registry kind ι) (name : String) : Option (Constructor ι) :=
  registry.entries.lookup (Text.foldCase name)

/-- Whether there is something behind a name, be it possible to make or not. -/
def supports (registry : Registry kind ι) (name : String) : Bool := (registry.find? name).isSome

/-- What stands behind a name; the name is at fault if there is nothing. -/
def lookup (registry : Registry kind ι) (name : String) : Except Cause (Constructor ι) :=
  match registry.find? name with
  | some constructor => .ok constructor
  | none => .error (.notMapped kind name)

/-- What stands behind a name that is asked for at a position. -/
def lookupAt (registry : Registry kind ι) (name : String) (coordinate : Coordinate) :
    Except RunError (Constructor ι) :=
  (registry.lookup name).mapError fun cause => ⟨cause, coordinate⟩

/-- A registration is found under its name in any case, and hides nothing under other names. -/
theorem find?_register (registry : Registry kind ι) (name other : String)
    (constructor : Constructor ι) :
    (registry.register name constructor).find? other =
      if Text.foldCase other = Text.foldCase name then some constructor
      else registry.find? other := by
  by_cases same : Text.foldCase other = Text.foldCase name
  · simp [find?, register, same]
  · have missed : (Text.foldCase other == Text.foldCase name) = false := by simp [same]
    have hidden : ∀ entries : List (String × Constructor ι),
        (entries.filter (·.1 != Text.foldCase name)).lookup (Text.foldCase other) =
          entries.lookup (Text.foldCase other) := by
      intro entries
      induction entries with
      | nil => rfl
      | cons entry rest ih =>
        obtain ⟨key, value⟩ := entry
        by_cases dropped : key = Text.foldCase name
        · simp only [dropped, bne_self_eq_false, List.filter_cons, List.lookup_cons, missed, ih,
            Bool.false_eq_true, if_false]
        · simp [List.lookup_cons, dropped, ih]
    simp only [find?, register, List.lookup_cons, missed, hidden, if_neg same]

/-- **The last registration under a name counts**, letter case aside, and before all of them what
was there. -/
theorem find?_foldl_register (registrations : List (String × Constructor ι))
    (registry : Registry kind ι) (name : String) :
    (registrations.foldl (fun registry (name, constructor) => registry.register name constructor)
        registry).find? name =
      ((registrations.reverse.find? (Text.foldCase name = Text.foldCase ·.1)).map Prod.snd).or
        (registry.find? name) := by
  induction registrations generalizing registry with
  | nil => rfl
  | cons registration rest ih =>
      rw [List.foldl_cons, ih, find?_register, List.reverse_cons, List.find?_append]
      cases rest.reverse.find? (Text.foldCase name = Text.foldCase ·.1) with
      | some later => rfl
      | none =>
          by_cases same : Text.foldCase name = Text.foldCase registration.1
          · simp [same]
          · simp [same]

/-- Make what stands behind a name. -/
def create (registry : Registry kind ι) (name : String) : Except Cause ι :=
  match registry.find? name with
  | some (.ok implementation) => .ok implementation
  | some (.error reason) => .error (.notCreated kind name reason)
  | none => .error (.notMapped kind name)

/-- What is registered last under a word is made under that word. -/
theorem create_ofList_map {κ : Type} {items : List κ} {word : κ → String} (make : κ → ι) {item : κ}
    (last : items.reverse.find?
      (fun other => Text.foldCase (word item) = Text.foldCase (word other)) = some item) :
    (ofList (items.map fun item => (word item, .ok (make item))) : Registry kind ι).create
      (word item) = .ok (make item) := by
  have found : (ofList (items.map fun item => (word item, .ok (make item))) : Registry kind ι).find?
      (word item) = some (.ok (make item)) := by
    rw [ofList, find?_foldl_register, ← List.map_reverse, List.find?_map]
    simp only [Function.comp_def, last]
    rfl
  rw [create, found]

end Registry

/-- The registries a run consults.  Behind the names of commands and tests stand those built in and
no others; a comparator may be any. -/
structure Registries where
  commands : Registry .command BuiltinCommand := {}
  tests : Registry .test BuiltinTest := {}
  comparators : Registry .comparator Comparator := {}
  /-- The comparator of a test that names none. -/
  defaultComparator : String := Collation.octet.word

namespace Registries

instance : Inhabited Registries := ⟨{}⟩

/-- The word before the name of a comparator in the name of a feature. -/
def comparatorFeature : String := "comparator-"

/-- The comparator that a feature names, if it names one. -/
def comparatorOfFeature? (feature : String) : Option String :=
  let length := comparatorFeature.toList.length
  if (feature.toList.take length).map Char.toLower = comparatorFeature.toList then
    some (String.ofList (feature.toList.drop length))
  else none

/-- Whether a feature is available: it is the name of a command, of a test, or of a comparator
behind the word `comparator-`. -/
def supportsFeature (registries : Registries) (feature : String) : Bool :=
  registries.commands.supports feature || registries.tests.supports feature ||
    (comparatorOfFeature? feature).any registries.comparators.supports

end Registries

/-- What is to be registered, in order.  As in `Registries`, a command or test is one of those built
in, under whatever name, and a comparator may be any. -/
structure Registrations where
  commands : List (String × Constructor BuiltinCommand) := []
  tests : List (String × Constructor BuiltinTest) := []
  comparators : List (String × Constructor Comparator) := []
  defaultComparator : String := Collation.octet.word

/-- What an administrator chooses: names that are not to be available, and the comparator of tests
that name none. -/
structure Config where
  disabledCommands : List String := []
  disabledTests : List String := []
  disabledComparators : List String := []
  defaultComparator : String := Collation.octet.word
  deriving DecidableEq, Inhabited

namespace Registrations

/-- All that is built in, under its own words. -/
def builtin : Registrations where
  commands := BuiltinCommand.all.map fun command => (command.word, .ok command)
  tests := BuiltinTest.all.map fun test => (test.word, .ok test)
  comparators := Collation.all.map fun collation => (collation.word, .ok collation.comparator)

/-- Register a built-in command under a further name, or under one that is taken, or say why there
can be none.  A command that a host programs itself cannot be given here. -/
def addCommand (registrations : Registrations) (name : String)
    (constructor : Constructor BuiltinCommand) : Registrations :=
  { registrations with commands := registrations.commands ++ [(name, constructor)] }

/-- Register a built-in test under a further name, or under one that is taken, or say why there can
be none.  A test that a host programs itself cannot be given here. -/
def addTest (registrations : Registrations) (name : String)
    (constructor : Constructor BuiltinTest) : Registrations :=
  { registrations with tests := registrations.tests ++ [(name, constructor)] }

/-- Register a comparator, be it built in or a host's own, or say why there can be none. -/
def addComparator (registrations : Registrations) (name : String)
    (constructor : Constructor Comparator) : Registrations :=
  { registrations with comparators := registrations.comparators ++ [(name, constructor)] }

/-- The registrations under names other than the given ones, letter case aside. -/
def removeNames {ι : Type} (names : List String) (registrations : List (String × Constructor ι)) :
    List (String × Constructor ι) :=
  registrations.filter fun (name, _) => !names.any (Text.sameIgnoringCase · name)

/-- What is left when the disabled names are removed. -/
def configure (registrations : Registrations) (config : Config) : Registrations where
  commands := removeNames config.disabledCommands registrations.commands
  tests := removeNames config.disabledTests registrations.tests
  comparators := removeNames config.disabledComparators registrations.comparators
  defaultComparator := config.defaultComparator

/-- The registries in which, of several registrations under one name, the last one counts. -/
def build (registrations : Registrations) : Registries where
  commands := .ofList registrations.commands
  tests := .ofList registrations.tests
  comparators := .ofList registrations.comparators
  defaultComparator := registrations.defaultComparator

end Registrations

namespace Registries

/-- All that is built in. -/
def builtin : Registries := Registrations.builtin.build

/-- Every built-in command is found under its word. -/
theorem create_builtin_command (command : BuiltinCommand) :
    builtin.commands.create command.word = .ok command := by
  have last : ∀ command ∈ BuiltinCommand.all, BuiltinCommand.all.reverse.find? (fun other =>
      Text.foldCase command.word = Text.foldCase other.word) = some command := by
    decide +kernel
  exact Registry.create_ofList_map _ (last command (BuiltinCommand.mem_all command))

/-- Every built-in test is found under its word. -/
theorem create_builtin_test (test : BuiltinTest) : builtin.tests.create test.word = .ok test := by
  have last : ∀ test ∈ BuiltinTest.all, BuiltinTest.all.reverse.find? (fun other =>
      Text.foldCase test.word = Text.foldCase other.word) = some test := by
    decide +kernel
  exact Registry.create_ofList_map _ (last test (BuiltinTest.mem_all test))

/-- Every built-in comparator is found under its word. -/
theorem create_builtin_comparator (collation : Collation) :
    builtin.comparators.create collation.word = .ok collation.comparator := by
  have last : ∀ collation ∈ Collation.all, Collation.all.reverse.find? (fun other =>
      Text.foldCase collation.word = Text.foldCase other.word) = some collation := by
    decide +kernel
  exact Registry.create_ofList_map _ (last collation (Collation.mem_all collation))

/-- All that is built in except for what the config disables. -/
def ofConfig (config : Config) : Registries := (Registrations.builtin.configure config).build

end Registries

end MailSieve
