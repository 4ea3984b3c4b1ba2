import MailSieve.Proofs.Restriction

/-!
# What is registered

A host collects names and what is to stand behind them, in any number and any order, and registries
are made of that once.  A registry folds the names, and so it is only then that two registrations
can turn out to be of the same name; a config that disables names compares them unfolded, without
regard to letter case.  All of this comes to the same as one rule: the last registration under a
name counts, letter case aside.

* `Registration` is a registration of any kind, and `Registrations.addAll` adds a row of them.
* `Registry.Holds`: what a registry says of every name, and which names it lists.
  `Registry.holds_ofList` is the rule for a row of registrations of one kind.
* `Registry.Offers`: a registry has all that is built in, except for disabled names.
* `registration_exact` puts these together for all registries that can be made.
-/

namespace MailSieve

/-! ### A row of registrations of one kind -/

namespace Registry

variable {kind : EntryKind} {ι : Type}

/-- Of a row of registrations, what is asked for and is there is the last one under the name in any
case of its letters; otherwise the name is at fault.  The registry lists the names that have been
registered, in small letters and each once. -/
structure Holds (registry : Registry kind ι) (registrations : List (String × Constructor ι)) :
    Prop where
  lookupAt_last : ∀ (earlier later : List (String × Constructor ι)) (own : String)
    (constructor : Constructor ι), registrations = earlier ++ (own, constructor) :: later →
      ∀ name, Text.sameIgnoringCase own name = true →
        (∀ entry ∈ later, Text.sameIgnoringCase entry.1 name = false) →
          ∀ coordinate, registry.lookupAt name coordinate = .ok constructor
  lookupAt_missing : ∀ name, (∀ entry ∈ registrations, Text.sameIgnoringCase entry.1 name = false) →
    ∀ coordinate,
      registry.lookupAt name coordinate = .error ⟨.notMapped kind name, coordinate⟩
  supports_iff : ∀ name, registry.supports name = true ↔
    ∃ entry ∈ registrations, Text.sameIgnoringCase entry.1 name = true
  nodup : registry.names.Nodup
  mem_names_iff : ∀ name, name ∈ registry.names ↔
    ∃ entry ∈ registrations, Text.foldCase entry.1 = name
  size_eq : registry.size = registry.names.length

/-- What stands behind a name is given, wherever it is asked for. -/
theorem lookupAt_of_some {registry : Registry kind ι} {name : String}
    {constructor : Constructor ι} (found : registry.find? name = some constructor)
    (coordinate : Coordinate) : registry.lookupAt name coordinate = .ok constructor := by
  rw [lookupAt, lookup, found]
  rfl

/-- A name with nothing behind it is at fault, at the position where it is asked for. -/
theorem lookupAt_of_none {registry : Registry kind ι} {name : String}
    (missing : registry.find? name = none) (coordinate : Coordinate) :
    registry.lookupAt name coordinate = .error ⟨.notMapped kind name, coordinate⟩ := by
  rw [lookupAt, lookup, missing]
  rfl

/-- A registration adds its own name in small letters, and no other. -/
theorem mem_names_register (registry : Registry kind ι) (name other : String)
    (constructor : Constructor ι) :
    other ∈ (registry.register name constructor).names ↔
      other = Text.foldCase name ∨ other ∈ registry.names := by
  by_cases same : other = Text.foldCase name
  · simp [names, register, same]
  · simp [names, register, same]

/-- Registrations add their names, in small letters, to those that there were. -/
theorem mem_names_foldl_register (registrations : List (String × Constructor ι))
    (registry : Registry kind ι) (name : String) :
    name ∈ (registrations.foldl (fun registry (name, constructor) =>
        registry.register name constructor) registry).names ↔
      (∃ entry ∈ registrations, Text.foldCase entry.1 = name) ∨ name ∈ registry.names := by
  induction registrations generalizing registry with
  | nil => simp
  | cons entry rest ih =>
      rw [List.foldl_cons, ih, mem_names_register, List.exists_mem_cons_iff, eq_comm, or_left_comm,
        or_assoc]

/-- The names that have been registered are listed in small letters. -/
theorem mem_names_ofList (registrations : List (String × Constructor ι)) (name : String) :
    name ∈ (ofList registrations : Registry kind ι).names ↔
      ∃ entry ∈ registrations, Text.foldCase entry.1 = name := by
  rw [ofList, mem_names_foldl_register]
  simp [names]

/-- A name that no registration has is not found among them. -/
theorem find?_reverse_eq_none {registrations : List (String × Constructor ι)} {name : String}
    (others : ∀ entry ∈ registrations, Text.sameIgnoringCase entry.1 name = false) :
    registrations.reverse.find? (Text.foldCase name = Text.foldCase ·.1) = none := by
  rw [List.find?_eq_none]
  intro entry present
  have differs := others entry (List.mem_reverse.mp present)
  rw [Text.sameIgnoringCase, beq_eq_false_iff_ne] at differs
  simpa using differs.symm

/-- **The last registration counts**, and letter case does not. -/
theorem holds_ofList (registrations : List (String × Constructor ι)) :
    (ofList registrations : Registry kind ι).Holds registrations where
  lookupAt_last := by
    rintro earlier later own constructor rfl name same others coordinate
    refine lookupAt_of_some ?_ coordinate
    have named : Text.foldCase name = Text.foldCase own :=
      ((Text.sameIgnoringCase_iff own name).mp same).symm
    rw [find?_ofList, List.reverse_append, List.reverse_cons, List.append_assoc, List.find?_append,
      find?_reverse_eq_none others]
    simp [named]
  lookupAt_missing := by
    intro name others coordinate
    refine lookupAt_of_none ?_ coordinate
    rw [find?_ofList, find?_reverse_eq_none others]
    rfl
  supports_iff := by
    intro name
    rw [supports, find?_ofList, Option.isSome_map, List.find?_isSome]
    simp only [List.mem_reverse, decide_eq_true_eq, Text.sameIgnoringCase_iff]
    exact exists_congr fun entry => and_congr_right fun _ => eq_comm
  nodup := Registry.nodup_names _
  mem_names_iff := mem_names_ofList registrations
  size_eq := by rw [size, names, List.length_map]

end Registry

/-! ### Registrations of all kinds -/

/-- A registration of some kind: of a built-in command or test, or of any comparator. -/
inductive Registration where
  | command (name : String) (constructor : Constructor BuiltinCommand)
  | test (name : String) (constructor : Constructor BuiltinTest)
  | comparator (name : String) (constructor : Constructor Comparator)

namespace Registration

/-- The name and constructor of a command, if that is what is registered. -/
def command? : Registration → Option (String × Constructor BuiltinCommand)
  | command name constructor => some (name, constructor)
  | _ => none

/-- The name and constructor of a test, if that is what is registered. -/
def test? : Registration → Option (String × Constructor BuiltinTest)
  | test name constructor => some (name, constructor)
  | _ => none

/-- The name and constructor of a comparator, if that is what is registered. -/
def comparator? : Registration → Option (String × Constructor Comparator)
  | comparator name constructor => some (name, constructor)
  | _ => none

end Registration

namespace Registrations

/-- What is to be registered after one more registration. -/
def add (registrations : Registrations) : Registration → Registrations
  | .command name constructor => registrations.addCommand name constructor
  | .test name constructor => registrations.addTest name constructor
  | .comparator name constructor => registrations.addComparator name constructor

/-- What is to be registered after a row of registrations. -/
def addAll (registrations : Registrations) (added : List Registration) : Registrations :=
  added.foldl add registrations

/-- The kinds do not mix, and within each the order is kept. -/
theorem addAll_eq (registrations : Registrations) (added : List Registration) :
    registrations.addAll added =
      { registrations with
        commands := registrations.commands ++ added.filterMap Registration.command?
        tests := registrations.tests ++ added.filterMap Registration.test?
        comparators := registrations.comparators ++ added.filterMap Registration.comparator? } := by
  unfold addAll
  induction added generalizing registrations with
  | nil => simp
  | cons registration rest ih =>
      rw [List.foldl_cons, ih]
      cases registration <;>
        simp [add, addCommand, addTest, addComparator, List.filterMap_cons, Registration.command?,
          Registration.test?, Registration.comparator?]

end Registrations

/-! ### Names that are disabled -/

namespace Registry

variable {kind : EntryKind} {ι κ : Type}

/-- The registry has all the items under their words, in any case of the letters, except under the
names that are disabled. -/
structure Offers (registry : Registry kind ι) (word : κ → String) (make : κ → ι)
    (disabled : List String) : Prop where
  supports_iff : ∀ name, registry.supports name = true ↔
    (∃ item, Text.sameIgnoringCase (word item) name = true) ∧
      ∀ entry ∈ disabled, Text.sameIgnoringCase entry name = false
  create_eq : ∀ item name, Text.sameIgnoringCase (word item) name = true →
    registry.supports name = true → registry.create name = .ok (make item)

/-- What is made under a name is what stands behind it. -/
theorem create_eq_ok_iff {registry : Registry kind ι} {name : String} {implementation : ι} :
    registry.create name = .ok implementation ↔ registry.find? name = some (.ok implementation) := by
  rw [create]
  cases registry.find? name with
  | none => simp
  | some constructor => cases constructor <;> simp

/-- A registry that has all items under their words, and of which names have been removed. -/
theorem offers_of_find? {registry whole : Registry kind ι} {word : κ → String} {make : κ → ι}
    {disabled : List String}
    (hides : ∀ name, registry.find? name =
      if disabled.any (Text.sameIgnoringCase · name) then none else whole.find? name)
    (named : ∀ name, whole.supports name = true ↔
      ∃ item, Text.sameIgnoringCase (word item) name = true)
    (created : ∀ item, whole.create (word item) = .ok (make item)) :
    registry.Offers word make disabled where
  supports_iff := by
    intro name
    rw [supports, hides, ← named]
    cases off : disabled.any (Text.sameIgnoringCase · name) with
    | true =>
        obtain ⟨entry, listed, same⟩ := List.any_eq_true.mp off
        refine iff_of_false (by simp) ?_
        rintro ⟨-, enabled⟩
        rw [enabled entry listed] at same
        cases same
    | false =>
        have enabled : ∀ entry ∈ disabled, Text.sameIgnoringCase entry name = false := by
          simpa using off
        simp only [Bool.false_eq_true, if_false, supports]
        exact (and_iff_left enabled).symm
  create_eq := by
    intro item name same enabled
    -- the name is not hidden, and the whole registry folds its letters
    have here : registry.find? name = whole.find? (word item) := by
      rw [supports, hides] at enabled
      rw [hides]
      split
      · rename_i off
        simp [off] at enabled
      · rw [find?, find?, (Text.sameIgnoringCase_iff (word item) name).mp same]
    rw [create_eq_ok_iff, here]
    exact create_eq_ok_iff.mp (created item)

/-- What is registered under words is supported under the words alone, in any case. -/
theorem supports_ofList_map {word : κ → String} {make : κ → ι} {items : List κ}
    (complete : ∀ item, item ∈ items) (name : String) :
    (ofList (items.map fun item => (word item, .ok (make item))) : Registry kind ι).supports name =
        true ↔ ∃ item, Text.sameIgnoringCase (word item) name = true := by
  rw [(holds_ofList _).supports_iff]
  simp [complete]

end Registry

/-- **A config removes what it names**, of each kind by itself. -/
theorem Registries.offers_ofConfig (config : Config) :
    (ofConfig config).commands.Offers BuiltinCommand.word id config.disabledCommands ∧
    (ofConfig config).tests.Offers BuiltinTest.word id config.disabledTests ∧
    (ofConfig config).comparators.Offers Collation.word Collation.comparator
      config.disabledComparators :=
  ⟨Registry.offers_of_find? (Registry.find?_removeNames config.disabledCommands _)
      (Registry.supports_ofList_map BuiltinCommand.mem_all) create_builtin_command,
    Registry.offers_of_find? (Registry.find?_removeNames config.disabledTests _)
      (Registry.supports_ofList_map BuiltinTest.mem_all) create_builtin_test,
    Registry.offers_of_find? (Registry.find?_removeNames config.disabledComparators _)
      (Registry.supports_ofList_map Collation.mem_all) create_builtin_comparator⟩

/-- **Registration is last-wins and blind to letter case, and a config removes just what it names.**

Whatever is registered, of any kinds and under any names, behind what the host has to begin with:
each registry finds the last registration of its kind under a name, letter case aside, or says at
the position asked from that there is none; it supports the names that have been registered, and
lists them in small letters and each once.

The registries of a config have the built-in implementations under their words, letter case aside,
except for the names that the config disables for that kind; what it disables for the other kinds
does not matter. -/
theorem registration_exact :
    (∀ (base : Registrations) (added : List Registration),
      let registries := (base.addAll added).build
      registries.commands.Holds (base.commands ++ added.filterMap Registration.command?) ∧
      registries.tests.Holds (base.tests ++ added.filterMap Registration.test?) ∧
      registries.comparators.Holds (base.comparators ++ added.filterMap Registration.comparator?)) ∧
    ∀ config : Config,
      let registries := Registries.ofConfig config
      registries.commands.Offers BuiltinCommand.word id config.disabledCommands ∧
      registries.tests.Offers BuiltinTest.word id config.disabledTests ∧
      registries.comparators.Offers Collation.word Collation.comparator
        config.disabledComparators ∧
      ∀ other : Config,
        (other.disabledCommands = config.disabledCommands →
          (Registries.ofConfig other).commands = registries.commands) ∧
        (other.disabledTests = config.disabledTests →
          (Registries.ofConfig other).tests = registries.tests) ∧
        (other.disabledComparators = config.disabledComparators →
          (Registries.ofConfig other).comparators = registries.comparators) := by
  constructor
  · intro base added
    rw [Registrations.addAll_eq]
    exact ⟨Registry.holds_ofList _, Registry.holds_ofList _, Registry.holds_ofList _⟩
  · intro config
    obtain ⟨commands, tests, comparators⟩ := Registries.offers_ofConfig config
    refine ⟨commands, tests, comparators, fun other => ⟨?_, ?_, ?_⟩⟩ <;>
    · intro same
      simp only [Registries.ofConfig, Registrations.configure, Registrations.build, same]

/-- A host that puts `stop` under the name of `keep`, and an administrator who disables `reject`. -/
theorem registration_exact_replacedKeep :
    let added : List Registration := [
      .command "Keep" (.error "out of order"),
      .command "KEEP" (.ok .stop),
      .test "keep" (.ok (.constant true))]
    let registries := (Registrations.builtin.addAll added).build
    let config : Config := { disabledCommands := ["Reject"] }
    registries.commands.lookupAt "keep" ⟨2, 7⟩ = .ok (.ok .stop) ∧
      registries.commands.lookupAt "vacation" ⟨2, 7⟩ =
        .error ⟨.notMapped .command "vacation", ⟨2, 7⟩⟩ ∧
      (Registries.ofConfig config).commands.supports "REJECT" = false ∧
      (Registries.ofConfig config).commands.create "Keep" = .ok (.action .keep) ∧
      (Registries.ofConfig config).tests = (Registries.ofConfig {}).tests := by
  intro added registries config
  obtain ⟨registered, configured⟩ := registration_exact
  let extra : List (String × Constructor BuiltinCommand) :=
    [("Keep", .error "out of order"), ("KEEP", .ok .stop)]
  have commands : registries.commands.Holds (Registrations.builtin.commands ++ extra) :=
    (registered .builtin added).1
  obtain ⟨offers, -, -, others⟩ := configured config
  have unlisted : ∀ entry ∈ Registrations.builtin.commands ++ extra,
      Text.sameIgnoringCase entry.1 "vacation" = false := by
    simp [Registrations.builtin, extra, BuiltinCommand.all, BuiltinCommand.word, BranchCommand.word,
      ActionCommand.word, ← Bool.not_eq_true, Text.sameIgnoringCase_iff_map]
  have enabled : ∀ entry ∈ config.disabledCommands, Text.sameIgnoringCase entry "Keep" = false := by
    simp [config, ← Bool.not_eq_true, Text.sameIgnoringCase_iff_map]
  have isKeep : Text.sameIgnoringCase (BuiltinCommand.action .keep).word "Keep" = true := by
    simp [BuiltinCommand.word, ActionCommand.word, Text.sameIgnoringCase_iff_map]
  refine ⟨?_, ?_, ?_, ?_, ?_⟩
  · have last : Registrations.builtin.commands ++ extra =
        (Registrations.builtin.commands ++ [("Keep", .error "out of order")]) ++
          ("KEEP", .ok .stop) :: [] := by
      rw [List.append_assoc, List.singleton_append]
    have same : Text.sameIgnoringCase "KEEP" "keep" = true := by
      simp [Text.sameIgnoringCase_iff_map]
    exact commands.lookupAt_last _ [] "KEEP" (.ok .stop) last "keep" same nofun ⟨2, 7⟩
  · exact commands.lookupAt_missing "vacation" unlisted ⟨2, 7⟩
  · rw [← Bool.not_eq_true, offers.supports_iff]
    rintro ⟨-, others⟩
    have same : Text.sameIgnoringCase "Reject" "REJECT" = true := by
      simp [Text.sameIgnoringCase_iff_map]
    rw [others "Reject" List.mem_cons_self] at same
    cases same
  · exact offers.create_eq (.action .keep) "Keep" isKeep
      ((offers.supports_iff "Keep").mpr ⟨⟨.action .keep, isKeep⟩, enabled⟩)
  · exact ((others {}).2.1 rfl).symm

end MailSieve
