import MailSieve.Tree

/-!
# Trees written elsewhere

The positions of a tree say where its nodes were written.  `relocate` changes them by any function
and leaves the rest of the tree as it is.

* `Test.relocate`, `Command.relocate` and `Script.relocate` are folds, each with its equation for a
  node.
* `Test.relocate_id` and `Command.relocate_id`: where no position changes, the tree is the same.
-/

namespace MailSieve

namespace ArgumentsOf

variable {α β γ : Type}

/-- Tests replaced twice are replaced once by the composition. -/
theorem map_map (g : β → γ) (f : α → β) (arguments : ArgumentsOf α) :
    (arguments.map f).map g = arguments.map (g ∘ f) := by
  simp [map, Function.comp_def]

/-- To replace each test by itself changes nothing. -/
theorem map_eq_self {f : α → α} {arguments : ArgumentsOf α}
    (same : ∀ test ∈ arguments.testList, f test = test) : arguments.map f = arguments := by
  obtain ⟨args, tests⟩ := arguments
  cases tests with
  | none => rfl
  | some tests =>
      have unchanged : tests.map f = tests :=
        (List.map_congr_left same).trans tests.map_id
      simp only [map, Option.map_some, unchanged]

end ArgumentsOf

/-- The test with each position in it changed. -/
def Test.relocate (move : Coordinate → Coordinate) : Test → Test :=
  Test.fold fun name arguments coordinate => ⟨name, arguments, move coordinate⟩

/-- The test elsewhere, with the tests nested in it. -/
theorem Test.relocate_mk (move : Coordinate → Coordinate) (name : String) (arguments : Arguments)
    (coordinate : Coordinate) :
    relocate move ⟨name, arguments, coordinate⟩ =
      ⟨name, arguments.map (relocate move), move coordinate⟩ :=
  Test.fold_mk _ name arguments coordinate

/-- A test that stays at its positions stays as it is. -/
theorem Test.relocate_id (test : Test) : test.relocate id = test := by
  induction test using Test.induction with
  | node name arguments coordinate nested =>
      rw [relocate_mk, ArgumentsOf.map_eq_self nested, id]

/-- The command with each position in it changed, those of its tests and of its block included. -/
def Command.relocate (move : Coordinate → Coordinate) : Command → Command :=
  Command.fold fun name arguments block coordinate =>
    ⟨name, arguments.map (Test.relocate move), block, move coordinate⟩

/-- The command elsewhere, with its tests and its block. -/
theorem Command.relocate_mk (move : Coordinate → Coordinate) (name : String)
    (arguments : Arguments) (block : Option (List Command)) (coordinate : Coordinate) :
    relocate move ⟨name, arguments, block, coordinate⟩ =
      ⟨name, arguments.map (Test.relocate move), block.map (List.map (relocate move)),
        move coordinate⟩ :=
  Command.fold_mk _ name arguments block coordinate

/-- A command that stays at its positions stays as it is. -/
theorem Command.relocate_id (command : Command) : command.relocate id = command := by
  induction command using Command.induction with
  | node name arguments block coordinate nested =>
      have tests : arguments.map (Test.relocate id) = arguments :=
        ArgumentsOf.map_eq_self fun test _ => test.relocate_id
      rw [relocate_mk, tests, id]
      cases block with
      | none => rfl
      | some commands =>
          have unchanged : commands.map (relocate id) = commands :=
            (List.map_congr_left nested).trans commands.map_id
          simp only [Option.map_some, unchanged]

/-- The script with each position in it changed. -/
def Script.relocate (move : Coordinate → Coordinate) (script : Script) : Script where
  commands := script.commands.map (Command.relocate move)

end MailSieve
