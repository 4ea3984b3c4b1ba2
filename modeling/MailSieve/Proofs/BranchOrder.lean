import MailSieve.Proofs.Scoping
import MailSieve.Proofs.Trace

/-!
# Where a branch may stand

Whether an `elsif` or `else` is admitted is told from the open chain, which guards and other
commands change while the run goes on, and which blocks hide and bring back.  Yet it is known from
the script alone: a chain is open just if the command right before, in the same list, is an `if` or
`elsif`.

* `NoChainBefore`: what stands right before a place in a list does not let a branch follow.
* `current_eq_none_iff`: when a run comes to a place in a list, no chain is open just if this is so,
  whatever the commands before have done.
* `outOfOrder_iff_noChainBefore` is the conclusion for all branches that are started.
-/

namespace MailSieve

/-- The place is at the start of the list, or the command before it stands for something other than
`if` and `elsif`. -/
def NoChainBefore (registries : Registries) (commands : List Command) (index : Nat) : Prop :=
  index = 0 ∨ ∃ previous implementation, commands[index - 1]? = some previous ∧
    registries.commands.create previous.name = .ok implementation ∧
    implementation ≠ .branch .opening ∧ implementation ≠ .branch .alternative

/-! ### The open chain at a place -/

section Place

variable {host : Host}

/-- Behind a command it is this command that counts, and nothing else in the list. -/
theorem noChainBefore_behind (registries : Registries) (front : List Command) (last : Command)
    (later : List Command) :
    NoChainBefore registries (front ++ [last] ++ later) (front ++ [last]).length ↔
      ∃ implementation, registries.commands.create last.name = .ok implementation ∧
        implementation ≠ .branch .opening ∧ implementation ≠ .branch .alternative := by
  simp [NoChainBefore]

/-- **A chain is open just where one can be**, in a list that was started without one. -/
theorem current_eq_none_iff {earlier : List Command} {entry reached : State}
    (fresh : entry.scopes.current = none)
    (ran : evaluateCommands host earlier entry = .ok .proceed reached) (later : List Command) :
    reached.scopes.current = none ↔
      NoChainBefore host.registries (earlier ++ later) earlier.length := by
  rcases earlier.eq_nil_or_concat with rfl | ⟨front, last, rfl⟩
  · cases ran
    exact ⟨fun _ => .inl rfl, fun _ => fresh⟩
  · rw [List.concat_eq_append] at ran ⊢
    -- whatever came earlier, the command that has ended last decides
    obtain ⟨between, -, ended⟩ := evaluateCommands_concat_eq_proceed_iff.mp ran
    obtain ⟨implementation, made, opened⟩ := isSome_current_of_evaluateCommand ended
    have closed : reached.scopes.current = none ↔
        implementation ≠ .branch .opening ∧ implementation ≠ .branch .alternative := by
      rw [← Option.not_isSome_iff_eq_none, opened, BuiltinCommand.continuesChain_iff, not_or]
    rw [noChainBefore_behind, closed]
    constructor
    · intro other
      exact ⟨implementation, made, other⟩
    · rintro ⟨found, same, other⟩
      rw [made] at same
      cases same
      exact other

end Place

/-! ### Branches -/

section Branches

variable {host : Host} {start : Start} {member : BranchCommand}

/-- A branch that continues a chain is refused just where no chain is open. -/
theorem validateState_branch (continues : member ≠ .opening) (state : State) :
    (BuiltinCommand.branch member).validateState state =
      if state.scopes.current = none then .error (.noOpenChain member.word) else .ok () := by
  unfold BuiltinCommand.validateState
  cases member with
  | opening => exact absurd rfl continues
  | alternative | fallback => cases state.scopes.current <;> rfl

/-- **A branch is refused just where no chain is open.** -/
theorem Start.outOfOrder_branch_iff {fault : OrderFault} (continues : member ≠ .opening)
    (made : host.registries.commands.create start.command.name = .ok (.branch member)) :
    start.OutOfOrder host fault ↔
      start.state.scopes.current = none ∧ fault = .noOpenChain member.word := by
  constructor
  · rintro ⟨implementation, same, refused, -⟩
    rw [made] at same
    cases same
    rw [validateState_branch continues] at refused
    split at refused
    · rename_i closed
      cases refused
      exact ⟨closed, rfl⟩
    · cases refused
  · rintro ⟨closed, rfl⟩
    refine outOfOrder_of_validateState made ?_
    rw [validateState_branch continues, if_pos closed]

end Branches

/-- **Where a branch may stand is known from the script.**  Take a run of commands with no chain
open: that of a script from a fresh state, or that of a block.  Each `elsif` and each `else` that it
comes to, at whatever depth, stands at some index of some list.  It fails there as out of order if
this is the first command of the list or the command before it is neither `if` nor `elsif`, and it
is in order otherwise. -/
theorem outOfOrder_iff_noChainBefore (host : Host) (commands : List Command) (state : State)
    (fresh : state.scopes.current = none) :
    ∀ start ∈ traceCommands host 0 commands state, ∀ member, member ≠ .opening →
      host.registries.commands.create start.command.name = .ok (.branch member) →
        ∃ list, listAt? start.outer commands = some list ∧
          list[start.index]? = some start.command ∧
          ((∃ fault, start.OutOfOrder host fault) ↔
            NoChainBefore host.registries list start.index) ∧
          ∀ fault, start.OutOfOrder host fault → fault = .noOpenChain member.word := by
  intro start started member continues made
  obtain ⟨earlier, later, entry, there, place, came, origin⟩ :=
    exists_list_of_mem_traceCommands started
  -- the list starts with no chain open, be it the script or a block
  have freshEntry : entry.scopes.current = none := by
    rcases origin with ⟨-, rfl⟩ | ⟨-, -, -, -, -, -, -, rfl⟩
    · exact fresh
    · rfl
  have closed := current_eq_none_iff freshEntry came (start.command :: later)
  refine ⟨_, there, by simp [place], ?_, ?_⟩
  · rw [place, ← closed]
    constructor
    · rintro ⟨fault, refused⟩
      exact ((Start.outOfOrder_branch_iff continues made).mp refused).1
    · intro none
      exact ⟨_, (Start.outOfOrder_branch_iff continues made).mpr ⟨none, rfl⟩⟩
  · intro fault refused
    exact ((Start.outOfOrder_branch_iff continues made).mp refused).2

/-- `if true { if false { keep; } discard; else { keep; } }` -/
def strayElse : List Command := [
  { name := "if"
    arguments := { tests := some [{ name := "true" }] }
    block := some [
      { name := "if"
        arguments := { tests := some [{ name := "false" }] }
        block := some [{ name := "keep" }] },
      { name := "discard" },
      { name := "else", block := some [{ name := "keep" }], coordinate := ⟨4, 3⟩ }] }]

/-- The `else` is out of order behind `discard`, though the chain around its block is open and none
of the guards before it in its list has held. -/
theorem outOfOrder_iff_noChainBefore_strayElse :
    let host : Host := { registries := .builtin }
    ({} : State).scopes.current = none ∧
      ∃ start ∈ traceCommands host 0 strayElse {}, start.outer = [0] ∧ start.index = 2 ∧
        (BranchCommand.fallback ≠ .opening ∧
          host.registries.commands.create start.command.name = .ok (.branch .fallback)) ∧
        start.OutOfOrder host (.noOpenChain "else") := by
  intro host
  have starts : (traceCommands host 0 strayElse {}).map
      (fun start => (start.outer, start.index, start.command.name)) =
        [([], 0, "if"), ([0], 0, "if"), ([0], 1, "discard"), ([0], 2, "else")] := by
    decide +kernel
  have last : ([0], 2, "else") ∈ (traceCommands host 0 strayElse {}).map
      (fun start => (start.outer, start.index, start.command.name)) := by
    rw [starts]
    simp
  obtain ⟨start, started, there⟩ := List.mem_map.mp last
  obtain ⟨outer, index, name⟩ : start.outer = [0] ∧ start.index = 2 ∧ start.command.name = "else" :=
    by simpa using there
  have made : host.registries.commands.create start.command.name = .ok (.branch .fallback) := by
    rw [name]
    exact Registries.create_builtin_command (.branch .fallback)
  have continues : BranchCommand.fallback ≠ .opening := by decide
  obtain ⟨list, stands, -, refused, why⟩ :=
    outOfOrder_iff_noChainBefore host strayElse {} rfl start started .fallback continues made
  rw [outer] at stands
  obtain rfl := Option.some.inj stands
  obtain ⟨fault, failed⟩ := refused.mpr <| by
    rw [index]
    exact .inr ⟨_, _, rfl, Registries.create_builtin_command (.action .discard), nofun, nofun⟩
  obtain rfl := why fault failed
  exact ⟨rfl, start, started, outer, index, ⟨continues, made⟩, failed⟩

end MailSieve
