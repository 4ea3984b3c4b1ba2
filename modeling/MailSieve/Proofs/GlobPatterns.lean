import MailSieve.Proofs.GlobMatching

/-!
# Laws of glob patterns

What follows from the meaning of a pattern, rule by rule, and holds of `isMatch` because the walk
decides that meaning.

* `isMatch_eq_walk`: comparing a pattern without wildcards as it is changes no answer.
* `Matches.refl`: every pattern matches itself, wildcards included.
* `Matches.map`: a change of octets that keeps the wildcards, and makes no others, keeps a match.
* `matches_between_stars_iff`: octets without wildcards, between two stars, stand anywhere in the
  text.
-/

namespace MailSieve.Glob

variable {text pattern plain : List UInt8}

/-- The comparison of a pattern without wildcards is a shortcut of the walk, not another rule. -/
theorem isMatch_eq_walk (text pattern : List UInt8) :
    isMatch text pattern = ({} : Cursor).walk text.toArray pattern.toArray
      (({} : Cursor).remaining text.toArray pattern.toArray + 1) := by
  rw [isMatch]
  split
  · rfl
  · rename_i noWildcard
    rw [Bool.eq_iff_iff, Cursor.Tracks.start.walk_iff (Nat.lt_succ_self _), beq_iff_eq,
      matches_iff_eq (Bool.eq_false_iff.mpr noWildcard)]

/-- **Every pattern matches itself**: a star swallows a star. -/
theorem Matches.refl (pattern : List UInt8) : Matches pattern pattern := by
  induction pattern with
  | nil => exact .nil
  | cons octet rest ih =>
      by_cases star : octet = anyRun
      · subst star
        exact .run [anyRun] ih
      · exact (matches_cons_iff star).mpr ⟨.inr rfl, ih⟩

/-- **A change of octets that keeps the wildcards and makes no others keeps a match.** -/
theorem Matches.map {f : UInt8 → UInt8} (anyRuns : ∀ octet, f octet = anyRun ↔ octet = anyRun)
    (anyOctets : ∀ octet, f octet = anyOctet ↔ octet = anyOctet) (matched : Matches pattern text) :
    Matches (pattern.map f) (text.map f) := by
  induction matched with
  | nil => exact .nil
  | run skipped _ ih =>
      rw [List.map_cons, List.map_append, (anyRuns anyRun).mpr rfl]
      exact .run (skipped.map f) ih
  | single octet _ ih =>
      rw [List.map_cons, List.map_cons, (anyOctets anyOctet).mpr rfl]
      exact .single (f octet) ih
  | literal notRun notSingle _ ih =>
      exact .literal (mt (anyRuns _).mp notRun) (mt (anyOctets _).mp notSingle) ih

/-- **Between two stars, octets without wildcards stand anywhere in the text.** -/
theorem matches_between_stars_iff (noWildcard : plain.any isWildcard = false) :
    Matches (anyRun :: (plain ++ [anyRun])) text ↔ plain <:+: text := by
  have swallowsAll (rest : List UInt8) : Matches [anyRun] rest := by
    simpa using Matches.run rest .nil
  simp only [matches_run_iff, matches_plain_append_iff noWildcard, swallowsAll, and_true]
  constructor
  · rintro ⟨n, rest, behind⟩
    exact ⟨text.take n, rest, by rw [List.append_assoc, ← behind, List.take_append_drop]⟩
  · rintro ⟨before, after, rfl⟩
    exact ⟨before.length, after, by simp⟩

end MailSieve.Glob
