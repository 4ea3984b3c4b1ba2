import MailSieve.Glob

/-!
# The walk decides the meaning of a pattern

`Matches` says rule by rule which texts a pattern matches, and `isMatch` walks over text and pattern
with a single saved star.  A mismatch goes back to that star alone, so all stars before it are
forgotten.  This loses no match: between two stars each octet of the pattern accounts for exactly
one octet of the text, so whatever an earlier star could still swallow, the last one can swallow as
well.

* `matches_run_iff`, `matches_cons_iff`, `matches_nil_right_iff` say what becomes of a
  pattern under the steps of a walk, `Matches.drop_segment` that octets which are no stars
  account for one octet each, and `matches_plain_append_iff` that octets which are no wildcards
  stand at the start of the text as they are.
* `Cursor.Steps` lists what a step can do; every invariant is kept constructor by constructor.
* `Cursor.InRange`: the positions of a cursor lie where they should, and
  `Cursor.InRange.remaining_lt`: with every move less of the walk remains.
* `Cursor.Tracks`: the pattern matches the text exactly if what the cursor has still open holds.
* `isMatch_iff_matches` is the result.
-/

namespace MailSieve.Glob

variable {text pattern segment : List UInt8} {octet wanted : UInt8}

/-! ### Laws of the meaning -/

/-- Whether an octet of the pattern, no star, accepts an octet of the text. -/
def Fits (wanted octet : UInt8) : Prop := wanted = anyOctet ∨ wanted = octet

/-- A star skips some octets of the text, however many. -/
theorem matches_run_iff :
    Matches (anyRun :: pattern) text ↔ ∃ n, Matches pattern (text.drop n) := by
  constructor
  · intro matched
    cases matched with
    | run skipped rest => exact ⟨skipped.length, by simpa using rest⟩
    | literal notRun => exact absurd rfl notRun
  · rintro ⟨n, rest⟩
    have split : text = text.take n ++ text.drop n := (List.take_append_drop n text).symm
    rw [split]
    exact .run (text.take n) rest

/-- A star skips nothing, or one octet and then as a star what it still can. -/
theorem matches_run_iff_or : Matches (anyRun :: pattern) text ↔
    Matches pattern text ∨ Matches (anyRun :: pattern) (text.drop 1) := by
  simp only [matches_run_iff, List.drop_drop]
  constructor
  · rintro ⟨n, rest⟩
    cases n with
    | zero => exact .inl rest
    | succ n => exact .inr ⟨n, by rwa [Nat.add_comm 1 n]⟩
  · rintro (rest | ⟨n, rest⟩)
    · exact ⟨0, rest⟩
    · exact ⟨1 + n, rest⟩

/-- A star swallows whatever stands before a text that it matches. -/
theorem Matches.swallow {n : Nat} (matched : Matches (anyRun :: pattern) (text.drop n)) :
    Matches (anyRun :: pattern) text := by
  rw [matches_run_iff] at matched ⊢
  obtain ⟨skipped, rest⟩ := matched
  rw [List.drop_drop] at rest
  exact ⟨_, rest⟩

/-- An octet that is no star accounts for one octet of the text. -/
theorem matches_cons_iff (noStar : wanted ≠ anyRun) : Matches (wanted :: pattern) (octet :: text) ↔
    Fits wanted octet ∧ Matches pattern text := by
  constructor
  · intro matched
    generalize whole : octet :: text = all at matched
    cases matched with
    | run => exact absurd rfl noStar
    | single _ rest =>
        cases whole
        exact ⟨.inl rfl, rest⟩
    | literal _ _ rest =>
        cases whole
        exact ⟨.inr rfl, rest⟩
  · rintro ⟨fits, rest⟩
    by_cases single : wanted = anyOctet
    · subst single
      exact .single octet rest
    · obtain rfl : wanted = octet := fits.resolve_left single
      exact .literal noStar single rest

theorem not_matches_nil_cons : ¬ Matches [] (octet :: text) := nofun

/-- Only stars match the empty text. -/
theorem matches_nil_right_iff :
    Matches pattern [] ↔ pattern.all (· == anyRun) = true := by
  induction pattern with
  | nil => exact ⟨fun _ => rfl, fun _ => .nil⟩
  | cons wanted rest ih =>
      rw [List.all_cons, Bool.and_eq_true, beq_iff_eq, ← ih]
      constructor
      · intro matched
        generalize empty : ([] : List UInt8) = text at matched
        cases matched with
        | run skipped inner =>
            obtain ⟨rfl, rfl⟩ := List.append_eq_nil_iff.mp empty.symm
            exact ⟨rfl, inner⟩
        | single | literal => cases empty
      · rintro ⟨rfl, inner⟩
        exact .run [] inner

/-- **Octets that are no stars account for one octet of the text each.** -/
theorem Matches.drop_segment (starless : anyRun ∉ segment)
    (matched : Matches (segment ++ pattern) text) :
    Matches pattern (text.drop segment.length) := by
  induction segment generalizing text with
  | nil => exact matched
  | cons wanted rest ih =>
      rw [List.mem_cons, not_or] at starless
      obtain ⟨noStar, later⟩ := starless
      cases text with
      | nil =>
          rw [List.cons_append, matches_nil_right_iff, List.all_cons, Bool.and_eq_true,
            beq_iff_eq] at matched
          exact absurd matched.1.symm noStar
      | cons octet text =>
          exact ih later ((matches_cons_iff (Ne.symm noStar)).mp matched).2

/-- **Octets without wildcards stand at the start of the text** that they match, as they are. -/
theorem matches_plain_append_iff (plain : segment.any isWildcard = false) :
    Matches (segment ++ pattern) text ↔ ∃ rest, text = segment ++ rest ∧ Matches pattern rest := by
  induction segment generalizing text with
  | nil => simp
  | cons wanted segment ih =>
      obtain ⟨here, later⟩ := Bool.or_eq_false_iff.mp (List.any_cons ▸ plain)
      obtain ⟨noStar, notSingle⟩ := Bool.or_eq_false_iff.mp here
      rw [beq_eq_false_iff_ne] at noStar notSingle
      cases text with
      | nil => simp [matches_nil_right_iff, noStar]
      | cons octet text =>
          rw [List.cons_append, matches_cons_iff noStar, ih later]
          simp only [Fits, notSingle, false_or, List.cons_append, List.cons_eq_cons, and_assoc]
          grind

/-- A pattern without wildcards matches itself alone. -/
theorem matches_iff_eq (plain : pattern.any isWildcard = false) :
    Matches pattern text ↔ pattern = text := by
  have whole : Matches (pattern ++ []) text ↔ ∃ rest, text = pattern ++ rest ∧ Matches [] rest :=
    matches_plain_append_iff plain
  rw [List.append_nil] at whole
  rw [whole]
  constructor
  · rintro ⟨rest, rfl, ended⟩
    cases ended
    exact (List.append_nil _).symm
  · rintro rfl
    exact ⟨[], (List.append_nil _).symm, .nil⟩

/-! ### What a step can do -/

namespace Cursor

variable {cursor next : Cursor}

/-- What one step of a walk can come to, with what has been seen of text and pattern. -/
inductive Steps (text pattern : List UInt8) (cursor : Cursor) : Step → Prop where
  /-- The text is over. -/
  | exhausted (ended : text.drop cursor.text = []) :
      Steps text pattern cursor (.verdict ((pattern.drop cursor.pattern).all (· == anyRun)))
  /-- The next octet of the pattern is a star, and is saved. -/
  | save (starred : pattern.drop cursor.pattern = anyRun :: pattern.drop (cursor.pattern + 1)) :
      Steps text pattern cursor (.moved { cursor with
        pattern := cursor.pattern + 1
        star := some (cursor.pattern, cursor.text) })
  /-- The next octets of pattern and text agree. -/
  | agree (octet wanted : UInt8)
      (seen : text.drop cursor.text = octet :: text.drop (cursor.text + 1))
      (asked : pattern.drop cursor.pattern = wanted :: pattern.drop (cursor.pattern + 1))
      (noStar : wanted ≠ anyRun) (fits : Fits wanted octet) :
      Steps text pattern cursor (.moved { cursor with
        text := cursor.text + 1
        pattern := cursor.pattern + 1 })
  /-- What is left of the pattern cannot match what is left of the text. -/
  | mismatch (unfinished : cursor.text < text.length)
      (fails : ¬ Matches (pattern.drop cursor.pattern) (text.drop cursor.text)) :
      Steps text pattern cursor cursor.retry

/-- A step does what is listed. -/
theorem steps_step (text pattern : List UInt8) (cursor : Cursor) :
    Steps text pattern cursor (cursor.step text.toArray pattern.toArray) := by
  have drop_of_getElem? : ∀ {items : List UInt8} {i : Nat} {item : UInt8},
      items[i]? = some item → items.drop i = item :: items.drop (i + 1) := by
    intro items i item found
    obtain ⟨inside, rfl⟩ := List.getElem?_eq_some_iff.mp found
    exact List.drop_eq_getElem_cons inside
  unfold step
  simp only [List.getElem?_toArray]
  cases seen : text[cursor.text]? with
  | none => exact .exhausted (List.drop_eq_nil_of_le (List.getElem?_eq_none_iff.mp seen))
  | some octet =>
      have unfinished : cursor.text < text.length := (List.getElem?_eq_some_iff.mp seen).1
      have ahead := drop_of_getElem? seen
      cases asked : pattern[cursor.pattern]? with
      | none =>
          -- the pattern has come to its end before the text
          refine .mismatch unfinished ?_
          rw [List.drop_eq_nil_of_le (List.getElem?_eq_none_iff.mp asked), ahead]
          exact not_matches_nil_cons
      | some wanted =>
          have wants := drop_of_getElem? asked
          dsimp only
          split
          · rename_i starred
            exact .save (starred ▸ wants)
          · rename_i noStar
            split
            · rename_i fits
              exact .agree octet wanted ahead wants noStar fits
            · rename_i differs
              -- the octet at hand is not the one wanted
              refine .mismatch unfinished ?_
              rw [wants, ahead, matches_cons_iff noStar]
              exact fun matched => differs matched.1

/-! ### Positions in range -/

/-- The positions of a cursor lie inside text and pattern; the saved star is a star, stands before
the position in the pattern, and swallows no further than the walk has come. -/
structure InRange (text pattern : List UInt8) (cursor : Cursor) : Prop where
  text_le : cursor.text ≤ text.length
  pattern_le : cursor.pattern ≤ pattern.length
  star : ∀ star upTo, cursor.star = some (star, upTo) →
    star < cursor.pattern ∧ pattern[star]? = some anyRun ∧ upTo ≤ cursor.text

/-- A walk starts in range, with no star saved. -/
theorem InRange.start : InRange text pattern {} := ⟨Nat.zero_le _, Nat.zero_le _, nofun⟩

theorem lt_length_of_drop {items rest : List UInt8} {i : Nat} {item : UInt8}
    (ahead : items.drop i = item :: rest) : i < items.length := by
  have nonempty : items.drop i ≠ [] := by simp [ahead]
  exact Nat.lt_of_not_le fun beyond => nonempty (List.drop_eq_nil_of_le beyond)

/-- **Moves stay in range**, by cases on what a step can do. -/
theorem InRange.step (inRange : InRange text pattern cursor)
    (moved : Steps text pattern cursor (.moved next)) : InRange text pattern next := by
  obtain ⟨text_le, pattern_le, star⟩ := inRange
  generalize reached : Step.moved next = step at moved
  cases moved with
  | exhausted => cases reached
  | save starred =>
      cases reached
      have inside := lt_length_of_drop starred
      refine ⟨text_le, inside, ?_⟩
      -- the new star stands right before the position in the pattern
      rintro _ _ ⟨⟩
      refine ⟨Nat.lt_succ_self _, ?_, Nat.le_refl _⟩
      have first := congrArg (·[0]?) starred
      simpa using first
  | agree octet wanted seen asked =>
      cases reached
      refine ⟨lt_length_of_drop seen, lt_length_of_drop asked, fun saved upTo found => ?_⟩
      obtain ⟨before, isStar, behind⟩ := star saved upTo found
      exact ⟨by dsimp only; omega, isStar, by dsimp only; omega⟩
  | mismatch unfinished =>
      unfold retry at reached
      split at reached
      · cases reached
      · rename_i saved upTo found
        obtain ⟨before, isStar, behind⟩ := star saved upTo found
        cases reached
        refine ⟨by dsimp only; omega, by dsimp only; omega, ?_⟩
        rintro _ _ ⟨⟩
        exact ⟨Nat.lt_succ_self _, isStar, Nat.le_refl _⟩

/-- The saved star has swallowed no more than the walk has come. -/
theorem InRange.swallowed_le (inRange : InRange text pattern cursor) :
    cursor.swallowed ≤ cursor.text := by
  unfold swallowed
  cases saved : cursor.star with
  | none => exact Nat.zero_le _
  | some star => exact (inRange.star star.1 star.2 saved).2.2

/-- **With every move less of the walk remains.** -/
theorem InRange.remaining_lt (inRange : InRange text pattern cursor)
    (moved : Steps text pattern cursor (.moved next)) :
    next.remaining text.toArray pattern.toArray <
      cursor.remaining text.toArray pattern.toArray := by
  have behind := inRange.swallowed_le
  obtain ⟨-, -, star⟩ := inRange
  simp only [remaining, List.size_toArray]
  generalize reached : Step.moved next = step at moved
  cases moved with
  | exhausted => cases reached
  | save starred =>
      cases reached
      have inside := lt_length_of_drop starred
      -- the new star starts out with all that the walk has come
      have fewer : (text.length - cursor.text) * (pattern.length + 1) ≤
          (text.length - cursor.swallowed) * (pattern.length + 1) :=
        Nat.mul_le_mul_right _ (by omega)
      simp only [swallowed, Option.map_some, Option.getD_some] at fewer ⊢
      omega
  | agree octet wanted seen asked =>
      cases reached
      have inside := lt_length_of_drop asked
      simp only [swallowed]
      omega
  | mismatch unfinished =>
      unfold retry at reached
      split at reached
      · cases reached
      · rename_i saved upTo found
        obtain ⟨before, -, within⟩ := star saved upTo found
        cases reached
        have more : text.length - upTo = text.length - (upTo + 1) + 1 := by omega
        simp only [swallowed, found, Option.map_some, Option.getD_some]
        rw [more, Nat.succ_mul]
        omega

/-! ### What a cursor has still open -/

/-- What is left to try: that the rest of the pattern matches the rest of the text, or that the
saved star swallows at least one octet more. -/
def Open (text pattern : List UInt8) (cursor : Cursor) : Prop :=
  Matches (pattern.drop cursor.pattern) (text.drop cursor.text) ∨
    ∃ star upTo, cursor.star = some (star, upTo) ∧
      Matches (anyRun :: pattern.drop (star + 1)) (text.drop (upTo + 1))

/-- What is left to try when a star is saved. -/
theorem open_of_star {star upTo : Nat} (found : cursor.star = some (star, upTo)) :
    cursor.Open text pattern ↔
      Matches (pattern.drop cursor.pattern) (text.drop cursor.text) ∨
        Matches (anyRun :: pattern.drop (star + 1)) (text.drop (upTo + 1)) := by
  unfold Open
  refine or_congr_right ⟨?_, fun more => ⟨star, upTo, found, more⟩⟩
  rintro ⟨_, _, saved, more⟩
  cases found.symm.trans saved
  exact more

/-- The cursor has lost no match and invented none, and between the saved star and its position in
the pattern there are no further stars. -/
structure Tracks (text pattern : List UInt8) (cursor : Cursor) : Prop extends
    InRange text pattern cursor where
  segment : ∀ star upTo, cursor.star = some (star, upTo) →
    ∃ segment, pattern.drop (star + 1) = segment ++ pattern.drop cursor.pattern ∧
      anyRun ∉ segment ∧ cursor.text = upTo + segment.length
  matches_iff : Matches pattern text ↔ cursor.Open text pattern

/-- At the start everything is left to try, so nothing is lost. -/
theorem Tracks.start : Tracks text pattern {} where
  toInRange := .start
  segment := nofun
  matches_iff := by simp [Open]

/-- **What the saved star could swallow, a later star can swallow too.**  If swallowing more leads
to a match at all, the rest of the pattern matches from here or from further on. -/
theorem Tracks.exists_later (tracks : Tracks text pattern cursor)
    (held : cursor.Open text pattern) :
    ∃ n, Matches (pattern.drop cursor.pattern) ((text.drop cursor.text).drop n) := by
  rcases held with here | ⟨star, upTo, found, more⟩
  · exact ⟨0, here⟩
  · obtain ⟨segment, split, starless, length⟩ := tracks.segment star upTo found
    obtain ⟨n, matched⟩ := matches_run_iff.mp more
    rw [split] at matched
    have rest := matched.drop_segment starless
    refine ⟨n + 1, ?_⟩
    rw [List.drop_drop, List.drop_drop] at rest
    rw [List.drop_drop]
    have same : upTo + 1 + (n + segment.length) = cursor.text + (n + 1) := by omega
    rwa [same] at rest

/-- A verdict is right. -/
theorem Tracks.verdict {isMatch : Bool} (tracks : Tracks text pattern cursor)
    (decided : Steps text pattern cursor (.verdict isMatch)) :
    isMatch = true ↔ Matches pattern text := by
  rw [tracks.matches_iff]
  generalize reached : Step.verdict isMatch = step at decided
  cases decided with
  | exhausted ended =>
      cases reached
      rw [← matches_nil_right_iff]
      constructor
      · intro matched
        exact .inl (by rwa [ended])
      · intro held
        -- no text is left to swallow, so the pattern matches here or nowhere
        obtain ⟨n, matched⟩ := tracks.exists_later held
        rwa [ended, List.drop_nil] at matched
  | save | agree => cases reached
  | mismatch unfinished fails =>
      unfold retry at reached
      split at reached
      · rename_i unsaved
        cases reached
        simp [Open, fails, unsaved]
      · cases reached

/-- A move loses no match and invents none. -/
theorem Tracks.step (tracks : Tracks text pattern cursor)
    (moved : Steps text pattern cursor (.moved next)) : Tracks text pattern next := by
  have inRange := tracks.toInRange.step moved
  generalize reached : Step.moved next = step at moved
  cases moved with
  | exhausted => cases reached
  | save starred =>
      cases reached
      refine { toInRange := inRange, segment := ?_, matches_iff := ?_ }
      · rintro _ _ ⟨⟩
        exact ⟨[], rfl, List.not_mem_nil, rfl⟩
      · have starts : Matches (pattern.drop cursor.pattern) (text.drop cursor.text) ↔
            Matches (pattern.drop (cursor.pattern + 1)) (text.drop cursor.text) ∨
              Matches (anyRun :: pattern.drop (cursor.pattern + 1))
                (text.drop (cursor.text + 1)) := by
          rw [starred, matches_run_iff_or, List.drop_drop]
        refine tracks.matches_iff.trans (.trans ?_ (open_of_star rfl).symm)
        refine .trans ?_ starts
        constructor
        · intro held
          -- the earlier star is forgotten here: whatever it could swallow, this one can
          obtain ⟨n, matched⟩ := tracks.exists_later held
          rw [starred] at matched ⊢
          exact matched.swallow
        · exact .inl
  | agree octet wanted seen asked noStar fits =>
      cases reached
      refine { toInRange := inRange, segment := fun star upTo found => ?_, matches_iff := ?_ }
      · obtain ⟨segment, split, starless, length⟩ := tracks.segment star upTo found
        refine ⟨segment ++ [wanted], ?_, ?_, ?_⟩
        · rw [split, asked, List.append_assoc, List.singleton_append]
        · simp [starless, noStar.symm]
        · simp only [List.length_append, List.length_singleton]
          omega
      · rw [tracks.matches_iff, Open, Open, asked, seen, matches_cons_iff noStar,
          and_iff_right fits]
  | mismatch unfinished fails =>
      unfold retry at reached
      split at reached
      · cases reached
      · rename_i star upTo found
        cases reached
        refine { toInRange := inRange, segment := ?_, matches_iff := ?_ }
        · rintro _ _ ⟨⟩
          exact ⟨[], rfl, List.not_mem_nil, rfl⟩
        · refine tracks.matches_iff.trans (.trans ?_ (open_of_star rfl).symm)
          rw [open_of_star found, or_iff_right fails, matches_run_iff_or, List.drop_drop]

/-! ### The walk -/

/-- A walk of enough steps decides whether the pattern matches. -/
theorem Tracks.walk_iff (tracks : Tracks text pattern cursor) {steps : Nat}
    (enough : cursor.remaining text.toArray pattern.toArray < steps) :
    walk text.toArray pattern.toArray steps cursor = true ↔ Matches pattern text := by
  induction steps generalizing cursor with
  | zero => exact absurd enough (Nat.not_lt_zero _)
  | succ steps ih =>
      have did := steps_step text pattern cursor
      rw [walk]
      cases stepped : cursor.step text.toArray pattern.toArray with
      | verdict isMatch =>
          rw [stepped] at did
          exact tracks.verdict did
      | moved next =>
          rw [stepped] at did
          have fewer := tracks.remaining_lt did
          exact ih (tracks.step did) (by omega)

end Cursor

/-- **The walk decides exactly which texts a pattern matches.**  This covers the comparison of a
pattern without wildcards as well as the walk that goes back to the last star alone. -/
theorem isMatch_iff_matches (text pattern : List UInt8) :
    isMatch text pattern = true ↔ Matches pattern text := by
  unfold isMatch
  split
  · exact Cursor.Tracks.start.walk_iff (Nat.lt_succ_self _)
  · rename_i plain
    rw [matches_iff_eq (Bool.eq_false_iff.mpr plain), beq_iff_eq]

end MailSieve.Glob
