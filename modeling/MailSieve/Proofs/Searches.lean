/-!
# Searches that stop early

`anyM` goes through a list up to the first item that holds, and `allM` up to the first that does
not; a failure stops either.  Lists in a row are searched as one, and to negate one search is to
make the other for the negated items: both look at the same items and stop at the same one.
-/

namespace MailSieve

variable {m : Type → Type} [Monad m] [LawfulMonad m] {α β : Type}

theorem anyM_singleton (holds : α → m Bool) (item : α) : [item].anyM holds = holds item := by
  rw [List.anyM_cons, List.anyM_nil, ← bind_pure (holds item), bind_assoc]
  refine bind_congr fun found => ?_
  cases found <;> simp

theorem allM_singleton (holds : α → m Bool) (item : α) : [item].allM holds = holds item := by
  rw [List.allM_cons, List.allM_nil, ← bind_pure (holds item), bind_assoc]
  refine bind_congr fun found => ?_
  cases found <;> simp

/-! ### Lists in a row -/

/-- A search in two lists goes on to the second one if it finds nothing in the first. -/
theorem anyM_append (holds : α → m Bool) (earlier later : List α) :
    (earlier ++ later).anyM holds = (do
      if ← earlier.anyM holds then pure true else later.anyM holds) := by
  induction earlier with
  | nil => simp
  | cons item rest ih =>
      simp only [List.cons_append, List.anyM_cons, ih, bind_assoc]
      refine bind_congr fun found => ?_
      cases found <;> simp

/-- A search for an exception goes on to the second list if there is none in the first. -/
theorem allM_append (holds : α → m Bool) (earlier later : List α) :
    (earlier ++ later).allM holds = (do
      if ← earlier.allM holds then later.allM holds else pure false) := by
  induction earlier with
  | nil => simp
  | cons item rest ih =>
      simp only [List.cons_append, List.allM_cons, ih, bind_assoc]
      refine bind_congr fun found => ?_
      cases found <;> simp

/-- A search in lists one after the other is a search in all of them. -/
theorem anyM_flatMap (holds : β → m Bool) (parts : α → List β) (items : List α) :
    (items.flatMap parts).anyM holds = items.anyM fun item => (parts item).anyM holds := by
  induction items with
  | nil => rfl
  | cons item rest ih =>
      rw [List.flatMap_cons, anyM_append, List.anyM_cons, ih]

omit [LawfulMonad m] in
/-- Items can be changed before a search or as it comes to them. -/
theorem anyM_map (holds : β → m Bool) (f : α → β) (items : List α) :
    (items.map f).anyM holds = items.anyM fun item => holds (f item) := by
  induction items with
  | nil => rfl
  | cons item rest ih => rw [List.map_cons, List.anyM_cons, List.anyM_cons, ih]

/-! ### Negation -/

/-- **No item holds if all fail to**, and both searches stop at the same item. -/
theorem not_anyM (holds : α → m Bool) (items : List α) :
    not <$> items.anyM holds = items.allM fun item => not <$> holds item := by
  induction items with
  | nil => simp
  | cons item rest ih =>
      rw [List.anyM_cons, List.allM_cons, map_bind, bind_map_left]
      refine bind_congr fun found => ?_
      cases found with
      | true => simp
      | false => simpa using ih

/-- Not all hold just if there is one that does not, and both searches look at the same items. -/
theorem not_allM (holds : α → m Bool) (items : List α) :
    not <$> items.allM holds = items.anyM fun item => not <$> holds item := by
  induction items with
  | nil => simp
  | cons item rest ih =>
      rw [List.anyM_cons, List.allM_cons, map_bind, bind_map_left]
      refine bind_congr fun found => ?_
      cases found with
      | true => simpa using ih
      | false => simp

end MailSieve
