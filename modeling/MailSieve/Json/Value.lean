/-!
# JSON values

Scripts, messages, configurations and lists of actions are kept as JSON.  A value here is what the
rest of the library needs of it: the fields of a record stay in order and may repeat, and of numbers
only those are told apart that a field can hold, the integers from 0 to 2^64 - 1 written without
fraction or exponent.

`Json.fold` is bottom-up recursion.  A function of values is given by what it does at one `Layer`,
whose inner values are replaced by their results.
-/

namespace MailSieve

/-- A JSON value. -/
inductive Json where
  | null
  | boolean (value : Bool)
  | number (value : UInt64)
  /-- A number that no field can hold. -/
  | otherNumber
  | text (value : String)
  | list (items : List Json)
  | record (fields : List (String × Json))
  /-- A value of correct form that cannot be taken in: a text or key with half a surrogate pair, or
  what lies too deep.  It may stand only where nobody looks. -/
  | unreadable

namespace Json

instance : Inhabited Json := ⟨null⟩

/-- The top of a value, with `α` in place of the values inside. -/
inductive Layer (α : Type) where
  | null
  | boolean (value : Bool)
  | number (value : UInt64)
  | otherNumber
  | text (value : String)
  | list (items : List α)
  | record (fields : List (String × α))
  | unreadable

section Fold

variable {α : Type} (f : Layer α → α)

mutual

/-- Bottom-up recursion over a value. -/
def fold : Json → α
  | null => f .null
  | boolean value => f (.boolean value)
  | number value => f (.number value)
  | otherNumber => f .otherNumber
  | text value => f (.text value)
  | list items => f (.list (foldItems items))
  | record fields => f (.record (foldFields fields))
  | unreadable => f .unreadable

/-- The results of the items of a list, in order. -/
def foldItems : List Json → List α
  | [] => []
  | item :: rest => fold item :: foldItems rest

/-- The fields of a record with the results of their values. -/
def foldFields : List (String × Json) → List (String × α)
  | [] => []
  | (key, value) :: rest => (key, fold value) :: foldFields rest

end

/-- The recursion along a list maps the fold over it. -/
theorem foldItems_eq_map (items : List Json) : foldItems f items = items.map (fold f) := by
  induction items with
  | nil => rfl
  | cons item rest ih => simp [foldItems, ih]

/-- The recursion along the fields maps the fold over their values. -/
theorem foldFields_eq_map (fields : List (String × Json)) :
    foldFields f fields = fields.map fun field => (field.1, fold f field.2) := by
  induction fields with
  | nil => rfl
  | cons field rest ih => simp [foldFields, ih]

@[simp] theorem fold_null : fold f null = f .null := rfl

@[simp] theorem fold_number (value : UInt64) : fold f (number value) = f (.number value) := rfl

@[simp] theorem fold_text (value : String) : fold f (text value) = f (.text value) := rfl

@[simp] theorem fold_list (items : List Json) :
    fold f (list items) = f (.list (items.map (fold f))) := by
  rw [fold, foldItems_eq_map]

@[simp] theorem fold_record (fields : List (String × Json)) :
    fold f (record fields) = f (.record (fields.map fun field => (field.1, fold f field.2))) := by
  rw [fold, foldFields_eq_map]

end Fold

/-- The top of a value, with the values inside as they are. -/
def layer : Json → Layer Json
  | null => .null
  | boolean value => .boolean value
  | number value => .number value
  | otherNumber => .otherNumber
  | text value => .text value
  | list items => .list items
  | record fields => .record fields
  | unreadable => .unreadable

/-- The value with a given top. -/
def ofLayer : Layer Json → Json
  | .null => null
  | .boolean value => boolean value
  | .number value => number value
  | .otherNumber => otherNumber
  | .text value => text value
  | .list items => list items
  | .record fields => record fields
  | .unreadable => unreadable

/-- The same top with each inner value replaced. -/
def Layer.map {α β : Type} (f : α → β) : Layer α → Layer β
  | null => null
  | boolean value => boolean value
  | number value => number value
  | otherNumber => otherNumber
  | text value => text value
  | list items => list (items.map f)
  | record fields => record (fields.map fun field => (field.1, f field.2))
  | unreadable => unreadable

/-- **The equation of the fold**, without its auxiliary recursions. -/
theorem fold_eq {α : Type} (f : Layer α → α) (value : Json) :
    fold f value = f (value.layer.map (fold f)) := by
  cases value with
  | list items => exact fold_list f items
  | record fields => exact fold_record f fields
  | null | boolean | number | otherNumber | text | unreadable => rfl

/-- The values inside a list or a record. -/
def inner : Json → List Json
  | list items => items
  | record fields => fields.map Prod.snd
  | _ => []

/-- To prove something of every value, prove it of a value whose inner values all have it. -/
theorem induction {motive : Json → Prop}
    (node : ∀ value : Json, (∀ part ∈ value.inner, motive part) → motive value)
    (value : Json) : motive value := by
  refine Json.rec (motive_1 := motive)
    (motive_2 := fun items => ∀ item ∈ items, motive item)
    (motive_3 := fun fields => ∀ part ∈ fields.map Prod.snd, motive part)
    (motive_4 := fun field => motive field.2) ?_ ?_ ?_ ?_ ?_ ?_ ?_ ?_ ?_ ?_ ?_ ?_ ?_ value
  · exact node null (by simp [inner])
  · exact fun value => node (boolean value) (by simp [inner])
  · exact fun value => node (number value) (by simp [inner])
  · exact node otherNumber (by simp [inner])
  · exact fun value => node (text value) (by simp [inner])
  · exact fun items nested => node (list items) nested
  · exact fun fields nested => node (record fields) nested
  · exact node unreadable (by simp [inner])
  · simp
  · exact fun item rest first others => List.forall_mem_cons.mpr ⟨first, others⟩
  · simp
  · exact fun field rest first others => List.forall_mem_cons.mpr ⟨first, others⟩
  · exact fun _ _ nested => nested

/-- A natural number as a value; one that is too large for a field is written as the largest. -/
def ofNat (n : Nat) : Json := number (UInt64.ofNatClamp n)

/-- A list of texts. -/
def ofStrings (texts : List String) : Json := list (texts.map text)

/-- A value or null. -/
def ofOption {α : Type} (toJson : α → Json) : Option α → Json
  | some value => toJson value
  | none => null

theorem ofOption_map {α β : Type} (toJson : β → Json) (f : α → β) (choice : Option α) :
    ofOption toJson (choice.map f) = ofOption (toJson ∘ f) choice := by
  cases choice <;> rfl

end Json

end MailSieve
