import MailSieve.Json.Value

/-!
# Fields of a record

A record has a row of keys.  It may be written in two ways: as a JSON record, whose fields come in
any order and may be joined by others that nobody looks at, or as a list of the values in the order
of the keys, whose end may be left out.  A key of the row that comes twice is an error.

`Layer.fields?` reads both and gives for each key what stands there, if anything does.  `optional`
and `nullable` then say what the absence of a field and a null mean.
-/

namespace MailSieve.Json

variable {α β : Type}

/-- What stands under a key; nothing at all if the key comes twice. -/
def valueAt? (fields : List (String × α)) (key : String) : Option (Option α) :=
  match fields.filter (·.1 == key) with
  | [] => some none
  | [(_, value)] => some (some value)
  | _ => none

section ValueAt

variable {key wanted : String} {value : α} {fields : List (String × α)}

theorem filter_key_eq_nil (missing : wanted ∉ fields.map Prod.fst) :
    fields.filter (·.1 == wanted) = [] := by
  refine List.filter_eq_nil_iff.mpr fun field present same => missing ?_
  exact List.mem_map.mpr ⟨field, present, beq_iff_eq.mp same⟩

/-- A key that the record does not have is absent, and that is no error. -/
theorem valueAt?_of_not_mem (missing : wanted ∉ fields.map Prod.fst) :
    valueAt? fields wanted = some none := by
  rw [valueAt?, filter_key_eq_nil missing]

/-- A value is found under its key if the key does not come again. -/
theorem valueAt?_cons_self (once : key ∉ fields.map Prod.fst) :
    valueAt? ((key, value) :: fields) key = some (some value) := by
  rw [valueAt?, List.filter_cons_of_pos (by simp), filter_key_eq_nil once]

/-- A field is passed over in search of another key. -/
theorem valueAt?_cons_of_ne (other : wanted ≠ key) :
    valueAt? ((key, value) :: fields) wanted = valueAt? fields wanted := by
  rw [valueAt?, valueAt?, List.filter_cons_of_neg (by simpa using other.symm)]

theorem valueAt?_map (f : α → β) (fields : List (String × α)) (key : String) :
    valueAt? (fields.map fun field => (field.1, f field.2)) key =
      (valueAt? fields key).map (Option.map f) := by
  have chosen : (fields.map fun field => (field.1, f field.2)).filter (·.1 == key) =
      (fields.filter (·.1 == key)).map fun field => (field.1, f field.2) := by
    rw [List.filter_map]
    rfl
  rw [valueAt?, valueAt?, chosen]
  generalize fields.filter (·.1 == key) = found
  rcases found with _ | ⟨first, _ | ⟨second, rest⟩⟩ <;> rfl

end ValueAt

/-- What stands under each key, in the order of the keys. -/
def Layer.fields? (keys : List String) : Layer α → Option (List (Option α))
  | .record fields => keys.mapM (valueAt? fields)
  | .list values =>
      if values.length ≤ keys.length then
        some (values.map some ++ List.replicate (keys.length - values.length) none)
      else none
  | _ => none

/-- Replacing the inner values replaces what stands under the keys. -/
theorem Layer.fields?_map (f : α → β) (keys : List String) (layer : Layer α) :
    (layer.map f).fields? keys = (layer.fields? keys).map (List.map (Option.map f)) := by
  cases layer with
  | record fields =>
      simp only [Layer.map, fields?]
      induction keys with
      | nil => rfl
      | cons key rest ih =>
          rw [List.mapM_cons, List.mapM_cons, valueAt?_map, ih]
          cases valueAt? fields key with
          | none => rfl
          | some found => cases rest.mapM (valueAt? fields) <;> rfl
  | list values =>
      simp only [Layer.map, fields?, List.length_map]
      split <;> simp [List.map_replicate, Function.comp_def]
  | null | boolean | number | otherNumber | text | unreadable => rfl

/-- A field that may be absent and then has a default. -/
def optional (absent : β) (decode : α → Option β) : Option α → Option β
  | none => some absent
  | some value => decode value

/-- A value may be changed before it is decoded or by the decoder. -/
theorem optional_map {γ : Type} (absent : γ) (decode : β → Option γ) (f : α → β)
    (found : Option α) :
    optional absent decode (found.map f) = optional absent (decode ∘ f) found := by
  cases found <;> rfl

/-- A text. -/
def text? : Json → Option String
  | .text value => some value
  | _ => none

/-- A number. -/
def number? : Json → Option UInt64
  | .number value => some value
  | _ => none

/-- The items of a list. -/
def list? : Json → Option (List Json)
  | .list items => some items
  | _ => none

/-- The texts in a list of texts. -/
def texts? (value : Json) : Option (List String) := do
  let items ← value.list?
  items.mapM text?

/-- Whether the value is null. -/
def isNull : Json → Bool
  | .null => true
  | _ => false

/-- Null, or a value that can be decoded. -/
def nullable (decode : Json → Option β) (value : Json) : Option (Option β) :=
  if value.isNull then some none else (decode value).map some

end MailSieve.Json
