/-
# Parts of copies

A copy is made part by part, and everything but the marker for what is absent is its own copy. So
a value is told apart from its copy only by a marker somewhere in it.
-/

import DocFilter.Value.Copied
import DocFilter.Value.Equality

namespace DocFilter.Value

/-- The fields are copied one by one. -/
theorem copiedFields_eq_map (fields : List (String × Value)) :
    copiedFields fields = fields.map fun field => (field.1, field.2.copied) := by
  induction fields with
  | nil => rfl
  | cons field fields ih =>
    obtain ⟨name, value⟩ := field
    rw [copiedFields, ih]
    rfl

/-- The entries are copied one by one. -/
theorem copiedEntries_eq_map (entries : List (Value × Value)) :
    copiedEntries entries = entries.map fun entry => (entry.1.copied, entry.2.copied) := by
  induction entries with
  | nil => rfl
  | cons entry entries ih =>
    obtain ⟨key, value⟩ := entry
    rw [copiedEntries, ih]
    rfl

/-- Fields are copied before or after they are taken for entries. -/
theorem copiedEntries_fieldEntries (fields : List (String × Value)) :
    copiedEntries (fieldEntries fields) = fieldEntries (copiedFields fields) := by
  rw [copiedEntries_eq_map, copiedFields_eq_map, fieldEntries, fieldEntries, List.map_map,
    List.map_map]
  rfl

/-! ## Values that are their own copies -/

mutual

/-- Whether the marker for what is absent occurs in a value. A member of an enumeration is not
looked into. -/
def holdsMarker : Value → Bool
  | .list items | .tuple items | .set _ items => anyHoldsMarker items
  | .mapping entries => entriesHoldMarker entries
  | .record fields | .object fields => fieldsHoldMarker fields
  | .absent => true
  | _ => false

/-- Whether the marker occurs in one of the items. -/
def anyHoldsMarker : List Value → Bool
  | [] => false
  | item :: items => item.holdsMarker || anyHoldsMarker items

/-- Whether the marker occurs in one of the entries. -/
def entriesHoldMarker : List (Value × Value) → Bool
  | [] => false
  | (key, value) :: entries => key.holdsMarker || value.holdsMarker || entriesHoldMarker entries

/-- Whether the marker occurs in one of the fields. -/
def fieldsHoldMarker : List (String × Value) → Bool
  | [] => false
  | (_, value) :: fields => value.holdsMarker || fieldsHoldMarker fields

end

mutual

/-- The copy of a value is the value itself just if the marker does not occur in it. -/
theorem copied_eq_self_iff (value : Value) : value.copied = value ↔ value.holdsMarker = false := by
  cases value with
  | list items => simp [copied, holdsMarker, copiedAll_eq_self_iff items]
  | tuple items => simp [copied, holdsMarker, copiedAll_eq_self_iff items]
  | set frozen items => simp [copied, holdsMarker, copiedAll_eq_self_iff items]
  | mapping entries => simp [copied, holdsMarker, copiedEntries_eq_self_iff entries]
  | record fields => simp [copied, holdsMarker, copiedFields_eq_self_iff fields]
  | object attributes => simp [copied, holdsMarker, copiedFields_eq_self_iff attributes]
  | _ => simp [copied, holdsMarker]

theorem copiedAll_eq_self_iff (items : List Value) :
    copiedAll items = items ↔ anyHoldsMarker items = false := by
  cases items with
  | nil => simp [copiedAll, anyHoldsMarker]
  | cons item items =>
    simp [copiedAll, anyHoldsMarker, copied_eq_self_iff item, copiedAll_eq_self_iff items]

theorem copiedEntries_eq_self_iff (entries : List (Value × Value)) :
    copiedEntries entries = entries ↔ entriesHoldMarker entries = false := by
  cases entries with
  | nil => simp [copiedEntries, entriesHoldMarker]
  | cons entry entries =>
    obtain ⟨key, value⟩ := entry
    simp [copiedEntries, entriesHoldMarker, copied_eq_self_iff key, copied_eq_self_iff value,
      copiedEntries_eq_self_iff entries]

theorem copiedFields_eq_self_iff (fields : List (String × Value)) :
    copiedFields fields = fields ↔ fieldsHoldMarker fields = false := by
  cases fields with
  | nil => simp [copiedFields, fieldsHoldMarker]
  | cons field fields =>
    obtain ⟨name, value⟩ := field
    simp [copiedFields, fieldsHoldMarker, copied_eq_self_iff value,
      copiedFields_eq_self_iff fields]

end

end DocFilter.Value
