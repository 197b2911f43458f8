/-
# Copies of values

A copy of a value is put together anew from copies of its parts, and stands wherever the value can
stand. Only what is absent cannot be copied: it is known by being the one marker that it is, and
the copy of the marker is an object of its own. So a document in which nothing is absent has the
copies of its parts as its parts.
-/

import DocFilter.Value.Basic

namespace DocFilter.Value

mutual

/-- The copy of a value. Members of enumerations are not put together but stay the ones they are. -/
def copied : Value → Value
  | .list items => .list (copiedAll items)
  | .tuple items => .tuple (copiedAll items)
  | .set frozen items => .set frozen (copiedAll items)
  | .mapping entries => .mapping (copiedEntries entries)
  | .record fields => .record (copiedFields fields)
  | .object attributes => .object (copiedFields attributes)
  | .absent => .stranger
  | value => value

/-- The copies of all items. -/
def copiedAll : List Value → List Value
  | [] => []
  | item :: items => item.copied :: copiedAll items

/-- The copies of all entries. -/
def copiedEntries : List (Value × Value) → List (Value × Value)
  | [] => []
  | (key, value) :: entries => (key.copied, value.copied) :: copiedEntries entries

/-- The copies of all fields. -/
def copiedFields : List (String × Value) → List (String × Value)
  | [] => []
  | (name, value) :: fields => (name, value.copied) :: copiedFields fields

end

mutual

/-- A copy of a copy has the same parts as the copy. -/
@[simp]
theorem copied_copied (value : Value) : value.copied.copied = value.copied := by
  cases value with
  | list items => simp only [copied, copiedAll_copiedAll items]
  | tuple items => simp only [copied, copiedAll_copiedAll items]
  | set frozen items => simp only [copied, copiedAll_copiedAll items]
  | mapping entries => simp only [copied, copiedEntries_copiedEntries entries]
  | record fields => simp only [copied, copiedFields_copiedFields fields]
  | object attributes => simp only [copied, copiedFields_copiedFields attributes]
  | _ => rfl

/-- Copies of copied items have the same parts as the copies. -/
@[simp]
theorem copiedAll_copiedAll (items : List Value) :
    copiedAll (copiedAll items) = copiedAll items := by
  cases items with
  | nil => rfl
  | cons item items => simp only [copiedAll, copied_copied item, copiedAll_copiedAll items]

/-- Copies of copied entries have the same parts as the copies. -/
@[simp]
theorem copiedEntries_copiedEntries (entries : List (Value × Value)) :
    copiedEntries (copiedEntries entries) = copiedEntries entries := by
  cases entries with
  | nil => rfl
  | cons entry entries =>
    obtain ⟨key, value⟩ := entry
    simp only [copiedEntries, copied_copied key, copied_copied value,
      copiedEntries_copiedEntries entries]

/-- Copies of copied fields have the same parts as the copies. -/
@[simp]
theorem copiedFields_copiedFields (fields : List (String × Value)) :
    copiedFields (copiedFields fields) = copiedFields fields := by
  cases fields with
  | nil => rfl
  | cons field fields =>
    obtain ⟨name, value⟩ := field
    simp only [copiedFields, copied_copied value, copiedFields_copiedFields fields]

end

/-- The items are copied one by one. -/
theorem copiedAll_eq_map (items : List Value) : copiedAll items = items.map copied := by
  induction items with
  | nil => rfl
  | cons item items ih => simp only [copiedAll, List.map_cons, ih]

end DocFilter.Value
