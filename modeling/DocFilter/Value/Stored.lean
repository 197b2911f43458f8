/-
# Stored form

The form in which a value is stored uses only the plain data of documents: a member of an
enumeration is stored as its value, a record as a mapping, a date as its first moment, an
identifier as its text, a decimal in packed form, and every collection as a list. Keys of
mappings are stored as their texts; of keys with the same text the last value stays, at the place
of the first.

Values of other kinds are stored as they are. Only a decimal without a packed form has no stored
form.
-/

import DocFilter.Value.Display
import DocFilter.Value.Entries

namespace DocFilter.Value

mutual

/-- The stored form of a value. -/
def stored : Value → Except Fault Value
  | .record fields => do return .mapping (Entries.ofNamed (← storedFields fields))
  | .member _ _ value _ => stored value
  | .textMember _ _ value => return .text value
  | .intMember _ _ value => return .int value
  | .date value => return .moment (.ofDate value)
  | .uuid value => return .text value.write
  | .decimal value =>
    match Packed.pack value with
    | .ok value => return .packed value
    | .error error => throw (.packing error)
  | .mapping entries => do return .mapping (Entries.ofNamed (← storedEntries entries))
  | .list items | .tuple items | .set _ items => do return .list (← storedAll items)
  | value => return value

/-- The stored forms of all items. -/
def storedAll : List Value → Except Fault (List Value)
  | [] => return []
  | item :: items => do return (← stored item) :: (← storedAll items)

/-- The stored forms of all entries, each under the text of its key. -/
def storedEntries : List (Value × Value) → Except Fault (List (String × Value))
  | [] => return []
  | (key, value) :: entries => do
    return (key.plainText, ← stored value) :: (← storedEntries entries)

/-- The stored forms of all fields. -/
def storedFields : List (String × Value) → Except Fault (List (String × Value))
  | [] => return []
  | (name, value) :: fields => do return (name, ← stored value) :: (← storedFields fields)

end

end DocFilter.Value
