/-
# Elements and attributes

Some values can be gone through element by element: collections, texts by their characters, bytes
by their numbers, mappings by their keys, and records by pairs of a name and a value. Some values
have attributes of their own, which hide the operations that values of their kind have.
-/

import DocFilter.Value.Basic

namespace DocFilter.Value

/-- The characters of a text, each as a text of its own. -/
def characters (value : String) : List Value :=
  value.toList.map fun c => .text (String.ofList [c])

/-- The elements that a value is gone through by. -/
def elements? : Value → Option (List Value)
  | .list items | .tuple items | .set _ items => some items
  | .text value => some (characters value)
  | .textMember _ _ value => some (characters value)
  | .bytes value => some (value.map fun byte => .int byte.toNat)
  | .mapping entries => some (entries.map (·.1))
  | .record fields => some (fields.map fun (name, value) => .tuple [.text name, value])
  | _ => none

/-- Whether a value has an attribute of its own under a name. The only one of a member of an
enumeration is the member itself, under its name. -/
def hasAttribute (name : String) : Value → Bool
  | .record fields | .object fields => fields.any (·.1 == name)
  | .member _ own _ _ | .textMember _ own _ | .intMember _ own _ => own == name
  | _ => false

end DocFilter.Value
