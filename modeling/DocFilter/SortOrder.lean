/-
# Sort orders

A sort order lists fields, each with a direction. It does not take part in filtering.
-/

import DocFilter.Fault
import DocFilter.Value.Display

namespace DocFilter

/-- The direction of a field in a sort order. -/
inductive Direction
  | ascending
  | descending
  deriving DecidableEq, Repr

namespace Direction

/-- The word of a direction. -/
def word : Direction → String
  | .ascending => "asc"
  | .descending => "desc"

/-- The number that stands for a direction in a data store. -/
def factor : Direction → Int
  | .ascending => 1
  | .descending => -1

/-- The direction that the text of a value names, in letters of either case. -/
def ofValue (value : Value) : Except Fault Direction :=
  match (value.plainText.map Char.toLower) with
  | "asc" => return .ascending
  | "desc" => return .descending
  | _ =>
    throw <| .query <| .invalidSort <|
      "Unknown sort direction " ++ value.display ++ "; expected 'asc' or 'desc'"

end Direction

/-- How a direction is given: as itself, or by a value whose text names it. -/
inductive DirectionForm
  | fixed (direction : Direction)
  | named (word : Value)

/-- The direction that is given. -/
def DirectionForm.resolve : DirectionForm → Except Fault Direction
  | .fixed direction => return direction
  | .named word => Direction.ofValue word

/-- Fields with their directions, the most important first. -/
structure SortOrder where
  orders : List (String × Direction) := []
  deriving DecidableEq, Repr

namespace SortOrder

/-- The order that a name asks for: descending if a hyphen stands in front. -/
def ofName (name : String) : String × Direction :=
  match name.toList with
  | '-' :: field => (String.ofList field, .descending)
  | _ => (name, .ascending)

/-- The sort order that names ask for. -/
def ofNames (names : List String) : SortOrder :=
  ⟨names.map ofName⟩

/-- The sort order of fields with given directions. -/
def ofPairs (pairs : List (String × DirectionForm)) : Except Fault SortOrder := do
  return ⟨← pairs.mapM fun (field, form) => do return (field, ← form.resolve)⟩

/-- Whether a sort order asks for anything. -/
def isSpecified (order : SortOrder) : Bool :=
  !order.orders.isEmpty

/-- The sort order as pairs of a field and a number. -/
def toPairs (order : SortOrder) : List (String × Int) :=
  order.orders.map fun (field, direction) => (field, direction.factor)

end SortOrder

end DocFilter
