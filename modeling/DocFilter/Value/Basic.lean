/-
# Values

The values that parameters, documents and filters are made of. Besides the plain data of documents
there are the values of a richer domain: members of enumerations, records, objects with
attributes, compiled patterns, a marker for what is absent from a document, and objects of which
nothing is known.

Entries of a mapping keep the order in which their keys were first inserted.
-/

import DocFilter.Calendar.Moment
import DocFilter.Number.Mixed
import DocFilter.Pattern.Compiled
import DocFilter.Uuid

namespace DocFilter

/-- A value. -/
inductive Value
  | null
  | bool (value : Bool)
  | int (value : Int)
  | float (value : Binary64)
  | decimal (value : Decimal)
  | packed (value : Packed)
  | text (value : String)
  | bytes (value : List UInt8)
  | moment (value : Moment)
  | date (value : Date)
  | uuid (value : Uuid)
  | pattern (value : CompiledPattern)
  | list (items : List Value)
  | tuple (items : List Value)
  /-- A set that may or may not be frozen. -/
  | set (frozen : Bool) (items : List Value)
  | mapping (entries : List (Value × Value))
  /-- A member of an enumeration, which is nothing but itself: of two declarations each makes a
  member of its own, however alike they are. -/
  | member (enumeration name : String) (value : Value) (declaration : String)
  /-- A member of an enumeration that is also a text. -/
  | textMember (enumeration name : String) (text : String)
  /-- A member of an enumeration that is also a whole number. -/
  | intMember (enumeration name : String) (number : Int)
  /-- A record with named fields. -/
  | record (fields : List (String × Value))
  /-- An object of which only the attributes are known. -/
  | object (attributes : List (String × Value))
  /-- What is found where a document has nothing. -/
  | absent
  /-- An object of which nothing is known but that it is not any other. -/
  | stranger

namespace Value

/-- The number that a value is. A truth value counts as one or zero. -/
def number? : Value → Option Number
  | .bool value => some (.whole (if value then 1 else 0))
  | .int value => some (.whole value)
  | .float value => some (.binary value)
  | .decimal value => some (.decimal value)
  | .intMember _ _ number => some (.whole number)
  | _ => none

/-- The text that a value is. -/
def text? : Value → Option String
  | .text value => some value
  | .textMember _ _ value => some value
  | _ => none

/-- Whether a value counts as true: it is neither nothing, nor zero, nor empty. -/
def truthy : Value → Bool
  | .null => false
  | .bool value => value
  | .int value | .intMember _ _ value => value != 0
  | .float (.finite _ mantissa _ _) => mantissa != 0
  | .decimal (.finite _ coefficient _) => coefficient != 0
  | .text value | .textMember _ _ value => value != ""
  | .bytes value => !value.isEmpty
  | .list items | .tuple items | .set _ items => !items.isEmpty
  | .mapping entries => !entries.isEmpty
  | _ => true

end Value

end DocFilter
