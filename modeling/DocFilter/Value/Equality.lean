/-
# Equality of values

Numbers are equal by their exact values, whatever their kinds, and a member of an enumeration that
is also a text or a number is equal to that. Lists, tuples, sets, mappings and objects are compared
part by part; the order of entries and whether a set is frozen do not matter. Records are compared
in the same way if they have the same fields in the same order. All other values are equal only to
values of their own kind. A packed decimal inside another value keeps its representation and never
equals a number.

Equality can fail to have an answer, because a signalling not-a-number has none. So it matters
which parts are compared first: lists and tuples go from left to right as long as the parts are
equal, lists only after their lengths and tuples before, and mappings in the order of the entries of
the value that leads. For the values of a mapping the lead goes to the other side.
-/

import DocFilter.Fault
import DocFilter.Value.Basic

namespace DocFilter

namespace Value

/-- Comparing one part of a value with a part of another. -/
abbrev Test := Value → Except Fault Bool

/-- The tests that one entry of a mapping sets: one for a key and one for a value. -/
structure EntryTest where
  key : Test
  value : Test

/-- Whether a test is passed; a test without an answer is not. -/
def Test.passes (test : Test) (value : Value) : Bool :=
  match test value with
  | .ok answer => answer
  | .error _ => false

/-- Runs tests from left to right up to the first that fails. -/
def allPass : List Test → List Value → Except Fault Bool
  | test :: tests, value :: values => do
    if ← test value then allPass tests values else return false
  | _, _ => return true

/-- Compares the entries of a mapping, given by their tests, with those of another. The entries of
the leading side are taken in order, and each looks for its key on the other side. -/
def entriesPass (leads : Bool) (tests : List EntryTest) (entries : List (Value × Value)) :
    Except Fault Bool :=
  if tests.length ≠ entries.length then return false
  else if leads then
    tests.foldr (fun test rest => do
      match entries.find? fun entry => test.key.passes entry.1 with
      | none => return false
      | some entry => if ← test.value entry.2 then rest else return false) (return true)
  else
    entries.foldr (fun entry rest => do
      match tests.find? fun test => test.key.passes entry.1 with
      | none => return false
      | some test => if ← test.value entry.2 then rest else return false) (return true)

/-- Compares two numbers. -/
def numbersEqual (left right : Number) : Except Fault Bool :=
  match left.equal? right with
  | some answer => return answer
  | none => throw .undefinedComparison

/-- Compares values that have no parts. -/
def plainEqual (left right : Value) : Except Fault Bool :=
  match left.number?, right.number? with
  | some leftNumber, some rightNumber => numbersEqual leftNumber rightNumber
  | _, _ =>
    match left, right with
    | .null, .null => return true
    | .absent, .absent => return true
    | .packed left, .packed right => return left == right
    | .bytes left, .bytes right => return left == right
    | .moment left, .moment right => return left.compare? right == some .eq
    | .date left, .date right => return left == right
    | .uuid left, .uuid right => return left == right
    | .pattern left, .pattern right => return left == right
    | .member leftKind leftName _ left, .member rightKind rightName _ right =>
      return leftKind == rightKind && leftName == rightName && left == right
    | left, right =>
      match left.text?, right.text? with
      | some leftText, some rightText => return leftText == rightText
      | _, _ => return false

/-- The fields of a record as entries. -/
def fieldEntries (fields : List (String × Value)) : List (Value × Value) :=
  fields.map fun (name, value) => (.text name, value)

mutual

/-- Compares a value with another one; `leads` says whether the first one leads. -/
def equalWith (leads : Bool) : Value → Test
  | .list items, .list others =>
    if items.length = others.length then allPass (itemTests leads items) others else return false
  | .tuple items, .tuple others => do
    if ← allPass (itemTests leads items) others then return items.length == others.length
    else return false
  | .set _ items, .set _ others =>
    return items.length == others.length &&
      (itemTests leads items).all fun test => others.any test.passes
  | .mapping entries, .mapping others => entriesPass leads (entryTests leads entries) others
  | .record fields, .record others =>
    if fields.map (·.1) = others.map (·.1) then
      entriesPass leads (fieldTests leads fields) (fieldEntries others)
    else return false
  | .object attributes, .object others =>
    entriesPass leads (fieldTests leads attributes) (fieldEntries others)
  | value, other => plainEqual value other

/-- The tests that the items of a list set. -/
def itemTests (leads : Bool) : List Value → List Test
  | [] => []
  | item :: items => equalWith leads item :: itemTests leads items

/-- The tests that the entries of a mapping set. -/
def entryTests (leads : Bool) : List (Value × Value) → List EntryTest
  | [] => []
  | (key, value) :: entries =>
    ⟨equalWith true key, equalWith (!leads) value⟩ :: entryTests leads entries

/-- The tests that the fields of a record set. -/
def fieldTests (leads : Bool) : List (String × Value) → List EntryTest
  | [] => []
  | (name, value) :: fields =>
    ⟨plainEqual (.text name), equalWith (!leads) value⟩ :: fieldTests leads fields

end

/-- Whether two values are equal. -/
def equal (left right : Value) : Except Fault Bool :=
  equalWith true left right

/-- Whether two keys of mappings are the same key. -/
def isSameKey (left right : Value) : Bool :=
  Test.passes (equalWith true left) right

end Value

end DocFilter
