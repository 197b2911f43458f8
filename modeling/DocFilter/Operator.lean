/-
# Operators

An operator tests the value of a field against an operand. Equality and order are tested on the
value itself and, if it is a list, on each of its items: one that passes is enough. Order is tested
only among values of one ordered bracket. A pattern is searched for in texts, and it is read even
if there is no text to search.
-/

import DocFilter.Value.Bracket
import DocFilter.Value.Display

namespace DocFilter

/-- A test of a field against an operand, under the name that filters know it by. -/
structure Operator where
  name : String
  evaluate : Value → Value → Except Fault Bool

namespace Operator

/-- Whether the field or one of its items equals the operand. -/
def isEqual (field operand : Value) : Except Fault Bool :=
  field.candidates.anyM fun candidate => candidate.meets operand

/-- Whether the field or one of its items stands in an order to the operand. Candidates of another
bracket are passed over. -/
def isOrdered (order : Value → Value → Except Fault Bool) (field operand : Value) :
    Except Fault Bool :=
  let bracket := operand.bracket
  field.candidates.anyM fun candidate =>
    if Value.isOrderedBracket bracket && candidate.bracket == bracket then
      order candidate.normalized operand.normalized
    else return false

/-- Searches for a pattern in the field or in one of its items. -/
def searchEach (search : String → Except Fault Bool) (field : Value) : Except Fault Bool :=
  field.candidates.anyM fun candidate =>
    match candidate.text? with
    | some text => search text
    | none => return false

/-- The pattern that an operand is or that its text writes. -/
def patternOf : Value → Except Fault CompiledPattern
  | .pattern pattern => return pattern
  | operand => CompiledPattern.compile (.text operand.plainText)

/-- Whether the pattern that the operand is, or that its text writes, occurs in the field or in one
of its items. -/
def hasMatch (field operand : Value) : Except Fault Bool := do
  let pattern ← patternOf operand
  searchEach pattern.occursIn field

/-- Equality. -/
def equal : Operator := ⟨"$eq", isEqual⟩

/-- The opposite of equality. -/
def notEqual : Operator := ⟨"$ne", fun field operand => return !(← isEqual field operand)⟩

/-- Being greater than the operand. -/
def greater : Operator := ⟨"$gt", isOrdered fun left right => right.less left⟩

/-- Being less than the operand. -/
def less : Operator := ⟨"$lt", isOrdered Value.less⟩

/-- Holding a match of a pattern. -/
def regex : Operator := ⟨"$regex", hasMatch⟩

end Operator

end DocFilter
