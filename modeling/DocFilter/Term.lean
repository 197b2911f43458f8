/-
# Terms

A term is what a clause is compiled to: a field, and operators with their operands.
-/

import DocFilter.Binding
import DocFilter.Clause
import DocFilter.Pattern.Wildcard
import DocFilter.Value.Copied

namespace DocFilter

/-- How clauses are compiled. -/
structure Options where
  /-- Whether the chunks of a wildcard text stand for themselves. -/
  literalWildcards : Bool := false
  /-- Whether finished filters are reported. -/
  traceQueries : Bool := true
  deriving DecidableEq, Repr

/-- Conditions on one field. -/
structure Term where
  field : String
  conditions : List (String × Value)

namespace Term

/-- The term's entry in a filter, with copies of the operands. An operator that occurs again keeps
its first place and takes the later operand. -/
def entry (term : Term) : Value × Value :=
  (.text term.field, .mapping (Entries.ofNamed (Value.copiedFields term.conditions)))

/-- The filter that consists of the term alone. -/
def document (term : Term) : Value :=
  .mapping [term.entry]

end Term

namespace Keyword

/-- Binds the values that a keyword takes and makes its conditions. The lower bound of a range
comes first, and a test for null takes no value. -/
def conditions (converter : Converter) (options : Options) (field : String) :
    Keyword → Binder (List (String × Value))
  | .equals => do return [("$eq", ← Binder.nextConverted converter field)]
  | .notEquals => do return [("$ne", ← Binder.nextConverted converter field)]
  | .greaterThan => do return [("$gt", ← Binder.nextConverted converter field)]
  | .lessThan => do return [("$lt", ← Binder.nextConverted converter field)]
  | .between => do
    let lower ← Binder.nextConverted converter field
    let upper ← Binder.nextConverted converter field
    return [("$gt", lower), ("$lt", upper)]
  | .like => do
    let value ← Binder.nextConverted converter field
    return [("$regex", .text (Wildcard.pattern options.literalWildcards value.plainText))]
  | .isNull => return [("$eq", .null)]
  | .isNotNull => return [("$ne", .null)]

end Keyword

namespace Clause

/-- Compiles a clause, binding the values it takes. A clause without a keyword takes none. -/
def compile (converter : Converter) (options : Options) (clause : Clause) : Binder Term :=
  match clause.comparison with
  | .known keyword => do
    return ⟨clause.field, ← keyword.conditions converter options clause.field⟩
  | .unknown tag =>
    throw (.query (.unsupportedOperator tag.plainText (Keyword.all.map Keyword.word)))

end Clause

end DocFilter
