/-
# What can go wrong

A query error is reported to whoever wrote a query: it has a message and details. A fault is
anything that stops an operation: a query error, or a value that an operation is not defined for.
-/

import DocFilter.Number.Packed
import DocFilter.Pattern.Error
import DocFilter.Text.Similarity

namespace DocFilter

open Text

/-- An error in how a query is written or supplied with values. -/
inductive QueryError
  /-- An operator outside the supported ones. -/
  | unsupportedOperator (operator : String) (supported : List String)
  /-- No value was left for a field after so many had been taken. -/
  | valuesExhausted (consumed : Int) (field : Option String)
  /-- A clause or a list of clauses is malformed. -/
  | invalidClause (message : String) (path : Option String)
  /-- A sort order cannot be understood. -/
  | invalidSort (message : String)
  /-- Any other error. -/
  | general (message : String)
  deriving DecidableEq, Repr

namespace QueryError

/-- The texts in rising order. -/
def sorted (texts : List String) : List String :=
  texts.mergeSort fun left right => left ≤ right

/-- The operators that may have been meant. -/
def suggestions (operator : String) (supported : List String) : List String :=
  Similarity.closest operator supported

/-- The error in words. -/
def message : QueryError → String
  | .unsupportedOperator operator supported =>
    let close := suggestions operator supported
    "Unsupported operator: '" ++ operator ++ "'." ++
      (if close.isEmpty then "" else " Did you mean: " ++ ", ".intercalate close ++ "?") ++
      " Supported operators: " ++ ", ".intercalate (sorted supported)
  | .valuesExhausted consumed field =>
    "Parameter cursor exhausted after " ++ Numeral.integer consumed ++ " value(s)" ++
      match field with
      | none | some "" => ""
      | some field => " while binding '" ++ field ++ "'"
  | .invalidClause message _ => message
  | .invalidSort message => message
  | .general message => message

end QueryError

/-- What stops an operation. -/
inductive Fault
  | query (error : QueryError)
  /-- A converter refused a value. -/
  | refusedValue (message : String)
  /-- A decimal has no packed form. -/
  | packing (error : PackingError)
  | malformedPattern (malformed : Pattern.Malformed)
  /-- A pattern over bytes was searched for in a text. -/
  | binaryPattern
  /-- A match has a group that ends before it begins. -/
  | crossedGroup
  /-- Two values of one bracket have no order. -/
  | unordered
  /-- A comparison with a not-a-number has no answer. -/
  | undefinedComparison
  /-- A value was expected that can be gone through element by element. -/
  | notIterable
  /-- A query was expected, which is a mapping. -/
  | notMapping
  /-- A key of a query is no path. -/
  | notPath
  /-- A key of a query is a path in bytes. -/
  | binaryPath
  /-- An attribute stands where an operation was expected. -/
  | notOperation
  /-- A value cannot be a key of a mapping or an item of a set. -/
  | notKey
  /-- A filter is made of pairs, and there is something else among them. -/
  | notPair
  /-- There is no entry under a key. -/
  | missingKey
  /-- A filter cannot be changed, nor can a value that is no mapping take an entry. -/
  | notAssignable
  /-- A word is no comparison keyword. -/
  | unknownKeyword
  deriving DecidableEq, Repr

end DocFilter
