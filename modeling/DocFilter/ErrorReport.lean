/-
# Error reports

The details that a query error reports besides its message.
-/

import DocFilter.Fault
import DocFilter.Value.Basic

namespace DocFilter.QueryError

/-- A text, or nothing. -/
def optionalText (text : Option String) : Value :=
  (text.map Value.text).getD .null

/-- The details of an error by their names; the first says what kind of error it is. -/
def details (error : QueryError) : List (String × Value) :=
  match error with
  | .unsupportedOperator operator supported =>
    [("error", .text "UNSUPPORTED_OPERATOR"), ("operator", .text operator),
      ("suggestions", .list ((suggestions operator supported).map Value.text)),
      ("valid_operators", .list ((sorted supported).map Value.text))]
  | .valuesExhausted consumed field =>
    [("error", .text "PARAMETER_UNDERFLOW"), ("consumed", .int consumed),
      ("field", optionalText field)]
  | .invalidClause message path =>
    [("error", .text "INVALID_CLAUSE"), ("message", .text message), ("path", optionalText path)]
  | .invalidSort message => [("error", .text "InvalidSortError"), ("message", .text message)]
  | .general message => [("error", .text "DerivedQueryError"), ("message", .text message)]

end DocFilter.QueryError
