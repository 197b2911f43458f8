/-
# Comparison keywords

The comparisons that a clause can make. Each takes a fixed number of values.
-/

import DocFilter.Fault
import DocFilter.Value.Basic

namespace DocFilter

/-- What a clause asks of its field. -/
inductive Keyword
  | equals
  | notEquals
  | greaterThan
  | lessThan
  | between
  | like
  | isNull
  | isNotNull
  deriving DecidableEq, Repr

namespace Keyword

/-- All keywords. -/
def all : List Keyword :=
  [.greaterThan, .lessThan, .between, .isNotNull, .isNull, .like, .equals, .notEquals]

/-- The word that a keyword is written as. -/
def word : Keyword → String
  | .equals => "equals"
  | .notEquals => "not_equals"
  | .greaterThan => "greater_than"
  | .lessThan => "less_than"
  | .between => "between"
  | .like => "like"
  | .isNull => "is_null"
  | .isNotNull => "is_not_null"

/-- The name of a keyword as a constant. -/
def name : Keyword → String
  | .equals => "EQUALS"
  | .notEquals => "NOT_EQUALS"
  | .greaterThan => "GREATER_THAN"
  | .lessThan => "LESS_THAN"
  | .between => "BETWEEN"
  | .like => "LIKE"
  | .isNull => "IS_NULL"
  | .isNotNull => "IS_NOT_NULL"

/-- How many values a keyword takes. -/
def arity : Keyword → Nat
  | .between => 2
  | .isNull | .isNotNull => 0
  | _ => 1

/-- The keyword that a word writes. -/
def ofWord? (word : String) : Option Keyword :=
  all.find? fun keyword => keyword.word == word

/-- The keyword that a value is; only texts are keywords. -/
def ofValue (value : Value) : Except Fault Keyword :=
  match value.text?.bind ofWord? with
  | some keyword => return keyword
  | none => throw .unknownKeyword

/-- No keyword is left out of the list of all. -/
@[simp]
theorem mem_all (keyword : Keyword) : keyword ∈ all := by
  cases keyword <;> decide

/-- Every keyword is read from its word. -/
theorem ofWord?_word (keyword : Keyword) : ofWord? keyword.word = some keyword := by
  cases keyword <;> rfl

end Keyword

end DocFilter
