/-
# Brackets

Values are compared only with values of their own bracket. A bracket is known by its name. The
kinds of values that have no bracket of their own have one by the name of the kind, so a calendar
date shares a bracket with moments, and a member of an enumeration has a bracket by the
enumeration's name, which may be the name of another bracket.
-/

import DocFilter.Value.Equality

namespace DocFilter.Value

/-- A packed decimal counts as the decimal it holds. -/
def normalized : Value → Value
  | .packed value => .decimal value.number
  | value => value

/-- The name of a value's bracket. -/
def bracket : Value → String
  | .null | .absent => "null"
  | .bool _ => "bool"
  | .int _ | .float _ | .decimal _ | .packed _ | .intMember .. => "number"
  | .text _ | .textMember .. => "string"
  | .moment _ => "date"
  | .mapping _ => "object"
  | .list _ | .tuple _ => "array"
  | .bytes _ => "bytes"
  | .date _ => "date"
  | .uuid _ => "UUID"
  | .pattern _ => "Pattern"
  | .set frozen _ => if frozen then "frozenset" else "set"
  | .member enumeration .. => enumeration
  | .record _ => "Model"
  | .object _ => "SimpleNamespace"
  | .stranger => "object"

/-- Whether the values of a bracket are ordered. -/
def isOrderedBracket (name : String) : Bool :=
  ["number", "string", "date", "bool"].contains name

/-- What a condition is tested on: the value of a field and, if it is a list, each of its
items. -/
def candidates : Value → List Value
  | .list items => .list items :: items
  | value => [value]

/-- Whether there is nothing: null, or what is absent. -/
def isNothing : Value → Bool
  | .null | .absent => true
  | _ => false

/-- Whether a field equals an operand. What is absent equals null, and nothing equals a value of
another bracket. -/
def meets (field operand : Value) : Except Fault Bool :=
  match operand with
  | .null => return field.isNothing
  | operand =>
    if field.bracket = operand.bracket then field.normalized.equal operand.normalized
    else return false

/-- Whether the first of two values of one bracket comes before the second. -/
def less (left right : Value) : Except Fault Bool :=
  match left.number?, right.number? with
  | some leftNumber, some rightNumber =>
    match leftNumber.less? rightNumber with
    | some answer => return answer
    | none => throw .undefinedComparison
  | _, _ =>
    match left.text?, right.text? with
    | some leftText, some rightText => return leftText < rightText
    | _, _ =>
      match left, right with
      | .moment leftMoment, .moment rightMoment =>
        match leftMoment.compare? rightMoment with
        | some order => return order == .lt
        | none => throw .unordered
      | .date leftDate, .date rightDate => return leftDate.ordinal < rightDate.ordinal
      | _, _ => throw .unordered

end DocFilter.Value
