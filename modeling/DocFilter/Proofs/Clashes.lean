/-
# Values without an order between them

An order is asked for within one ordered bracket only, but being in one bracket does not mean having
an order. Moments with an offset have no order with moments without one. A date is in the bracket
of moments, because the kind of dates is called like that bracket, and a member of an enumeration
that is called like an ordered bracket is in that bracket; neither has an order with the values that
the bracket is meant for. These are all such values: any others of one bracket lie at points of one
order, unless one of them is a not-a-number.
-/

import DocFilter.Proofs.Retrieval
import DocFilter.Proofs.ScalarOrder

namespace DocFilter

open Binder (outcome)

namespace Value

variable {left right value : Value}

/-- Whether there is no order between two values whatever their brackets: of moments only one has an
offset, one is a moment and the other a date, or one is a member of an enumeration. -/
def isApartFrom : Value → Value → Bool
  | .moment one, .moment other => one.offset.isSome != other.offset.isSome
  | .moment _, .date _ | .date _, .moment _ => true
  | .member .., _ | _, .member .. => true
  | _, _ => false

theorem isApartFrom_comm (left right : Value) :
    left.isApartFrom right = right.isApartFrom left := by
  cases left <;> cases right <;> first | rfl | exact bne_comm

/-- Whether two values are in one ordered bracket and have no order. -/
def clashes (left right : Value) : Bool :=
  isOrderedBracket right.bracket && left.bracket == right.bracket && left.isApartFrom right

theorem clashes_eq_isApartFrom (ordered : isOrderedBracket right.bracket)
    (same : left.bracket = right.bracket) : left.clashes right = left.isApartFrom right := by
  rw [clashes, ordered, same, beq_self_eq_true, Bool.true_and, Bool.true_and]

/-- Values that are apart cannot be put in order. -/
theorem less_of_isApartFrom (apart : left.isApartFrom right) :
    left.normalized.less right.normalized = .error .unordered := by
  cases left with
  | moment one =>
    cases right with
    | moment other =>
      have unordered : one.compare? other = none := by
        rw [isApartFrom, bne_iff_ne] at apart
        rw [Moment.compare?]
        cases own : one.offset <;> cases others : other.offset <;> simp_all
      show (Value.moment one).less (.moment other) = _
      rw [less_moment, unordered]
      rfl
    | date | member => rfl
    | _ => cases apart
  | date date =>
    cases right with
    | moment | member => rfl
    | _ => cases apart
  | member enumeration name own declaration => cases right <;> rfl
  | _ =>
    cases right with
    | member => rfl
    | _ => cases apart

/-- The kinds of values in ordered brackets: those that lie at a point whatever moments are meant,
moments, dates, and members of an enumeration. -/
theorem kind_of_isOrderedBracket (ordered : isOrderedBracket value.bracket)
    (isNumber : value.isNotANumber = false) :
    (value.bracket ≠ "date" ∧ ∀ aware, value.isOrderedScalar aware) ∨
      (∃ moment, value = .moment moment) ∨ (∃ date, value = .date date) ∨
      ∃ enumeration name own declaration, value = .member enumeration name own declaration := by
  cases value with
  | moment moment => exact .inr (.inl ⟨moment, rfl⟩)
  | date date => exact .inr (.inr (.inl ⟨date, rfl⟩))
  | member => exact .inr (.inr (.inr ⟨_, _, _, _, rfl⟩))
  | bool | int | intMember | text | textMember => exact .inl ⟨by simp [bracket], fun _ => rfl⟩
  | float | decimal | packed =>
    exact .inl ⟨by simp [bracket], fun _ => by rw [isOrderedScalar, isNumber]; rfl⟩
  | set frozen items => cases frozen <;> cases ordered
  | _ => cases ordered

/-- Values of one ordered bracket that are not apart lie at points of one order, or they are
dates. -/
theorem scalars_or_dates (ordered : isOrderedBracket right.bracket)
    (same : left.bracket = right.bracket) (isNumber : left.isNotANumber = false)
    (isNumberToo : right.isNotANumber = false) (near : left.isApartFrom right = false) :
    (∃ aware, left.isOrderedScalar aware ∧ right.isOrderedScalar aware) ∨
      ∃ date other, left = .date date ∧ right = .date other := by
  rcases kind_of_isOrderedBracket (same ▸ ordered) isNumber with
    ⟨noDate, scalar⟩ | ⟨moment, rfl⟩ | ⟨date, rfl⟩ | ⟨enumeration, name, own, declaration, rfl⟩
  · rcases kind_of_isOrderedBracket ordered isNumberToo with
      ⟨-, scalarToo⟩ | ⟨moment, rfl⟩ | ⟨other, rfl⟩ | ⟨enumeration, name, own, declaration, rfl⟩
    · exact .inl ⟨true, scalar true, scalarToo true⟩
    · exact absurd same noDate
    · exact absurd same noDate
    · rw [isApartFrom_comm] at near
      cases left <;> cases near
  · rcases kind_of_isOrderedBracket ordered isNumberToo with
      ⟨noDate, -⟩ | ⟨other, rfl⟩ | ⟨date, rfl⟩ | ⟨enumeration, name, own, declaration, rfl⟩
    · exact absurd same.symm noDate
    · rw [isApartFrom, bne_eq_false_iff_eq] at near
      exact .inl ⟨other.offset.isSome, beq_iff_eq.mpr near, beq_iff_eq.mpr rfl⟩
    · cases near
    · cases near
  · rcases kind_of_isOrderedBracket ordered isNumberToo with
      ⟨noDate, -⟩ | ⟨moment, rfl⟩ | ⟨other, rfl⟩ | ⟨enumeration, name, own, declaration, rfl⟩
    · exact absurd same.symm noDate
    · cases near
    · exact .inr ⟨date, other, rfl, rfl⟩
    · cases near
  · cases right <;> cases near

/-- Values of one ordered bracket that are not apart can be put in order. -/
theorem exists_less_of_not_isApartFrom (ordered : isOrderedBracket right.bracket)
    (same : left.bracket = right.bracket) (isNumber : left.isNotANumber = false)
    (isNumberToo : right.isNotANumber = false) (near : left.isApartFrom right = false) :
    ∃ answer, left.normalized.less right.normalized = .ok answer := by
  rcases scalars_or_dates ordered same isNumber isNumberToo near with
    ⟨aware, scalar, scalarToo⟩ | ⟨date, other, rfl, rfl⟩
  · obtain ⟨first, atFirst⟩ := exists_liesAt scalar
    obtain ⟨second, atSecond⟩ := exists_liesAt scalarToo
    exact ⟨_, (atFirst.together atSecond same).less_eq⟩
  · exact ⟨_, rfl⟩

end Value

namespace Operator

open Value

/-- An order that is there between values of one ordered bracket just if they are not apart. -/
structure IsOrderUnlessApart (order : Value → Value → Except Fault Bool) : Prop where
  fails : ∀ left right : Value, left.isApartFrom right →
    order left.normalized right.normalized = .error .unordered
  answers : ∀ left right : Value, isOrderedBracket right.bracket → left.bracket = right.bracket →
    left.isNotANumber = false → right.isNotANumber = false → left.isApartFrom right = false →
    ∃ answer, order left.normalized right.normalized = .ok answer

theorem isOrderUnlessApart_less : IsOrderUnlessApart Value.less :=
  ⟨fun _ _ => less_of_isApartFrom, fun _ _ => exists_less_of_not_isApartFrom⟩

theorem isOrderUnlessApart_greater : IsOrderUnlessApart fun left right => right.less left where
  fails left right apart := less_of_isApartFrom (isApartFrom_comm left right ▸ apart)
  answers left right ordered same isNumber isNumberToo near :=
    exists_less_of_not_isApartFrom (same ▸ ordered) same.symm isNumberToo isNumber
      (isApartFrom_comm left right ▸ near)

variable {order : Value → Value → Except Fault Bool} {field operand : Value}

/-- Where an order is asked for, it is missing only if a candidate clashes with the operand. -/
theorem IsOrderUnlessApart.clash_of_isOrdered (isOrder : IsOrderUnlessApart order)
    (isNumber : operand.isNotANumber = false)
    (areNumbers : ∀ candidate ∈ field.candidates, candidate.isNotANumber = false) {fault : Fault}
    (failed : isOrdered order field operand = .error fault) :
    fault = .unordered ∧ ∃ candidate ∈ field.candidates, candidate.clashes operand := by
  rw [isOrdered] at failed
  obtain ⟨candidate, member, failed⟩ := ShortCircuit.exists_of_anyM_eq_error failed
  split at failed
  · next asked =>
    rw [Bool.and_eq_true, beq_iff_eq] at asked
    obtain ⟨ordered, same⟩ := asked
    cases apart : candidate.isApartFrom operand with
    | true =>
      rw [isOrder.fails candidate operand apart, Except.error.injEq] at failed
      exact ⟨failed.symm, candidate, member, (clashes_eq_isApartFrom ordered same).trans apart⟩
    | false =>
      obtain ⟨answer, answered⟩ :=
        isOrder.answers candidate operand ordered same (areNumbers candidate member) isNumber apart
      rw [answered] at failed
      cases failed
  · cases failed

/-- A value of an ordered bracket is its only candidate, so there is no way around its clash. -/
theorem IsOrderUnlessApart.isOrdered_of_clashes (isOrder : IsOrderUnlessApart order)
    (clash : field.clashes operand) : isOrdered order field operand = .error .unordered := by
  rw [clashes, Bool.and_eq_true, Bool.and_eq_true, beq_iff_eq] at clash
  obtain ⟨⟨ordered, same⟩, apart⟩ := clash
  rw [isOrdered, candidates_of_isOrderedBracket (same ▸ ordered), ShortCircuit.anyM_singleton,
    ordered, same, beq_self_eq_true]
  exact isOrder.fails field operand apart

/-- Without a not-a-number, asking for an order has an answer if no candidate clashes with the
operand. Where it has none, a candidate clashes with the operand and that is all that is at fault.
A value that is no list and clashes with the operand always is at fault. -/
theorem order_is_missing_only_in_clashes (operator : Operator)
    (isOrder : operator = greater ∨ operator = less) (field operand : Value)
    (isNumber : operand.isNotANumber = false)
    (areNumbers : ∀ candidate ∈ field.candidates, candidate.isNotANumber = false) :
    ((∀ candidate ∈ field.candidates, candidate.clashes operand = false) →
      ∃ answer, operator.evaluate field operand = .ok answer) ∧
    (∀ fault, operator.evaluate field operand = .error fault →
      fault = .unordered ∧ ∃ candidate ∈ field.candidates, candidate.clashes operand) ∧
    (field.clashes operand → operator.evaluate field operand = .error .unordered) := by
  obtain ⟨order, unlessApart, evaluate⟩ : ∃ order, IsOrderUnlessApart order ∧
      operator.evaluate = isOrdered order := by
    rcases isOrder with rfl | rfl
    · exact ⟨_, isOrderUnlessApart_greater, rfl⟩
    · exact ⟨_, isOrderUnlessApart_less, rfl⟩
  rw [evaluate]
  refine ⟨fun none => ?_, fun fault => unlessApart.clash_of_isOrdered isNumber areNumbers,
    unlessApart.isOrdered_of_clashes⟩
  cases result : isOrdered order field operand with
  | ok answer => exact ⟨answer, rfl⟩
  | error fault =>
    obtain ⟨-, candidate, member, clash⟩ :=
      unlessApart.clash_of_isOrdered isNumber areNumbers result
    rw [none candidate member] at clash
    cases clash

/-- A list of dates and moments. -/
def days : Value :=
  .list [.date ⟨2024, 5, 2⟩, .moment (.ofDate ⟨2024, 5, 3⟩)]

/-- Among dates and moments the dates clash with a moment, and nothing clashes with a number. -/
theorem order_is_missing_only_in_clashes_days :
    (∃ answer, greater.evaluate days (.int 5) = .ok answer) ∧
      ∀ fault, less.evaluate days (.moment (.ofDate ⟨2024, 5, 1⟩)) = .error fault →
        fault = .unordered := by
  have areNumbers : ∀ candidate ∈ days.candidates, candidate.isNotANumber = false := by decide
  have noClash : ∀ candidate ∈ days.candidates, candidate.clashes (.int 5) = false := by decide
  exact ⟨(order_is_missing_only_in_clashes greater (.inl rfl) _ _ rfl areNumbers).1 noClash,
    fun fault failed =>
      ((order_is_missing_only_in_clashes less (.inr rfl) _ _ rfl areNumbers).2.1 fault failed).1⟩

end Operator

/-- A date is compared as the first moment of its day, but a date in a document stays a date: it is
in the bracket of the moment and has no order with it. -/
theorem Criteria.matchesDocument_born_unordered :
    ∃ clause filter final,
      (ClauseForm.ofDotted "born" (.text "greater_than")).build = .ok clause ∧
      outcome ((⟨[⟨clause, []⟩]⟩ : Criteria).compile .document {})
        (.ofValues [.date ⟨2024, 5, 1⟩]) = (.ok filter, final) ∧
      (Value.date ⟨2024, 5, 2⟩).bracket = (Value.moment (.ofDate ⟨2024, 5, 1⟩)).bracket ∧
      Operator.greater.evaluate (.date ⟨2024, 5, 2⟩) (.moment (.ofDate ⟨2024, 5, 1⟩)) =
        .error .unordered ∧
      filter.matchesDocument (.mapping [(.text "born", .date ⟨2024, 5, 2⟩)]) =
        .error .unordered := by
  have isPath : IsPath ["born"] := by decide
  refine ⟨⟨["born"], .known .greaterThan, isPath⟩, .ofValue (Draft.disjunctionOf
    [[⟨"born", [("$gt", .moment (.ofDate ⟨2024, 5, 1⟩))]⟩]]), _, rfl, rfl, rfl, rfl, ?_⟩
  rw [Term.matchesDocument_alone (by decide), Term.holds_of_single ⟨.greaterThan, rfl⟩]
  rfl

end DocFilter
