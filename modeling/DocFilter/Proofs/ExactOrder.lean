/-
# The exact order of numbers

Scaled numbers are compared without writing them out: by their signs, by the positions of their
leading digits, and only then over a common exponent. Each of the three steps is sound for the
rational numbers that scaled numbers stand for, so the comparison is the order of the rationals. It
sees nothing of how a number is spread over its coefficient and its exponent, and neither do
equality and order of numbers of any kind.
-/

import DocFilter.Number.Mixed
import Mathlib.Algebra.Order.Field.Power
import Mathlib.Algebra.Order.Ring.Rat
import Mathlib.Data.Rat.Cast.Order
import Mathlib.Order.Compare
import Mathlib.Order.WithBot
import Mathlib.Tactic.NormNum
import Mathlib.Tactic.Positivity

namespace DocFilter

/-- A power of ten is what it is called unless its exponent is negative. -/
theorem powerOfTen_eq_zpow {exponent : Int} (natural : 0 ≤ exponent) :
    (powerOfTen exponent : ℚ) = 10 ^ exponent := by
  obtain ⟨size, rfl⟩ := Int.eq_ofNat_of_zero_le natural
  simp [powerOfTen]

namespace Scaled

/-- The rational number that a scaled number is. -/
def value (number : Scaled) : ℚ :=
  number.coefficient * 10 ^ number.exponent

/-! ## Signs -/

theorem value_pos_iff {number : Scaled} : 0 < number.value ↔ 0 < number.coefficient := by
  have unit : (0 : ℚ) < 10 ^ number.exponent := by positivity
  rw [value, mul_pos_iff_of_pos_right unit, Int.cast_pos]

theorem value_neg_iff {number : Scaled} : number.value < 0 ↔ number.coefficient < 0 := by
  have unit : (0 : ℚ) < 10 ^ number.exponent := by positivity
  rw [value, mul_neg_iff]
  simp [unit, unit.not_gt]

/-- A number of a lesser sign is less. -/
theorem value_lt_of_sign_lt {left right : Scaled}
    (signs : left.coefficient.sign < right.coefficient.sign) : left.value < right.value := by
  have apart : left.coefficient < 0 ∧ ¬ right.coefficient < 0 ∨
      ¬ 0 < left.coefficient ∧ 0 < right.coefficient := by
    grind [Int.sign_eq_one_of_pos, Int.sign_eq_neg_one_of_neg]
  rcases apart with ⟨negative, notNegative⟩ | ⟨notPositive, positive⟩
  · have bound := not_lt.mp (value_neg_iff.not.mpr notNegative)
    exact (value_neg_iff.mpr negative).trans_le bound
  · have bound := not_lt.mp (value_pos_iff.not.mpr notPositive)
    exact bound.trans_lt (value_pos_iff.mpr positive)

/-! ## Positions of the leading digits -/

theorem lt_ten_pow_digitCount (number : Nat) : number < 10 ^ digitCount number :=
  (Nat.length_toDigits_le_iff (by decide) Nat.length_toDigits_pos).mp le_rfl

theorem ten_pow_digitCount_le {number : Nat} (nonzero : number ≠ 0) :
    10 ^ (digitCount number - 1) ≤ number := by
  have some : 0 < digitCount number := Nat.length_toDigits_pos
  by_cases single : digitCount number = 1
  · rw [single]
    exact Nat.one_le_iff_ne_zero.mpr nonzero
  · by_contra short
    have fewer := (Nat.length_toDigits_le_iff (by decide) (by omega)).mpr (not_le.mp short)
    have same : (Nat.toDigits 10 number).length = digitCount number := rfl
    omega

theorem abs_value (number : Scaled) :
    |number.value| = number.coefficient.natAbs * 10 ^ number.exponent := by
  have unit : (0 : ℚ) < 10 ^ number.exponent := by positivity
  rw [value, abs_mul, abs_of_pos unit, Nat.cast_natAbs, Int.cast_abs]

theorem abs_value_lt (number : Scaled) : |number.value| < 10 ^ number.height := by
  have digits : (number.coefficient.natAbs : ℚ) < 10 ^ digitCount number.coefficient.natAbs := by
    exact_mod_cast lt_ten_pow_digitCount number.coefficient.natAbs
  rw [abs_value, height, zpow_add₀ (by norm_num), zpow_natCast]
  exact mul_lt_mul_of_pos_right digits (by positivity)

theorem le_abs_value {number : Scaled} (nonzero : number.coefficient ≠ 0) :
    10 ^ (number.height - 1) ≤ |number.value| := by
  have digits : (10 : ℚ) ^ (digitCount number.coefficient.natAbs - 1) ≤
      number.coefficient.natAbs := by
    exact_mod_cast ten_pow_digitCount_le (Int.natAbs_ne_zero.mpr nonzero)
  have some : 0 < digitCount number.coefficient.natAbs := Nat.length_toDigits_pos
  have exponents : number.height - 1 =
      (digitCount number.coefficient.natAbs - 1 : Nat) + number.exponent := by
    rw [height]
    omega
  rw [abs_value, exponents, zpow_add₀ (by norm_num), zpow_natCast]
  exact mul_le_mul_of_nonneg_right digits (by positivity)

/-- A number whose leading digit stands further to the left is the larger in size. -/
theorem abs_value_lt_of_height_lt {left right : Scaled} (nonzero : right.coefficient ≠ 0)
    (heights : left.height < right.height) : |left.value| < |right.value| :=
  calc |left.value| < 10 ^ left.height := left.abs_value_lt
    _ ≤ 10 ^ (right.height - 1) := zpow_le_zpow_right₀ (by norm_num) (by omega)
    _ ≤ |right.value| := le_abs_value nonzero

/-- Of two numbers of one sign the order is that of their signed heights, if these differ. -/
theorem value_lt_of_height_lt {left right : Scaled}
    (signs : left.coefficient.sign = right.coefficient.sign)
    (heights : left.coefficient.sign * left.height < right.coefficient.sign * right.height) :
    left.value < right.value := by
  rcases lt_trichotomy left.coefficient 0 with negative | zero | positive
  · have leftSign := Int.sign_eq_neg_one_of_neg negative
    have other : right.coefficient < 0 := Int.sign_eq_neg_one_iff_neg.mp (signs ▸ leftSign)
    rw [← signs, leftSign] at heights
    have sizes := abs_value_lt_of_height_lt negative.ne (show right.height < left.height by omega)
    rw [abs_of_neg (value_neg_iff.mpr negative), abs_of_neg (value_neg_iff.mpr other)] at sizes
    exact neg_lt_neg_iff.mp sizes
  · rw [← signs, zero] at heights
    simp at heights
  · have leftSign := Int.sign_eq_one_of_pos positive
    have other : 0 < right.coefficient := Int.sign_eq_one_iff_pos.mp (signs ▸ leftSign)
    rw [← signs, leftSign] at heights
    have sizes := abs_value_lt_of_height_lt other.ne' (show left.height < right.height by omega)
    rwa [abs_of_pos (value_pos_iff.mpr positive), abs_of_pos (value_pos_iff.mpr other)] at sizes

/-! ## A common exponent -/

theorem value_eq_coefficientOver (number : Scaled) {exponent : Int}
    (lower : exponent ≤ number.exponent) :
    number.value = number.coefficientOver exponent * 10 ^ exponent := by
  rw [value, coefficientOver]
  split
  · next zero => rw [zero, Int.cast_zero, zero_mul, zero_mul]
  · have natural : 0 ≤ number.exponent - exponent := by omega
    rw [Int.cast_mul, Int.cast_natCast, powerOfTen_eq_zpow natural, mul_assoc,
      ← zpow_add₀ (by norm_num), sub_add_cancel]

/-- The comparison is the order of the rational numbers. -/
theorem compares_compare (left right : Scaled) :
    (left.compare right).Compares left.value right.value := by
  rw [compare]
  cases signs : Ord.compare left.coefficient.sign right.coefficient.sign with
  | lt => exact value_lt_of_sign_lt (compare_lt_iff_lt.mp signs)
  | gt => exact value_lt_of_sign_lt (compare_gt_iff_gt.mp signs)
  | eq =>
    have sameSign := compare_eq_iff_eq.mp signs
    cases heights : Ord.compare (left.coefficient.sign * left.height)
        (right.coefficient.sign * right.height) with
    | lt => exact value_lt_of_height_lt sameSign (compare_lt_iff_lt.mp heights)
    | gt => exact value_lt_of_height_lt sameSign.symm (compare_gt_iff_gt.mp heights)
    | eq =>
      rw [left.value_eq_coefficientOver (min_le_left left.exponent right.exponent),
        right.value_eq_coefficientOver (min_le_right left.exponent right.exponent)]
      have unit : (0 : ℚ) < 10 ^ min left.exponent right.exponent := by positivity
      show (Ord.compare (left.coefficientOver _) (right.coefficientOver _)).Compares _ _
      cases coefficients : Ord.compare
          (left.coefficientOver (min left.exponent right.exponent))
          (right.coefficientOver (min left.exponent right.exponent)) with
      | lt => exact mul_lt_mul_of_pos_right (mod_cast compare_lt_iff_lt.mp coefficients) unit
      | gt => exact mul_lt_mul_of_pos_right (mod_cast compare_gt_iff_gt.mp coefficients) unit
      | eq =>
        show _ = _
        rw [compare_eq_iff_eq.mp coefficients]

end Scaled

/-! ## Numbers of any kind -/

namespace Extended

/-- Where a point of the extended number line lies among the rational numbers. -/
def position : Extended → WithBot (WithTop ℚ)
  | .finite number => ((number.value : WithTop ℚ) : WithBot (WithTop ℚ))
  | .infinite true => ⊥
  | .infinite false => ((⊤ : WithTop ℚ) : WithBot (WithTop ℚ))

/-- The comparison is the order of the extended number line. -/
theorem compares_compare (left right : Extended) :
    (left.compare right).Compares left.position right.position := by
  match left, right with
  | .finite left, .finite right =>
    have exact := left.compares_compare right
    rw [compare]
    cases order : left.compare right with
    | lt => simpa [order, position] using exact
    | gt => simpa [order, position] using exact
    | eq => simpa [order, position] using exact
  | .finite left, .infinite true => simp [compare, position]
  | .finite left, .infinite false => exact WithBot.coe_lt_coe.mpr (WithTop.coe_lt_top left.value)
  | .infinite true, .finite right => simp [compare, position]
  | .infinite false, .finite right => exact WithBot.coe_lt_coe.mpr (WithTop.coe_lt_top right.value)
  | .infinite true, .infinite true => simp [compare, position]
  | .infinite true, .infinite false => simp [compare, position]
  | .infinite false, .infinite true => simp [compare, position]
  | .infinite false, .infinite false => simp [compare, position]

/-- A comparison depends on positions alone. -/
theorem compare_eq_compare_position (left right : Extended) :
    left.compare right = Ord.compare left.position right.position :=
  ((compare_iff _ _).mpr (left.compares_compare right)).symm

theorem compare_self (point : Extended) : point.compare point = .eq :=
  (point.compares_compare point).eq_eq.mpr rfl

end Extended

namespace Number

/-- Where a number lies; a not-a-number lies nowhere. -/
def position? (number : Number) : Option (WithBot (WithTop ℚ)) :=
  number.extended?.map Extended.position

/-- The order of two numbers, if both lie somewhere. -/
def order? (left right : Number) : Option Ordering :=
  left.extended?.bind fun point => right.extended?.map point.compare

/-- The order depends on positions alone. -/
theorem order?_eq_position? (left right : Number) :
    left.order? right =
      left.position?.bind fun point => right.position?.map (Ord.compare point) := by
  rw [order?, position?, position?]
  cases left.extended? with
  | none => rfl
  | some point =>
    cases right.extended? with
    | none => rfl
    | some other => exact congrArg some (point.compare_eq_compare_position other)

theorem equal?_eq_order? (left right : Number) :
    left.equal? right =
      if left.isSignalling || right.isSignalling then none
      else some (left.order? right == some .eq) := by
  rw [equal?, order?]
  cases left.extended? <;> cases right.extended? <;> rfl

theorem less?_eq_order? (left right : Number) :
    left.less? right =
      match left.order? right with
      | some order => some (order == .lt)
      | none => if left.isDecimal || right.isDecimal then none else some false := by
  rw [less?, order?]
  cases left.extended? <;> cases right.extended? <;> rfl

/-- A number that lies somewhere is level with itself. -/
theorem order?_self {number : Number} (somewhere : number.extended? ≠ none) :
    number.order? number = some .eq := by
  obtain ⟨point, place⟩ := Option.ne_none_iff_exists'.mp somewhere
  rw [order?, place, Option.bind_some, Option.map_some, point.compare_self]

/-- Nothing tells two numbers apart by comparing them with others: they lie at one position, or
nowhere, and it makes no difference which one of them is decimal or signalling. -/
structure IsLike (left right : Number) : Prop where
  position? : left.position? = right.position?
  isSignalling : left.isSignalling = right.isSignalling
  isDecimal : left.isDecimal = right.isDecimal

theorem IsLike.refl (number : Number) : number.IsLike number :=
  ⟨rfl, rfl, rfl⟩

variable {left right first second : Number}

/-- Numbers at the same positions have the same order. -/
theorem IsLike.order?_congr (alikeLeft : left.IsLike first) (alikeRight : right.IsLike second) :
    left.order? right = first.order? second := by
  rw [order?_eq_position?, order?_eq_position?, alikeLeft.position?, alikeRight.position?]

theorem IsLike.equal?_congr (alikeLeft : left.IsLike first) (alikeRight : right.IsLike second) :
    left.equal? right = first.equal? second := by
  rw [equal?_eq_order?, equal?_eq_order?, alikeLeft.isSignalling, alikeRight.isSignalling,
    alikeLeft.order?_congr alikeRight]

theorem IsLike.less?_congr (alikeLeft : left.IsLike first) (alikeRight : right.IsLike second) :
    left.less? right = first.less? second := by
  rw [less?_eq_order?, less?_eq_order?, alikeLeft.isDecimal, alikeRight.isDecimal,
    alikeLeft.order?_congr alikeRight]

end Number

end DocFilter
