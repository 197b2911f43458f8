/-
# Packing loses nothing

A packed decimal may stand over another exponent than the decimal it was packed from, because its
digits and its exponent are limited. Zeros are added or dropped for that, and never another digit:
a decimal has no packed form or has one of the same value. So no comparison tells the two apart.
-/

import DocFilter.Number.Packed
import DocFilter.Proofs.ExactOrder
import DocFilter.Proofs.ShortCircuit

namespace DocFilter

/-- Decimals of one sign have one value if their sizes have. -/
theorem Decimal.value_scale_eq {coefficient other : Nat} {exponent otherExponent : Int}
    (sizes : (coefficient : ℚ) * 10 ^ exponent = other * 10 ^ otherExponent) (negative : Bool) :
    (scale negative coefficient exponent).value = (scale negative other otherExponent).value := by
  cases negative with
  | false => simpa [scale, Scaled.value] using sizes
  | true => simpa [scale, Scaled.value] using sizes

/-- Finite decimals of one value are told apart by no comparison. -/
theorem Number.isLike_of_value_eq {negative otherNegative : Bool} {coefficient other : Nat}
    {exponent otherExponent : Int}
    (same : (Decimal.scale negative coefficient exponent).value =
      (Decimal.scale otherNegative other otherExponent).value) :
    (Number.decimal (.finite negative coefficient exponent)).IsLike
      (.decimal (.finite otherNegative other otherExponent)) := by
  refine ⟨?_, rfl, rfl⟩
  simp only [position?, extended?, Option.map_some, Extended.position, same]

namespace Packed

/-- Adjusting moves zeros between the coefficient and the exponent. -/
theorem exists_of_adjust_eq_ok {negative : Bool} {coefficient : Nat} {exponent : Int}
    {adjusted : Decimal} (succeeds : adjust negative coefficient exponent = .ok adjusted) :
    ∃ other otherExponent, adjusted = .finite negative other otherExponent ∧
      (other : ℚ) * 10 ^ otherExponent = coefficient * 10 ^ exponent := by
  rw [adjust] at succeeds
  split at succeeds
  · cases succeeds
  split at succeeds
  · next above =>
    cases succeeds
    refine ⟨_, _, rfl, ?_⟩
    rw [Nat.cast_mul, powerOfTen_eq_zpow (by omega), mul_assoc, ← zpow_add₀ (by norm_num),
      sub_add_cancel]
  · simp only at succeeds
    split at succeeds
    · cases succeeds
    split at succeeds
    · next zeros =>
      -- What is dropped are zeros, so the quotient is exact.
      cases succeeds
      refine ⟨_, _, rfl, ?_⟩
      rw [add_comm exponent, zpow_add₀ (by norm_num), ← powerOfTen_eq_zpow (by omega),
        ← mul_assoc, ← Nat.cast_mul, Nat.div_mul_cancel (Nat.dvd_of_mod_eq_zero zeros)]
    · split at succeeds <;> cases succeeds

/-- The last step of packing checks the number and leaves it as it is. -/
theorem number_eq_of_checked {adjusted : Decimal} {packed : Packed}
    (checked : (if packable : adjusted.IsPackable then return ⟨adjusted, packable⟩
      else throw .inexact : Except PackingError Packed) = .ok packed) :
    packed.number = adjusted := by
  split at checked <;> cases checked
  rfl

/-- What is packed is like what it was packed from. -/
theorem isLike_of_pack_eq_ok {number : Decimal} {packed : Packed}
    (succeeds : pack number = .ok packed) :
    (Number.decimal packed.number).IsLike (.decimal number) := by
  unfold pack at succeeds
  cases number with
  | infinite negative =>
    simp only [pure_bind] at succeeds
    rw [number_eq_of_checked succeeds]
    exact .refl _
  | notANumber negative signalling payload =>
    by_cases empty : payload = 0
    · subst empty
      have same : packed.number = .notANumber negative signalling 0 :=
        number_eq_of_checked succeeds
      rw [same]
      exact .refl _
    · simp only [empty, if_false, ne_eq, not_false_eq_true, if_true] at succeeds
      split at succeeds <;> cases succeeds
  | finite negative coefficient exponent =>
    simp only [pure_bind] at succeeds
    split at succeeds
    · next zero =>
      rw [number_eq_of_checked succeeds]
      apply Number.isLike_of_value_eq
      apply Decimal.value_scale_eq
      rw [zero, Nat.cast_zero, zero_mul, zero_mul]
    · obtain ⟨adjusted, made, checked⟩ := bind_eq_ok_iff.mp succeeds
      obtain ⟨other, otherExponent, rfl, sizes⟩ := exists_of_adjust_eq_ok made
      rw [number_eq_of_checked checked]
      exact Number.isLike_of_value_eq (Decimal.value_scale_eq sizes negative)

end Packed

end DocFilter
