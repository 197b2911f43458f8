/-
# Packed decimals

A packed decimal is a decimal of at most 34 digits whose exponent lies between -6176 and 6111.
Packing may put a number over another exponent, but it never changes the value: where a digit
other than zero would be lost it fails.
-/

import DocFilter.Number.Decimal

namespace DocFilter

/-- One more than the largest coefficient of a packed decimal, which has 34 digits. -/
def Packed.coefficientBound : Nat :=
  Nat.pow 10 34

/-- Whether a decimal can be packed as it stands. -/
def Decimal.IsPackable : Decimal → Prop
  | .finite _ coefficient exponent =>
    coefficient < Packed.coefficientBound ∧ -6176 ≤ exponent ∧ exponent ≤ 6111
  | .infinite _ => True
  | .notANumber _ _ payload => payload = 0

instance (number : Decimal) : Decidable number.IsPackable := by
  unfold Decimal.IsPackable
  split <;> infer_instance

/-- A decimal in packed form. -/
structure Packed where
  number : Decimal
  packable : number.IsPackable
  deriving DecidableEq

/-- Why a decimal cannot be packed. -/
inductive PackingError
  /-- A digit other than zero would be lost. -/
  | inexact
  /-- The number is larger than every packed one. -/
  | overflow
  /-- The payload of a not-a-number has more than 33 digits. -/
  | oversizedPayload
  /-- A not-a-number carries a payload. -/
  | payload
  deriving DecidableEq, Repr

namespace Packed

/-- The largest position that the leading digit can have, counted from zero. -/
def topPosition : Int := 6144

/-- A finite nonzero number over the exponent nearest to its own at which it can be packed. Digits
are dropped from the right only if they are zeros; rounding that carries beyond the top position
is an overflow rather than a loss of digits. -/
def adjust (negative : Bool) (coefficient : Nat) (exponent : Int) : Except PackingError Decimal :=
  let digits : Int := Scaled.digitCount coefficient
  if topPosition < exponent + digits - 1 then .error .overflow
  else if 6111 < exponent then
    .ok (.finite negative (coefficient * powerOfTen (exponent - 6111)) 6111)
  else
    let dropped := max 0 (max (digits - 34) (-6176 - exponent))
    if digits < dropped then .error .inexact
    else
      let unit := powerOfTen dropped
      if coefficient % unit = 0 then
        .ok (.finite negative (coefficient / unit) (exponent + dropped))
      else if exponent + digits - 1 = topPosition ∧
          coefficient / unit + 1 = coefficientBound ∧ unit ≤ 2 * (coefficient % unit) then
        .error .overflow
      else .error .inexact

/-- A decimal in packed form. Zero keeps its sign and takes the nearest exponent in range, the
infinities stay, and a not-a-number stays unless it carries a payload. -/
def pack (number : Decimal) : Except PackingError Packed := do
  let adjusted ←
    match number with
    | .finite negative coefficient exponent =>
      if coefficient = 0 then
        pure (Decimal.finite negative 0 (max (-6176) (min 6111 exponent)))
      else adjust negative coefficient exponent
    | .infinite negative => pure (.infinite negative)
    | .notANumber negative signalling payload =>
      if 33 < (if payload = 0 then 0 else Scaled.digitCount payload) then
        throw .oversizedPayload
      else if payload ≠ 0 then throw .payload
      else pure (.notANumber negative signalling 0)
  if packable : adjusted.IsPackable then return ⟨adjusted, packable⟩ else throw .inexact

/-- The packed decimal that a text writes. -/
def read? (text : String) : Option Packed :=
  (Decimal.read? text).bind fun number => (pack number).toOption

/-- The text of a packed decimal: every not-a-number has the same one. -/
def write (packed : Packed) : String :=
  match packed.number with
  | .notANumber _ _ _ => "NaN"
  | number => number.write

end Packed

end DocFilter
