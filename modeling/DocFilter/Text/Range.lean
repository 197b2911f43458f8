/-
# Ranges of code points

A character property is given by its ranges of code points, both ends included and in rising
order.
-/

namespace DocFilter.Text.Range

/-- Whether a code point lies in one of the ranges. -/
def covers (ranges : List (Nat × Nat)) (code : Nat) : Bool :=
  ranges.any fun range => range.1 ≤ code && code ≤ range.2

/-- Ranges cover a code point just if it lies between the ends of one of them. -/
@[simp]
theorem covers_iff (ranges : List (Nat × Nat)) (code : Nat) :
    covers ranges code = true ↔ ∃ range ∈ ranges, range.1 ≤ code ∧ code ≤ range.2 := by
  simp [covers]

end DocFilter.Text.Range
