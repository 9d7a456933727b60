/-!
Contract: rounding of amounts to the nearest multiple of a unit.

Owns:
- the nearest quotient, where a tie goes to the even one;
- the nearest amount that has a given number of binary digits;
- that a nearest quotient is at most half a unit away, that short amounts stay as they are, and
  that ratios alone are rounded, however they are written.

Does not own: signs, which rounding leaves alone.
-/

namespace Attachments.Numeral

/-- The whole quotient nearest to the exact one. Of two equally near ones it is the even one. -/
def nearestQuotient (amount unit : Nat) : Nat :=
  let below := amount / unit
  let twiceExcess := 2 * (amount % unit)
  if unit < twiceExcess ∨ (twiceExcess = unit ∧ below % 2 = 1) then below + 1 else below

/-- The amount nearest to a ratio among those that need at most so many binary digits before the
zeros at their end. -/
def nearestWithBits (bits numerator denominator : Nat) : Nat :=
  let unit := Nat.pow 2 ((numerator / denominator).log2 + 1 - bits)
  nearestQuotient numerator (denominator * unit) * unit

/-- The nearest quotient is at most half a unit away from the exact one. -/
theorem nearestQuotient_close (amount : Nat) {unit : Nat} (positive : 0 < unit) :
    2 * amount ≤ 2 * (unit * nearestQuotient amount unit) + unit ∧
      2 * (unit * nearestQuotient amount unit) ≤ 2 * amount + unit := by
  have split := Nat.div_add_mod amount unit
  have small := Nat.mod_lt amount positive
  unfold nearestQuotient
  dsimp only
  split
  · rw [Nat.mul_add]
    omega
  · omega

/-- The nearest quotient depends on the ratio alone. -/
theorem nearestQuotient_mul (amount unit : Nat) {factor : Nat} (positive : 0 < factor) :
    nearestQuotient (amount * factor) (unit * factor) = nearestQuotient amount unit := by
  have more : unit * factor < 2 * (amount % unit * factor) ↔ unit < 2 * (amount % unit) := by
    rw [← Nat.mul_assoc, Nat.mul_lt_mul_right positive]
  have tie : 2 * (amount % unit * factor) = unit * factor ↔ 2 * (amount % unit) = unit := by
    rw [← Nat.mul_assoc, Nat.mul_left_inj (Nat.ne_of_gt positive)]
  simp only [nearestQuotient, Nat.mul_div_mul_right _ _ positive, Nat.mul_mod_mul_right, more, tie]

/-- A whole amount that is short enough already stays as it is. -/
theorem nearestWithBits_short {bits amount : Nat} (short : amount < Nat.pow 2 bits) :
    nearestWithBits bits amount 1 = amount := by
  by_cases zero : amount = 0
  · simp [nearestWithBits, nearestQuotient, zero]
  · have bound := (Nat.log2_lt zero).2 short
    have unit : amount.log2 + 1 - bits = 0 := by omega
    simp [nearestWithBits, nearestQuotient, unit, Nat.mod_one]

/-- Rounding to binary digits depends on the ratio alone. -/
theorem nearestWithBits_mul (bits numerator denominator : Nat) {factor : Nat}
    (positive : 0 < factor) :
    nearestWithBits bits (numerator * factor) (denominator * factor) =
      nearestWithBits bits numerator denominator := by
  simp only [nearestWithBits, Nat.mul_div_mul_right _ _ positive, Nat.mul_right_comm _ factor,
    nearestQuotient_mul _ _ positive]

end Attachments.Numeral
