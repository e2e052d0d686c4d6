/-!
# Powers of two and of ten

The two bases of number formats. Both powers are natural numbers, so what is bounded or scaled by
one stays exact.
-/

set_option autoImplicit false

namespace RecordSql

/-- Two to the power of `n`. -/
def twoPow (n : Nat) : Nat := Nat.pow 2 n

/-- Ten to the power of `n`. -/
def tenPow (n : Nat) : Nat := Nat.pow 10 n

/-- The least power of two is one. -/
@[simp]
theorem twoPow_zero : twoPow 0 = 1 := rfl

/-- One more in the exponent doubles a power of two. -/
theorem twoPow_succ (n : Nat) : twoPow (n + 1) = twoPow n * 2 := rfl

/-- A power of two is positive. -/
theorem twoPow_pos (n : Nat) : 0 < twoPow n := Nat.pow_pos (by decide)

/-- Powers of two grow with their exponents. -/
theorem twoPow_le_twoPow {m n : Nat} (h : m ≤ n) : twoPow m ≤ twoPow n :=
  Nat.pow_le_pow_right (by decide) h

end RecordSql
