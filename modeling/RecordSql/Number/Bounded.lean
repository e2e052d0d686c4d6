import RecordSql.Number.Power

/-!
# Whole numbers of a fixed width

A signed or unsigned integer of a given number of bits, as a whole number together with the
bounds it keeps. Nothing wraps around here: a number outside the bounds is refused.
-/

set_option autoImplicit false

namespace RecordSql

/-- A whole number that a signed integer of `width` bits can hold. -/
@[ext]
structure SignedInt (width : Nat) where
  /-- The number itself. -/
  val : Int
  /-- It is not below the least number of that width. -/
  lower : -(twoPow (width - 1) : Int) ≤ val
  /-- It is not above the greatest number of that width. -/
  upper : val < (twoPow (width - 1) : Int)
deriving DecidableEq

/-- A whole number that an unsigned integer of `width` bits can hold. -/
@[ext]
structure UnsignedInt (width : Nat) where
  /-- The number itself. -/
  val : Nat
  /-- It is not above the greatest number of that width. -/
  upper : val < twoPow width
deriving DecidableEq

namespace SignedInt

variable {width : Nat}

/-- The number as a signed integer of `width` bits, if it fits. -/
def ofInt? (width : Nat) (n : Int) : Option (SignedInt width) :=
  if h : -(twoPow (width - 1) : Int) ≤ n ∧ n < (twoPow (width - 1) : Int) then
    some ⟨n, h.1, h.2⟩
  else none

/-- Zero fits every width. -/
def zero (width : Nat) : SignedInt width :=
  ⟨0, by have := twoPow_pos (width - 1); omega, by have := twoPow_pos (width - 1); omega⟩

/-- A number is accepted exactly when it is the value of the result. -/
theorem ofInt?_eq_some_iff {n : Int} {x : SignedInt width} :
    ofInt? width n = some x ↔ n = x.val := by
  unfold ofInt?
  split
  · constructor
    · intro h; cases h; rfl
    · intro h; subst h; rfl
  · rename_i h
    constructor
    · intro h'; cases h'
    · intro h'; subst h'; exact absurd ⟨x.lower, x.upper⟩ h

/-- A number is refused exactly when it is outside the bounds. -/
theorem ofInt?_eq_none_iff {n : Int} :
    ofInt? width n = none ↔ n < -(twoPow (width - 1) : Int) ∨ (twoPow (width - 1) : Int) ≤ n := by
  unfold ofInt?
  split
  · simp only [reduceCtorEq, false_iff]
    omega
  · simp only [true_iff]
    omega

/-- The value of an integer is accepted as that integer. -/
@[simp]
theorem ofInt?_val (x : SignedInt width) : ofInt? width x.val = some x :=
  ofInt?_eq_some_iff.2 rfl

end SignedInt

namespace UnsignedInt

variable {width : Nat}

/-- The number as an unsigned integer of `width` bits, if it fits. -/
def ofInt? (width : Nat) (n : Int) : Option (UnsignedInt width) :=
  if h : 0 ≤ n ∧ n.toNat < twoPow width then some ⟨n.toNat, h.2⟩ else none

/-- Zero fits every width. -/
def zero (width : Nat) : UnsignedInt width :=
  ⟨0, twoPow_pos width⟩

/-- A number is accepted exactly when it is the value of the result. -/
theorem ofInt?_eq_some_iff {n : Int} {x : UnsignedInt width} :
    ofInt? width n = some x ↔ n = (x.val : Int) := by
  unfold ofInt?
  split
  · rename_i h
    constructor
    · intro h'; cases h'; simp [Int.toNat_of_nonneg h.1]
    · intro h'; subst h'; rfl
  · rename_i h
    constructor
    · intro h'; cases h'
    · intro h'; subst h'; exact absurd ⟨Int.natCast_nonneg _, by simpa using x.upper⟩ h

/-- A number is refused exactly when it is outside the bounds. -/
theorem ofInt?_eq_none_iff {n : Int} :
    ofInt? width n = none ↔ n < 0 ∨ (twoPow width : Int) ≤ n := by
  unfold ofInt?
  split
  · simp only [reduceCtorEq, false_iff]
    omega
  · simp only [true_iff]
    omega

/-- The value of an integer is accepted as that integer. -/
@[simp]
theorem ofInt?_val (x : UnsignedInt width) : ofInt? width (x.val : Int) = some x :=
  ofInt?_eq_some_iff.2 rfl

end UnsignedInt

end RecordSql
