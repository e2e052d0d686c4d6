import RecordSql.Proofs.Number.BinaryFloat

/-!
# Whole numbers among floating-point numbers

A whole number becomes the nearest number of a floating-point format. In the format of 64 bits it is
this number itself exactly if it has at most 53 significant bits: every finite number of the format
is a significand of that many bits times a power of two, and a whole number of that form within the
range of the format has a code of its own.
-/

set_option autoImplicit false

namespace RecordSql

/-- A whole number that is written with a number of bits, up to zeros behind them. -/
def HasSignificantBits (bits : Nat) (n : Int) : Prop :=
  ∃ significand exponent, n.natAbs = significand * twoPow exponent ∧ significand < twoPow bits

namespace BinaryFormat

/-- The code zero stands for the number zero. -/
@[simp]
theorem value_zero (f : BinaryFormat) : f.value 0 = 0 := by
  rw [value, significand, Nat.zero_div, if_pos rfl, Nat.cast_zero, zero_mul]

/-- A natural number that a code stands for has no more significant bits than the format. -/
theorem exists_significand {f : BinaryFormat} {code n : Nat} (h : f.value code = n) :
    ∃ significand exponent, n = significand * twoPow exponent
      ∧ significand < twoPow (f.fractionBits + 1) := by
  have hbound : f.significand code < twoPow (f.fractionBits + 1) := by
    rw [twoPow_succ]
    rcases Nat.eq_zero_or_pos code with rfl | hcode
    · rw [significand, Nat.zero_div, if_pos rfl]
      exact Nat.mul_pos (twoPow_pos _) (by decide)
    · have := (f.significand_bounds hcode).2
      omega
  unfold value at h
  rcases Int.le_total 0 (f.place code) with hplace | hplace
  · -- The significand is followed by zeros.
    refine ⟨f.significand code, (f.place code).toNat, ?_, hbound⟩
    have hpow : (2 : ℚ) ^ f.place code = (twoPow (f.place code).toNat : Nat) := by
      rw [cast_twoPow, ← zpow_natCast, Int.toNat_of_nonneg hplace]
    rw [hpow] at h
    exact_mod_cast h.symm
  · -- Bits behind the point only make the significand longer than the number.
    refine ⟨n, 0, by rw [twoPow_zero, Nat.mul_one], lt_of_le_of_lt ?_ hbound⟩
    have hpow : (2 : ℚ) ^ f.place code ≤ 1 := zpow_le_one_of_nonpos₀ (by norm_num) hplace
    have hle : (n : ℚ) ≤ f.significand code := by
      rw [← h]
      exact mul_le_of_le_one_right (Nat.cast_nonneg _) hpow
    exact_mod_cast hle

end BinaryFormat

namespace BinaryFloat

variable {f : BinaryFormat}

/-- The number that a floating-point number stands for; none if it is infinite or missing. -/
def toRat? : BinaryFloat f → Option ℚ
  | .nan => none
  | .number negative code _ =>
    if code = f.infinity then none
    else some (if negative then -f.value code else f.value code)

/-- Equality as numbers compare is equality of the numbers. -/
theorem toRat?_eq_of_numericEq {x y : BinaryFloat f} (h : x.numericEq y = true) :
    x.toRat? = y.toRat? := by
  cases x with
  | nan => cases h
  | number s c hc =>
    cases y with
    | nan => cases h
    | number t d hd =>
      simp only [numericEq, Bool.and_eq_true, Bool.or_eq_true, beq_iff_eq] at h
      obtain ⟨rfl, rfl | rfl⟩ := h
      · rfl
      · simp [toRat?]

/-- A whole number becomes a floating-point number that stands for it if and only if its absolute
value is one of the numbers of the format. -/
theorem toRat?_ofInt_eq_some_iff {n : Int} :
    (ofInt f n).toRat? = some (n : ℚ)
      ↔ f.nearest n.natAbs 1 ≠ f.infinity ∧ f.value (f.nearest n.natAbs 1) = (n.natAbs : ℚ) := by
  rw [ofInt, ofRatio, toRat?]
  by_cases hinfinite : f.nearest n.natAbs 1 = f.infinity
  · simp [hinfinite]
  · rw [if_neg hinfinite]
    simp only [hinfinite, ne_eq, not_false_eq_true, true_and, Option.some.injEq, decide_eq_true_eq]
    rcases Int.lt_or_le n 0 with hn | hn
    · have habs : (n : ℚ) = -(n.natAbs : ℚ) := by
        rw [Nat.cast_natAbs, abs_of_neg hn, Int.cast_neg, neg_neg]
      rw [if_pos hn, habs, neg_inj]
    · have habs : (n : ℚ) = (n.natAbs : ℚ) := by
        rw [Nat.cast_natAbs, abs_of_nonneg hn]
      rw [if_neg (Int.not_lt.2 hn), habs]

/-- A whole number within the integers of 64 bits becomes itself in the format of 64 bits exactly if
it has at most 53 significant bits. -/
theorem toRat?_ofInt_binary64 {n : Int} (hrange : n.natAbs ≤ twoPow 64) :
    (ofInt binary64 n).toRat? = some (n : ℚ) ↔ HasSignificantBits 53 n := by
  rw [toRat?_ofInt_eq_some_iff]
  constructor
  · rintro ⟨-, hvalue⟩
    exact BinaryFormat.exists_significand hvalue
  · rintro ⟨m, e, hn, hm⟩
    rcases Nat.eq_zero_or_pos m with rfl | hpos
    · have hzero : n.natAbs = 0 := by rw [hn, Nat.zero_mul]
      rw [hzero]
      have hcode : binary64.nearest 0 1 = 0 := rfl
      rw [hcode, BinaryFormat.value_zero]
      exact ⟨by decide, Nat.cast_zero.symm⟩
    · have hlog : m.log2 < 53 := (Nat.log2_lt hpos.ne').2 hm
      have hexponent : m.log2 + e ≤ 64 := by
        have hle : 2 ^ (m.log2 + e) ≤ 2 ^ 64 := by
          calc 2 ^ (m.log2 + e) = 2 ^ m.log2 * twoPow e := Nat.pow_add _ _ _
            _ ≤ m * twoPow e := Nat.mul_le_mul_right _ (Nat.log2_self_le hpos.ne')
            _ = n.natAbs := hn.symm
            _ ≤ 2 ^ 64 := hrange
        exact (Nat.pow_le_pow_iff_right (by decide)).1 hle
      obtain ⟨code, hcode, hfinite, hvalue⟩ :=
        BinaryFormat.exists_code (e := e) hpos (by omega) (by omega) (by omega)
      have hself : binary64.value code = (n.natAbs : ℚ) := by
        rw [hvalue, hn, Nat.cast_mul, cast_twoPow, zpow_natCast]
      have hnearest : binary64.nearest n.natAbs 1 = code := by
        apply BinaryFormat.nearest_of_value hcode hfinite.le Nat.one_pos
        rw [hself, Nat.cast_one, div_one]
      rw [hnearest]
      exact ⟨hfinite.ne, hself⟩

end BinaryFloat

end RecordSql
