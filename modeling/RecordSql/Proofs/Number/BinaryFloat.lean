import RecordSql.Number.BinaryFloat
import Mathlib.Algebra.Order.Field.Power
import Mathlib.Data.Rat.Cast.Order
import Mathlib.Tactic.FieldSimp
import Mathlib.Tactic.Linarith
import Mathlib.Tactic.Ring

/-!
# Rounding leaves the numbers of a format as they are

A code stands for a significand times a power of two. Rounding depends on the number alone and not
on the fraction that it is written as, so a number of the format gets its own code back, from
whatever fraction. Every number of the format of 32 bits is one of the format of 64 bits as well,
and so narrowing a number that was widened gives it back.
-/

set_option autoImplicit false

namespace RecordSql

/-- A power of two as a rational number. -/
theorem cast_twoPow (n : Nat) : ((twoPow n : Nat) : ℚ) = 2 ^ n := by
  rw [twoPow, Nat.pow_eq, Nat.cast_pow, Nat.cast_ofNat]

/-- A power of two with a whole exponent, written as a fraction of natural numbers. -/
theorem twoPow_div_twoPow (z : Int) :
    ((twoPow z.toNat : Nat) : ℚ) / ((twoPow (-z).toNat : Nat) : ℚ) = 2 ^ z := by
  rw [cast_twoPow, cast_twoPow, ← zpow_natCast, ← zpow_natCast, ← zpow_sub₀ (by norm_num)]
  congr 1
  omega

/-- A multiple of the divisor is divided without rounding. -/
theorem divHalfEven_mul {den : Nat} (k : Nat) (hden : 0 < den) : divHalfEven (k * den) den = k := by
  simp [divHalfEven, Nat.mul_div_cancel _ hden, hden]

namespace BinaryFormat

variable {f : BinaryFormat}

/-- The number that a code stands for. -/
def value (f : BinaryFormat) (code : Nat) : ℚ := f.significand code * 2 ^ f.place code

/-- The fraction of a code is its number. -/
theorem numerator_div_denominator (f : BinaryFormat) (code : Nat) :
    (f.numerator code : ℚ) / (f.denominator code : ℚ) = f.value code := by
  rw [numerator, denominator, Nat.cast_mul, mul_div_assoc, twoPow_div_twoPow, value]

/-- A power of two is not above a fraction. -/
theorem two_zpow_le_div_iff {num den : Nat} (hden : 0 < den) (z : Int) :
    (2 : ℚ) ^ z ≤ num / den ↔ den * twoPow z.toNat ≤ num * twoPow (-z).toNat := by
  have hden : (0 : ℚ) < den := Nat.cast_pos.2 hden
  have hpow : (0 : ℚ) < (twoPow (-z).toNat : Nat) := Nat.cast_pos.2 (twoPow_pos _)
  rw [← twoPow_div_twoPow, div_le_div_iff₀ hpow hden, ← Nat.cast_mul, ← Nat.cast_mul, Nat.cast_le,
    Nat.mul_comm]

/-- A fraction lies between the powers of two that the logarithms of its two parts suggest. -/
theorem div_log2_bounds {num den : Nat} (hnum : 0 < num) (hden : 0 < den) :
    (2 : ℚ) ^ ((num.log2 : Int) - den.log2 - 1) ≤ num / den
      ∧ (num : ℚ) / den < 2 ^ ((num.log2 : Int) - den.log2 + 1) := by
  have hden' : (0 : ℚ) < den := Nat.cast_pos.2 hden
  have htwo : (2 : ℚ) ≠ 0 := by norm_num
  have hnumle : (2 : ℚ) ^ (num.log2 : Int) ≤ num := by
    rw [zpow_natCast]
    exact_mod_cast Nat.log2_self_le hnum.ne'
  have hnumlt : (num : ℚ) < 2 ^ ((num.log2 : Int) + 1) := by
    exact_mod_cast Nat.lt_log2_self
  have hdenle : (2 : ℚ) ^ (den.log2 : Int) ≤ den := by
    rw [zpow_natCast]
    exact_mod_cast Nat.log2_self_le hden.ne'
  have hdenlt : (den : ℚ) < 2 ^ ((den.log2 : Int) + 1) := by
    exact_mod_cast Nat.lt_log2_self
  constructor
  · rw [le_div_iff₀ hden']
    calc (2 : ℚ) ^ ((num.log2 : Int) - den.log2 - 1) * den
        ≤ 2 ^ ((num.log2 : Int) - den.log2 - 1) * 2 ^ ((den.log2 : Int) + 1) :=
          mul_le_mul_of_nonneg_left hdenlt.le (by positivity)
      _ = 2 ^ (num.log2 : Int) := by
          rw [← zpow_add₀ htwo]
          congr 1
          omega
      _ ≤ num := hnumle
  · rw [div_lt_iff₀ hden']
    calc (num : ℚ) < 2 ^ ((num.log2 : Int) + 1) := hnumlt
      _ = 2 ^ ((num.log2 : Int) - den.log2 + 1) * 2 ^ (den.log2 : Int) := by
          rw [← zpow_add₀ htwo]
          congr 1
          omega
      _ ≤ 2 ^ ((num.log2 : Int) - den.log2 + 1) * den :=
          mul_le_mul_of_nonneg_left hdenle (by positivity)

/-- The exponent that is found is the one whose power of two and the next enclose the fraction. -/
theorem floorLogTwo_spec {num den : Nat} (hnum : 0 < num) (hden : 0 < den) :
    (2 : ℚ) ^ floorLogTwo num den ≤ num / den
      ∧ (num : ℚ) / den < 2 ^ (floorLogTwo num den + 1) := by
  obtain ⟨hlower, hupper⟩ := div_log2_bounds hnum hden
  rw [floorLogTwo]
  split
  · rename_i hguess
    exact ⟨(two_zpow_le_div_iff hden _).2 hguess, hupper⟩
  · -- The guess was one too high.
    rename_i hguess
    rw [← two_zpow_le_div_iff hden, not_le] at hguess
    exact ⟨hlower, by rwa [sub_add_cancel]⟩

/-- An exponent is found if its power of two and the next enclose the fraction. -/
theorem floorLogTwo_eq {num den : Nat} {z : Int} (hnum : 0 < num) (hden : 0 < den)
    (hlower : (2 : ℚ) ^ z ≤ num / den) (hupper : (num : ℚ) / den < 2 ^ (z + 1)) :
    floorLogTwo num den = z := by
  obtain ⟨hlower', hupper'⟩ := floorLogTwo_spec hnum hden
  have hle : floorLogTwo num den < z + 1 :=
    (zpow_lt_zpow_iff_right₀ (by norm_num)).1 (hlower'.trans_lt hupper)
  have hge : z < floorLogTwo num den + 1 :=
    (zpow_lt_zpow_iff_right₀ (by norm_num)).1 (hlower.trans_lt hupper')
  omega

/-- A fraction that is a whole multiple of the last place it is rounded to is not rounded. -/
theorem nearest_eq {num den k : Nat} (place : Int) (hnum : 0 < num) (hden : 0 < den)
    (hplace : place = max f.leastPlace (floorLogTwo num den - f.fractionBits))
    (hvalue : (num : ℚ) / den = k * 2 ^ place) :
    f.nearest num den
      = min f.infinity ((place - f.leastPlace).toNat * twoPow f.fractionBits + k) := by
  -- Scaled to the place, as it is before it is rounded, the fraction is a whole number.
  have hscaled : num * twoPow (-place).toNat = k * (den * twoPow place.toNat) := by
    have hden' : (den : ℚ) ≠ 0 := (Nat.cast_pos.2 hden).ne'
    have hpow : ((twoPow (-place).toNat : Nat) : ℚ) ≠ 0 := (Nat.cast_pos.2 (twoPow_pos _)).ne'
    rw [← twoPow_div_twoPow] at hvalue
    field_simp at hvalue
    have hcast : ((num * twoPow (-place).toNat : Nat) : ℚ)
        = ((k * (den * twoPow place.toNat) : Nat) : ℚ) := by
      push_cast
      linarith
    exact_mod_cast hcast
  rw [nearest, if_neg hnum.ne']
  dsimp only
  rw [← hplace, hscaled, divHalfEven_mul k (Nat.mul_pos hden (twoPow_pos _))]

/-! ## Codes and their numbers -/

/-- A significand of a code that stands for more than zero has at most one bit before the point. -/
theorem significand_bounds {code : Nat} (hcode : 0 < code) :
    0 < f.significand code ∧ f.significand code < 2 * twoPow f.fractionBits := by
  have hpow := twoPow_pos f.fractionBits
  rw [significand]
  split
  · rename_i hzero
    rw [Nat.div_eq_zero_iff_lt hpow] at hzero
    omega
  · have := Nat.mod_lt code hpow
    omega

/-- The codes below those of the normal numbers count the least place. -/
theorem value_subnormal {code : Nat} (hcode : code < twoPow f.fractionBits) :
    f.value code = code * 2 ^ f.leastPlace := by
  rw [value, significand, place, Nat.div_eq_of_lt hcode]
  simp

/-- The number of a code that is given by its place and its significand. -/
theorem value_normal (places : Nat) {significand : Nat}
    (hlower : twoPow f.fractionBits ≤ significand)
    (hupper : significand < 2 * twoPow f.fractionBits) :
    f.value (places * twoPow f.fractionBits + significand)
      = significand * 2 ^ (f.leastPlace + places) := by
  have hpow := twoPow_pos f.fractionBits
  have hcode : places * twoPow f.fractionBits + significand
      = twoPow f.fractionBits * (places + 1) + (significand - twoPow f.fractionBits) := by
    rw [Nat.mul_add, Nat.mul_comm]
    omega
  have hrest : significand - twoPow f.fractionBits < twoPow f.fractionBits := by omega
  have hdiv : (places * twoPow f.fractionBits + significand) / twoPow f.fractionBits
      = places + 1 := by
    rw [hcode, Nat.mul_add_div hpow, Nat.div_eq_of_lt hrest]
  have hmod : (places * twoPow f.fractionBits + significand) % twoPow f.fractionBits
      = significand - twoPow f.fractionBits := by
    rw [hcode, Nat.mul_add_mod, Nat.mod_eq_of_lt hrest]
  rw [value, BinaryFormat.significand, place, hdiv, hmod, if_neg (by omega)]
  congr 2
  omega

/-- A code is below those of the normal numbers, or it is given by its place and its significand. -/
theorem code_cases (f : BinaryFormat) (code : Nat) :
    code < twoPow f.fractionBits
      ∨ ∃ places significand, twoPow f.fractionBits ≤ significand
        ∧ significand < 2 * twoPow f.fractionBits
        ∧ code = places * twoPow f.fractionBits + significand := by
  have hpow := twoPow_pos f.fractionBits
  by_cases hcode : code < twoPow f.fractionBits
  · exact .inl hcode
  · have hmod := Nat.mod_lt code hpow
    have hsplit := Nat.div_add_mod code (twoPow f.fractionBits)
    obtain ⟨places, hplaces⟩ : ∃ places, code / twoPow f.fractionBits = places + 1 :=
      ⟨_, (Nat.succ_pred (Nat.div_pos (not_lt.1 hcode) hpow).ne').symm⟩
    refine .inr ⟨places, twoPow f.fractionBits + code % twoPow f.fractionBits, by omega, by omega,
      ?_⟩
    rw [hplaces] at hsplit
    linarith

/-! ## Rounding a number of the format -/

/-- A fraction that is a number below the normal ones is not rounded. -/
theorem nearest_of_subnormal {num den code : Nat} (hnum : 0 < num) (hden : 0 < den)
    (hcode : code < twoPow f.fractionBits) (h : (num : ℚ) / den = code * 2 ^ f.leastPlace) :
    f.nearest num den = min f.infinity code := by
  have hlt : (code : ℚ) < 2 ^ (f.fractionBits : Int) := by
    rw [zpow_natCast, ← cast_twoPow, Nat.cast_lt]
    exact hcode
  have hlog : floorLogTwo num den < f.leastPlace + f.fractionBits := by
    refine (zpow_lt_zpow_iff_right₀ (a := (2 : ℚ)) (by norm_num)).1 ?_
    calc (2 : ℚ) ^ floorLogTwo num den ≤ num / den := (floorLogTwo_spec hnum hden).1
      _ = code * 2 ^ f.leastPlace := h
      _ < 2 ^ (f.fractionBits : Int) * 2 ^ f.leastPlace := by gcongr
      _ = 2 ^ (f.leastPlace + f.fractionBits) := by rw [← zpow_add₀ (by norm_num), add_comm]
  rw [nearest_eq f.leastPlace hnum hden (by omega) h]
  simp

/-- A fraction that is a normal number is not rounded. -/
theorem nearest_of_normal {num den places significand : Nat} (hnum : 0 < num) (hden : 0 < den)
    (hlower : twoPow f.fractionBits ≤ significand)
    (hupper : significand < 2 * twoPow f.fractionBits)
    (h : (num : ℚ) / den = significand * 2 ^ (f.leastPlace + places)) :
    f.nearest num den = min f.infinity (places * twoPow f.fractionBits + significand) := by
  have htwo : (2 : ℚ) ≠ 0 := by norm_num
  have hlog : floorLogTwo num den = f.leastPlace + places + f.fractionBits := by
    refine floorLogTwo_eq hnum hden ?_ ?_
    · rw [h, zpow_add₀ htwo _ (f.fractionBits : Int), mul_comm, zpow_natCast, ← cast_twoPow]
      gcongr
    · rw [h, add_assoc, zpow_add₀ htwo _ ((f.fractionBits : Int) + 1), mul_comm]
      gcongr
      rw [zpow_add₀ htwo, zpow_natCast, ← cast_twoPow, zpow_one]
      exact_mod_cast (by omega)
  rw [nearest_eq (f.leastPlace + places) hnum hden (by omega) h, add_sub_cancel_left,
    Int.toNat_natCast]

/-- A fraction that is the number of a code is rounded to that code. -/
theorem nearest_of_value {num den code : Nat} (hcode : 0 < code) (hle : code ≤ f.infinity)
    (hden : 0 < den) (h : (num : ℚ) / den = f.value code) : f.nearest num den = code := by
  have hnum : 0 < num := by
    rcases Nat.eq_zero_or_pos num with rfl | hnum
    · have hsignificand : (0 : ℚ) < f.significand code :=
        Nat.cast_pos.2 (significand_bounds hcode).1
      have hvalue : 0 < f.value code := by
        rw [value]
        positivity
      rw [Nat.cast_zero, zero_div] at h
      exact absurd h hvalue.ne
    · exact hnum
  rcases f.code_cases code with hsub | ⟨places, significand, hlower, hupper, rfl⟩
  · rw [nearest_of_subnormal hnum hden hsub (h.trans (value_subnormal hsub))]
    exact Nat.min_eq_right hle
  · rw [nearest_of_normal hnum hden hlower hupper (h.trans (value_normal places hlower hupper))]
    exact Nat.min_eq_right hle

/-! ## Widening -/

/-- A number that is shifted up as far as `bits` allow has all of them. -/
theorem shifted_bounds {m bits : Nat} (hm : 0 < m) (hlog : m.log2 ≤ bits) :
    twoPow bits ≤ m * 2 ^ (bits - m.log2) ∧ m * 2 ^ (bits - m.log2) < 2 * twoPow bits := by
  constructor
  · calc twoPow bits = 2 ^ m.log2 * 2 ^ (bits - m.log2) := by
          rw [← Nat.pow_add, Nat.add_sub_cancel' hlog]
          rfl
      _ ≤ m * 2 ^ (bits - m.log2) := Nat.mul_le_mul_right _ (Nat.log2_self_le hm.ne')
  · calc m * 2 ^ (bits - m.log2) < 2 ^ (m.log2 + 1) * 2 ^ (bits - m.log2) :=
          Nat.mul_lt_mul_of_pos_right Nat.lt_log2_self (Nat.two_pow_pos _)
      _ = 2 ^ (bits + 1) := by
          rw [← Nat.pow_add]
          congr 1
          omega
      _ = 2 * twoPow bits := Nat.mul_comm _ _

/-- A number of at most 53 significant bits is one of the format of 64 bits, if its greatest power
of two is neither too small for a normal number nor too large for a finite one. -/
theorem exists_code {m : Nat} {e : Int} (hm : 0 < m) (hlog : m.log2 ≤ 52)
    (hlower : -1022 ≤ e + m.log2) (hupper : e + m.log2 ≤ 1023) :
    ∃ code, 0 < code ∧ code < binary64.infinity ∧ binary64.value code = m * 2 ^ e := by
  -- The number is normal: its significand is shifted up to 53 bits.
  obtain ⟨hshifted, hbound⟩ := shifted_bounds hm hlog
  have hfifty : twoPow 52 = 4503599627370496 := rfl
  have hinfinity : binary64.infinity = 2047 * 4503599627370496 := rfl
  refine ⟨(e - (52 - m.log2 : Nat) + 1074).toNat * twoPow 52 + m * 2 ^ (52 - m.log2), ?_, ?_, ?_⟩
  · omega
  · rw [hfifty] at hbound ⊢
    rw [hinfinity]
    omega
  · have hvalue := binary64.value_normal (e - (52 - m.log2 : Nat) + 1074).toNat hshifted hbound
    have hexponent : binary64.leastPlace + ((e - (52 - m.log2 : Nat) + 1074).toNat : Int)
        = e - (52 - m.log2 : Nat) := by
      rw [show binary64.leastPlace = -1074 from rfl]
      omega
    rw [show binary64.fractionBits = 52 from rfl, hexponent] at hvalue
    rw [hvalue, Nat.cast_mul, Nat.cast_pow, Nat.cast_ofNat, mul_assoc, ← zpow_natCast,
      ← zpow_add₀ (by norm_num), add_sub_cancel]

/-- A finite number of the format of 32 bits other than zero is a number of the format of 64
bits. -/
theorem exists_wider {code : Nat} (hcode : 0 < code) (hfinite : code < binary32.infinity) :
    ∃ wider, 0 < wider ∧ wider < binary64.infinity
      ∧ binary64.value wider = binary32.value code := by
  have hinfinity : code < 2139095040 := hfinite
  obtain ⟨hpos, hlt⟩ := binary32.significand_bounds hcode
  have hplace : binary32.place code = -149 + ((code / 8388608 - 1 : Nat) : Int) := rfl
  have hbound : binary32.significand code < 2 ^ 24 := hlt
  have hlog : (binary32.significand code).log2 < 24 := (Nat.log2_lt hpos.ne').2 hbound
  exact exists_code hpos (by omega) (by omega) (by omega)

end BinaryFormat

namespace BinaryFloat

/-- A finite number that is converted into a format that has it becomes the code it has there. -/
theorem convert_of_value {f g : BinaryFormat} {negative : Bool} {code other : Nat}
    (hle : code ≤ f.infinity) (hfinite : code < f.infinity) (hother : 0 < other)
    (hotherle : other ≤ g.infinity) (h : f.value code = g.value other) :
    convert g (number negative code hle) = number negative other hotherle := by
  have hnearest : g.nearest (f.numerator code) (f.denominator code) = other :=
    BinaryFormat.nearest_of_value hother hotherle (twoPow_pos _)
      (by rw [BinaryFormat.numerator_div_denominator, h])
  rw [convert, if_neg (Nat.ne_of_lt hfinite)]
  simp only [ofRatio, hnearest]

/-- Narrowing a number that was widened gives it back. -/
theorem convert_binary32_convert_binary64 (x : Binary32) :
    convert binary32 (convert binary64 x) = x := by
  cases x with
  | nan => rfl
  | number negative code hle =>
    rcases Nat.eq_zero_or_pos code with rfl | hcode
    · rfl
    · by_cases hfinite : code < binary32.infinity
      · obtain ⟨wider, hwider, hwiderlt, hvalue⟩ := BinaryFormat.exists_wider hcode hfinite
        rw [convert_of_value hle hfinite hwider hwiderlt.le hvalue.symm,
          convert_of_value hwiderlt.le hwiderlt hcode hle hvalue]
      · obtain rfl : code = binary32.infinity := Nat.le_antisymm hle (not_lt.1 hfinite)
        rfl

end BinaryFloat

end RecordSql
