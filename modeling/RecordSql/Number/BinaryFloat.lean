import RecordSql.Number.Power

/-!
# Binary floating-point numbers

A binary format is given by its number of fraction bits and of exponent bits. A number of the
format is a sign and a *magnitude code*: the exponent field followed by the fraction field, read
as one natural number. The codes of the finite numbers are consecutive, in the order of the
numbers, and the next code after them stands for infinity. All arithmetic below is exact, and
`nearest` is the only place where a number is rounded.
-/

set_option autoImplicit false

namespace RecordSql

/-- The field widths of a binary floating-point format. -/
structure BinaryFormat where
  /-- How many bits follow the binary point of a normal number. -/
  fractionBits : Nat
  /-- How many bits hold the exponent. -/
  exponentBits : Nat
deriving DecidableEq

/-- The format of 32 bits. -/
def binary32 : BinaryFormat := ⟨23, 8⟩

/-- The format of 64 bits. -/
def binary64 : BinaryFormat := ⟨52, 11⟩

/-- The quotient of two natural numbers, rounded to the nearest; a half goes to the even one. -/
def divHalfEven (num den : Nat) : Nat :=
  let quotient := num / den
  let twice := 2 * (num % den)
  if twice < den then quotient
  else if den < twice then quotient + 1
  else quotient + quotient % 2

namespace BinaryFormat

/-- The exponent of two that the last place of the smallest numbers stands for. -/
def leastPlace (f : BinaryFormat) : Int :=
  2 - twoPow (f.exponentBits - 1) - f.fractionBits

/-- The code of infinity, the first code that no finite number has. -/
def infinity (f : BinaryFormat) : Nat :=
  (twoPow f.exponentBits - 1) * twoPow f.fractionBits

/-- The whole number that the significant bits of a code form. -/
def significand (f : BinaryFormat) (code : Nat) : Nat :=
  if code / twoPow f.fractionBits = 0 then code
  else twoPow f.fractionBits + code % twoPow f.fractionBits

/-- The exponent of two that the last place of a code stands for. -/
def place (f : BinaryFormat) (code : Nat) : Int :=
  f.leastPlace + ((code / twoPow f.fractionBits - 1 : Nat) : Int)

/-- The numerator of the number a code stands for. -/
def numerator (f : BinaryFormat) (code : Nat) : Nat :=
  f.significand code * twoPow (f.place code).toNat

/-- The denominator of the number a code stands for. -/
def denominator (f : BinaryFormat) (code : Nat) : Nat :=
  twoPow (-(f.place code)).toNat

/-- The exponent of the greatest power of two not above `num / den`, for positive numbers. -/
def floorLogTwo (num den : Nat) : Int :=
  let guess : Int := (num.log2 : Int) - (den.log2 : Int)
  if den * twoPow guess.toNat ≤ num * twoPow (-guess).toNat then guess else guess - 1

/-- The code of the number nearest to `num / den`. Of two equally near ones it is the one with
the even code, and a number beyond the finite ones gets the code of infinity. -/
def nearest (f : BinaryFormat) (num den : Nat) : Nat :=
  if num = 0 then 0
  else
    let place := max f.leastPlace (floorLogTwo num den - f.fractionBits)
    let rounded := divHalfEven (num * twoPow (-place).toNat) (den * twoPow place.toNat)
    min f.infinity ((place - f.leastPlace).toNat * twoPow f.fractionBits + rounded)

/-- No code that rounding gives is beyond infinity. -/
theorem nearest_le (f : BinaryFormat) (num den : Nat) : f.nearest num den ≤ f.infinity := by
  unfold nearest
  split
  · exact Nat.zero_le _
  · exact Nat.min_le_left _ _

end BinaryFormat

/-- A number of a binary format, or the one value that stands for no number. -/
inductive BinaryFloat (f : BinaryFormat) where
  /-- No number. -/
  | nan
  /-- A sign and a magnitude code. -/
  | number (negative : Bool) (code : Nat) (le : code ≤ f.infinity)
deriving DecidableEq

/-- A number of the format of 64 bits. -/
abbrev Binary64 := BinaryFloat binary64

/-- A number of the format of 32 bits. -/
abbrev Binary32 := BinaryFloat binary32

namespace BinaryFloat

variable {f g : BinaryFormat}

/-- Zero with a sign. -/
def signedZero (f : BinaryFormat) (negative : Bool) : BinaryFloat f :=
  .number negative 0 (Nat.zero_le _)

/-- Positive zero. -/
def zero (f : BinaryFormat) : BinaryFloat f := signedZero f false

/-- Infinity with a sign. -/
def infinite (f : BinaryFormat) (negative : Bool) : BinaryFloat f :=
  .number negative f.infinity (Nat.le_refl _)

/-- The number nearest to a fraction with a sign of its own. -/
def ofRatio (f : BinaryFormat) (negative : Bool) (num den : Nat) : BinaryFloat f :=
  .number negative (f.nearest num den) (f.nearest_le num den)

/-- The number nearest to a whole number. -/
def ofInt (f : BinaryFormat) (n : Int) : BinaryFloat f :=
  ofRatio f (decide (n < 0)) n.natAbs 1

/-- The nearest number of another format; an infinite number stays infinite. -/
def convert (g : BinaryFormat) : BinaryFloat f → BinaryFloat g
  | .nan => .nan
  | .number negative code _ =>
    if code = f.infinity then infinite g negative
    else ofRatio g negative (f.numerator code) (f.denominator code)

/-- Whether the number is neither infinite nor missing. -/
def isFinite : BinaryFloat f → Bool
  | .nan => false
  | .number _ code _ => code != f.infinity

/-- Equality as numbers compare: the two zeros are equal, and what is no number differs from
everything, itself included. -/
def numericEq : BinaryFloat f → BinaryFloat f → Bool
  | .number s c _, .number t d _ => c == d && (s == t || c == 0)
  | _, _ => false

/-- The number with the given bits. All patterns that stand for no number are one value. -/
def ofBits (f : BinaryFormat) (bits : Nat) : BinaryFloat f :=
  let size := f.exponentBits + f.fractionBits
  let code := bits % twoPow size
  if h : code ≤ f.infinity then .number (bits / twoPow size % 2 == 1) code h else .nan

/-- The bits of a number; `none` for what is no number. -/
def toBits? : BinaryFloat f → Option Nat
  | .nan => none
  | .number negative code _ =>
    some (if negative then twoPow (f.exponentBits + f.fractionBits) + code else code)

end BinaryFloat

end RecordSql
