import RecordSql.Number.BinaryFloat
import RecordSql.Text.Digits

/-!
# Binary numbers in decimal

The decimal digits of a binary number are the fewest that read back as that number, and of those
the nearest to it. How the digits are laid out (where the point stands, when an exponent is
written) and which of two equally near decimals is written is a `FloatLayout`, chosen by the
format that writes the number. The way back, from a
decimal to the nearest binary number, is `BinaryFloat.ofDecimal`.
-/

set_option autoImplicit false

namespace RecordSql

/-- A positive number written as `d.ddd` times a power of ten. -/
structure Scientific where
  /-- The digits, the first of them not zero and the last of them not zero. -/
  digits : List Char
  /-- The power of ten of the first digit. -/
  exponent : Int

/-- Which of two equally near whole numbers is taken. -/
inductive Tie where
  /-- The even one. -/
  | even
  /-- The greater one. -/
  | up
deriving DecidableEq

/-- The whole number nearest to `num / den`. -/
def Tie.divide (tie : Tie) (num den : Nat) : Nat :=
  match tie with
  | .even => divHalfEven num den
  | .up => (2 * num + den) / (2 * den)

namespace BinaryFormat

/-- The exponent of the greatest power of ten not above `num / den`, for positive numbers. -/
def floorLogTen (num den : Nat) : Int :=
  let guess : Int := ((decimalDigits num).length : Int) - ((decimalDigits den).length : Int)
  if den * tenPow guess.toNat ≤ num * tenPow (-guess).toNat then guess else guess - 1

/-- The code nearest to a number of units of `10 ^ power`. -/
def nearestDecimal (f : BinaryFormat) (units : Nat) (power : Int) : Nat :=
  f.nearest (units * tenPow power.toNat) (tenPow (-power).toNat)

/-- The multiple of `10 ^ power` that reads back as the given code, if one of the two multiples
around its number does; if both do, the nearer. -/
def multipleReadingBack? (f : BinaryFormat) (tie : Tie) (code : Nat) (power : Int) : Option Nat :=
  let num := f.numerator code * tenPow (-power).toNat
  let den := f.denominator code * tenPow power.toNat
  let below := num / den
  let nearer := tie.divide num den
  let reads (units : Nat) : Bool := f.nearestDecimal units power == code
  if reads nearer then some nearer
  else if reads below then some below
  else if reads (below + 1) then some (below + 1)
  else none

/-- The shortest decimal that reads back as the positive finite number with the given code. -/
def shortest (f : BinaryFormat) (tie : Tie) (code : Nat) : Scientific :=
  let first := floorLogTen (f.numerator code) (f.denominator code)
  let found := (List.range (f.fractionBits + 2)).findSome? fun (more : Nat) =>
    let power := first - (more : Int)
    (f.multipleReadingBack? tie code power).map fun units => (units, power)
  let (units, power) := found.getD (0, 0)
  let digits := decimalDigits units
  { digits := (digits.reverse.dropWhile (· == '0')).reverse
    exponent := power + (digits.length : Int) - 1 }

end BinaryFormat

/-- How a format writes floating-point numbers. -/
structure FloatLayout where
  /-- Which of two equally near decimals is written. -/
  tie : Tie
  /-- The least power of ten of a first digit that is written without an exponent. -/
  leastPositional : Int
  /-- The greatest power of ten of a first digit that is written without an exponent. -/
  greatestPositional : Int
  /-- What precedes an exponent that is not negative. -/
  exponentPlus : String
  /-- What is written for no number. -/
  missing : String
  /-- What is written for infinity, given whether it is negative. -/
  infinite : Bool → String

namespace FloatLayout

/-- The digits with a point in their place and at least one digit on each side of it. -/
def positional (s : Scientific) : List Char :=
  if s.exponent < 0 then
    '0' :: '.' :: (List.replicate (-s.exponent - 1).toNat '0' ++ s.digits)
  else
    let whole := s.exponent.toNat + 1
    let fraction := s.digits.drop whole
    s.digits.take whole ++ List.replicate (whole - s.digits.length) '0'
      ++ '.' :: (if fraction.isEmpty then ['0'] else fraction)

/-- The first digit, a point before the others if there are any, and the exponent. -/
def withExponent (layout : FloatLayout) (s : Scientific) : List Char :=
  let tail := s.digits.drop 1
  let sign := if s.exponent < 0 then ['-'] else layout.exponentPlus.toList
  s.digits.take 1 ++ (if tail.isEmpty then [] else '.' :: tail)
    ++ 'e' :: (sign ++ decimalDigits s.exponent.natAbs)

/-- The text of a number. -/
def render (layout : FloatLayout) {f : BinaryFormat} : BinaryFloat f → String
  | .nan => layout.missing
  | .number negative code _ =>
    if code = f.infinity then layout.infinite negative
    else
      let sign := if negative then ['-'] else []
      if code = 0 then String.ofList (sign ++ ['0', '.', '0'])
      else
        let s := f.shortest layout.tie code
        let isPositional :=
          layout.leastPositional ≤ s.exponent ∧ s.exponent ≤ layout.greatestPositional
        String.ofList (sign ++ if isPositional then positional s else layout.withExponent s)

end FloatLayout

/-- The number nearest to `digits` times a power of ten. A first digit above every finite number
or below half the least number decides without the power being written out. -/
def BinaryFloat.ofDecimal (f : BinaryFormat) (negative : Bool) (digits : Nat) (power : Int) :
    BinaryFloat f :=
  let first := power + ((decimalDigits digits).length : Int) - 1
  if digits = 0 ∨ first < f.leastPlace - 2 then signedZero f negative
  else if twoPow (f.exponentBits - 1) < first then infinite f negative
  else ofRatio f negative (digits * tenPow power.toNat) (tenPow (-power).toNat)

end RecordSql
