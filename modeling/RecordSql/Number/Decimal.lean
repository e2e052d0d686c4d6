import RecordSql.Number.Power
import RecordSql.Text.Digits

/-!
# Decimals with a scale

A decimal number keeps how many digits it has after the point: `1.5` and `1.50` are one number in
two writings.
-/

set_option autoImplicit false

namespace RecordSql

/-- A decimal number: a sign, the digits read as a whole number, and how many of them stand
after the point. -/
structure Decimal where
  /-- Whether a minus sign precedes the digits. -/
  negative : Bool
  /-- The digits, read as a whole number. -/
  coefficient : Nat
  /-- How many digits stand after the point. -/
  scale : Nat
deriving DecidableEq

namespace Decimal

/-- The number zero without digits after the point. -/
def zero : Decimal := ⟨false, 0, 0⟩

/-- The digits with their sign. -/
def signed (d : Decimal) : Int := if d.negative then -(d.coefficient : Int) else d.coefficient

/-- Equality as numbers compare, whatever the scales. -/
def numericEq (a b : Decimal) : Bool := a.signed * tenPow b.scale == b.signed * tenPow a.scale

/-- The text of a decimal, with exactly the digits of its scale after the point. -/
def render (d : Decimal) : String :=
  let digits := decimalPadded (d.scale + 1) d.coefficient
  let whole := digits.take (digits.length - d.scale)
  let fraction := digits.drop (digits.length - d.scale)
  String.ofList ((if d.negative then ['-'] else []) ++ whole
    ++ if d.scale = 0 then [] else '.' :: fraction)

/-- The decimal that a text of digits with at most one point stands for. -/
def read? (text : String) : Option Decimal := do
  let negative := text.toList.head? == some '-'
  let unsigned := if negative then text.toList.drop 1 else text.toList
  let whole := unsigned.takeWhile (· != '.')
  let fraction := (unsigned.dropWhile (· != '.')).drop 1
  let coefficient ← readDecimal? (whole ++ fraction)
  some ⟨negative, coefficient, fraction.length⟩

end Decimal

end RecordSql
