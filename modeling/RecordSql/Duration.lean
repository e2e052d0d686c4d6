import RecordSql.Number.Power
import RecordSql.Text.Digits

/-!
# Durations

A length of time in nanoseconds, and its text in the largest unit that it fills.
-/

set_option autoImplicit false

namespace RecordSql

/-- A length of time. -/
structure Duration where
  /-- Its length in nanoseconds. -/
  nanoseconds : Nat
deriving DecidableEq

namespace Duration

/-- Whole milliseconds, what is left over dropped. -/
def milliseconds (d : Duration) : Nat := d.nanoseconds / 1000000

/-- The length that a number of milliseconds has. -/
def ofMilliseconds (n : Nat) : Duration := ⟨n * 1000000⟩

/-- A count of units, written with a point: `places` digits are the fraction, of which the
trailing zeros are left out. -/
def inUnit (n places : Nat) (unit : String) : String :=
  let fraction := ((decimalPadded places (n % tenPow places)).reverse.dropWhile (· == '0')).reverse
  String.ofList (decimalDigits (n / tenPow places)
    ++ if fraction.isEmpty then [] else '.' :: fraction) ++ unit

/-- The text of a length of time: seconds from one second on, below that milliseconds,
microseconds or nanoseconds. -/
def render (d : Duration) : String :=
  if 1000000000 ≤ d.nanoseconds then inUnit d.nanoseconds 9 "s"
  else if 1000000 ≤ d.nanoseconds then inUnit d.nanoseconds 6 "ms"
  else if 1000 ≤ d.nanoseconds then inUnit d.nanoseconds 3 "µs"
  else String.ofList (decimalDigits d.nanoseconds) ++ "ns"

end Duration

end RecordSql
