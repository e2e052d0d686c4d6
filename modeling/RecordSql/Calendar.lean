import RecordSql.Text.Digits

/-!
# Dates and times

Days of the proleptic Gregorian calendar, with years before the year one, and points in time on
them to the nanosecond. A leap second is the last second of its minute with a nanosecond count of
a thousand million or more.
-/

set_option autoImplicit false

namespace RecordSql

/-- A day of the calendar. -/
structure Date where
  /-- The year, which may be zero or negative. -/
  year : Int
  /-- The month, from one. -/
  month : Nat
  /-- The day of the month, from one. -/
  day : Nat
deriving DecidableEq

/-- A point in time on a day. -/
structure Timestamp where
  /-- The day. -/
  date : Date
  /-- The hour of the day. -/
  hour : Nat
  /-- The minute of the hour. -/
  minute : Nat
  /-- The second of the minute, at most 59. -/
  second : Nat
  /-- The nanosecond of the second; a thousand million and more within a leap second. -/
  nanosecond : Nat
deriving DecidableEq

namespace Date

/-- The day from which times are counted. -/
def epoch : Date := ⟨1970, 1, 1⟩

/-- The year with four digits; outside the years 0 to 9999 with a sign and at least four. -/
def yearText (year : Int) : List Char :=
  if 0 ≤ year ∧ year ≤ 9999 then decimalPadded 4 year.natAbs
  else (if year < 0 then '-' else '+') :: decimalPadded 4 year.natAbs

/-- Year, month and day, joined by hyphens. -/
def chars (d : Date) : List Char :=
  yearText d.year ++ '-' :: (decimalPadded 2 d.month ++ '-' :: decimalPadded 2 d.day)

/-- The text of a day. -/
def render (d : Date) : String := String.ofList d.chars

end Date

namespace Timestamp

/-- The first moment of the day from which times are counted. -/
def epoch : Timestamp := ⟨Date.epoch, 0, 0, 0, 0⟩

/-- How many nanoseconds a second has. -/
def secondLength : Nat := 1000000000

/-- The fraction of a second after its point, with three, six or nine digits; nothing for none. -/
def fractionText (nanosecond : Nat) : List Char :=
  if nanosecond = 0 then []
  else if nanosecond % 1000000 = 0 then '.' :: decimalPadded 3 (nanosecond / 1000000)
  else if nanosecond % 1000 = 0 then '.' :: decimalPadded 6 (nanosecond / 1000)
  else '.' :: decimalPadded 9 nanosecond

/-- The text of a point in time: the day, `T`, and the time. A leap second is second 60. -/
def render (t : Timestamp) : String :=
  let leaps := secondLength ≤ t.nanosecond
  let second := if leaps then t.second + 1 else t.second
  let nanosecond := if leaps then t.nanosecond - secondLength else t.nanosecond
  String.ofList (t.date.chars ++ 'T' :: (decimalPadded 2 t.hour ++ ':' ::
    (decimalPadded 2 t.minute ++ ':' :: (decimalPadded 2 second ++ fractionText nanosecond))))

/-- The text of a point in time in UTC, which ends in `Z`. -/
def renderUtc (t : Timestamp) : String := t.render ++ "Z"

end Timestamp

end RecordSql
