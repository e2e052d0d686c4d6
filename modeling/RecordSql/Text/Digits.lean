/-!
# Digits

Natural numbers in decimal and hexadecimal digits, both ways. Reading takes a run of digits as a
whole: one character that is no digit, or no character at all, and there is no number.
-/

set_option autoImplicit false

namespace RecordSql

/-- The decimal digits of a natural number, without leading zeros. -/
def decimalDigits (n : Nat) : List Char := Nat.toDigits 10 n

/-- The decimal digits of a number, padded with zeros to a width. -/
def decimalPadded (width n : Nat) : List Char :=
  List.replicate (width - (decimalDigits n).length) '0' ++ decimalDigits n

/-- A whole number in decimal, a minus sign before a negative one. -/
def decimalText (n : Int) : String :=
  String.ofList ((if n < 0 then ['-'] else []) ++ decimalDigits n.natAbs)

/-- The hexadecimal digits of a number in lower case, padded with zeros to a width. -/
def hexPadded (width n : Nat) : List Char :=
  let digits := Nat.toDigits 16 n
  List.replicate (width - digits.length) '0' ++ digits

/-- The value of a decimal digit. -/
def decimalValue? (c : Char) : Option Nat :=
  if '0' ≤ c ∧ c ≤ '9' then some (c.toNat - '0'.toNat) else none

/-- The value of a hexadecimal digit of either case. -/
def hexValue? (c : Char) : Option Nat :=
  if '0' ≤ c ∧ c ≤ '9' then some (c.toNat - '0'.toNat)
  else if 'a' ≤ c ∧ c ≤ 'f' then some (c.toNat - 'a'.toNat + 10)
  else if 'A' ≤ c ∧ c ≤ 'F' then some (c.toNat - 'A'.toNat + 10)
  else none

/-- The number that digits of a base stand for, most significant digit first. -/
def readDigits? (base : Nat) (value? : Char → Option Nat) (cs : List Char) : Option Nat :=
  if cs.isEmpty then none
  else cs.foldlM (fun n c => (value? c).map (base * n + ·)) 0

/-- The number that decimal digits stand for. -/
def readDecimal? (cs : List Char) : Option Nat := readDigits? 10 decimalValue? cs

/-- The number that hexadecimal digits stand for. -/
def readHex? (cs : List Char) : Option Nat := readDigits? 16 hexValue? cs

/-- The whole number that a text of digits stands for, a minus sign before it allowed. -/
def readInt? (text : String) : Option Int :=
  match text.toList with
  | '-' :: digits => (readDecimal? digits).map fun n => -(n : Int)
  | digits => (readDecimal? digits).map fun n => (n : Int)

/-- The bytes that pairs of hexadecimal digits stand for. -/
def readHexBytes? : List Char → Option (List UInt8)
  | [] => some []
  | high :: low :: rest => do
    let byte ← readHex? [high, low]
    let bytes ← readHexBytes? rest
    some (UInt8.ofNat byte :: bytes)
  | _ => none

/-- Bytes as pairs of hexadecimal digits. -/
def hexBytes (bytes : List UInt8) : String :=
  String.ofList (bytes.flatMap fun b => hexPadded 2 b.toNat)

end RecordSql
