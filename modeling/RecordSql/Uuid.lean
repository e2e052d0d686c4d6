import RecordSql.Number.Bounded
import RecordSql.Text.Digits

/-!
# UUIDs

An identifier of 128 bits. It is written as 32 hexadecimal digits in groups of 8, 4, 4, 4 and 12
joined by hyphens, and read in that form, without the hyphens, in braces, or behind `urn:uuid:` in
ASCII letters of either case.
-/

set_option autoImplicit false

namespace RecordSql

/-- An identifier of 128 bits. -/
structure Uuid where
  /-- The bits as one number. -/
  bits : UnsignedInt 128
deriving DecidableEq

namespace Uuid

/-- The identifier whose bits are all zero. -/
def nil : Uuid := ⟨UnsignedInt.zero 128⟩

/-- The text of an identifier. -/
def render (u : Uuid) : String :=
  let digits := hexPadded 32 u.bits.val
  let group (start length : Nat) := (digits.drop start).take length
  String.ofList (group 0 8 ++ '-' :: (group 8 4 ++ '-' :: (group 12 4 ++ '-' ::
    (group 16 4 ++ '-' :: group 20 12))))

/-- The identifier that 32 hexadecimal digits stand for. -/
def ofDigits? (digits : List Char) : Option Uuid :=
  if digits.length = 32 then do
    let n ← readHex? digits
    let bits ← UnsignedInt.ofInt? 128 n
    some ⟨bits⟩
  else none

/-- The identifier that five groups of digits joined by hyphens stand for. -/
def ofGroups? (text : List Char) : Option Uuid :=
  if text.length = 36 ∧ text[8]? = some '-' ∧ text[13]? = some '-' ∧ text[18]? = some '-'
      ∧ text[23]? = some '-' then
    ofDigits? (text.take 8 ++ (text.drop 9).take 4 ++ (text.drop 14).take 4
      ++ (text.drop 19).take 4 ++ text.drop 24)
  else none

/-- The identifier that a text stands for, in any of the four forms. -/
def read? (text : String) : Option Uuid :=
  let cs := text.toList
  match cs.length with
  | 32 => ofDigits? cs
  | 36 => ofGroups? cs
  | 38 =>
    if cs.head? = some '\x7b' ∧ cs.getLast? = some '\x7d' then ofGroups? ((cs.drop 1).take 36)
    else none
  | 45 => if (cs.take 9).map Char.toLower = "urn:uuid:".toList then ofGroups? (cs.drop 9) else none
  | _ => none

end Uuid

end RecordSql
