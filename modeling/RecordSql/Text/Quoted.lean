import RecordSql.Text.HiddenTable

/-!
# Quoted text

Text between double quotes, with a backslash before what could not stand there and the code of
what could not be seen.
-/

set_option autoImplicit false

namespace RecordSql

/-- Whether a character cannot be seen by itself. The characters of plain text are told at once. -/
def isHidden (c : Char) : Bool :=
  !(' ' ≤ c && c ≤ '~')
    && hiddenRuns.any fun (first, last) => first ≤ c.toNat && c.toNat ≤ last

/-- How a character is written between double quotes. -/
def quotedChar (c : Char) : List Char :=
  if c = '"' then ['\\', '"']
  else if c = '\\' then ['\\', '\\']
  else if c = '\n' then ['\\', 'n']
  else if c = '\r' then ['\\', 'r']
  else if c = '\t' then ['\\', 't']
  else if c.toNat = 0 then ['\\', '0']
  else if isHidden c then '\\' :: 'u' :: '\x7b' :: (Nat.toDigits 16 c.toNat ++ ['\x7d'])
  else [c]

/-- A text between double quotes. -/
def quotedText (s : String) : String :=
  String.ofList ('"' :: s.toList.flatMap quotedChar ++ ['"'])

end RecordSql
