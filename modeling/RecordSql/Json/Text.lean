import RecordSql.Json.Basic
import RecordSql.Number.DecimalText

/-!
# JSON text

The compact text of a value: no spaces, strings escaped only where they must be, and numbers
laid out by `Json.numberLayout`.
-/

set_option autoImplicit false

namespace RecordSql

namespace Json

/-- Numbers stand without an exponent from a hundred-thousandth up to sixteen digits before the
point, an exponent always has a sign, and what is not finite is written as `null`. -/
def numberLayout : FloatLayout where
  tie := .even
  leastPositional := -5
  greatestPositional := 15
  exponentPlus := "+"
  missing := "null"
  infinite _ := "null"

/-- The text of one character inside a string. -/
def escapeChar (c : Char) : List Char :=
  if c = '"' then ['\\', '"']
  else if c = '\\' then ['\\', '\\']
  else if c = '\n' then ['\\', 'n']
  else if c = '\r' then ['\\', 'r']
  else if c = '\t' then ['\\', 't']
  else if c = '\x08' then ['\\', 'b']
  else if c = '\x0c' then ['\\', 'f']
  else if c.toNat < 32 then '\\' :: 'u' :: hexPadded 4 c.toNat
  else [c]

/-- A string between quotes. -/
def quote (s : String) : String :=
  String.ofList ('"' :: s.toList.flatMap escapeChar ++ ['"'])

/-- The texts of the items of a list between brackets. -/
def bracketed (items : List String) : String := "[" ++ ",".intercalate items ++ "]"

mutual

/-- The compact text of a value. -/
def render : Json → String
  | .null => "null"
  | .bool b => if b then "true" else "false"
  | .integer n => decimalText n
  | .float x => numberLayout.render x
  | .string s => quote s
  | .array items => bracketed (renderItems items)
  | .object members => "\x7b" ++ ",".intercalate (renderMembers members) ++ "\x7d"

/-- The texts of a list of values. -/
def renderItems : List Json → List String
  | [] => []
  | item :: items => render item :: renderItems items

/-- The texts of the members of an object. -/
def renderMembers : List (String × Json) → List String
  | [] => []
  | (name, value) :: members => (quote name ++ ":" ++ render value) :: renderMembers members

end

end Json

end RecordSql
