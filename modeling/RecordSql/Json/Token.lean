import RecordSql.Json.Basic
import RecordSql.Number.DecimalText

/-!
# JSON tokens

The lexical level of JSON text: punctuation, strings and the values that are written without
either brackets or quotes. Blanks are the four characters space, tab, line feed and carriage
return, and nothing beyond the grammar is let through.
-/

set_option autoImplicit false

namespace RecordSql.Json

/-- The smallest parts of JSON text. -/
inductive Token where
  /-- An opening square bracket. -/
  | arrayStart
  /-- A closing square bracket. -/
  | arrayEnd
  /-- An opening brace. -/
  | objectStart
  /-- A closing brace. -/
  | objectEnd
  /-- A comma. -/
  | comma
  /-- A colon. -/
  | colon
  /-- A quoted string, by what it stands for. -/
  | string (s : String)
  /-- A number or one of the three words. -/
  | scalar (value : Json)

/-- The character that a backslash and one further character stand for. -/
def shortEscape? : Char → Option Char
  | '"' => some '"'
  | '\\' => some '\\'
  | '/' => some '/'
  | 'b' => some '\x08'
  | 'f' => some '\x0c'
  | 'n' => some '\n'
  | 'r' => some '\r'
  | 't' => some '\t'
  | _ => none

/-- The character with the given code units: one outside the surrogates, or a leading surrogate
followed by a trailing one. -/
def unitsChar? (unit : Nat) (second : Option Nat) : Option Char :=
  match second with
  | none => if 0xD800 ≤ unit ∧ unit < 0xE000 then none else some (Char.ofNat unit)
  | some low =>
    if 0xD800 ≤ unit ∧ unit < 0xDC00 ∧ 0xDC00 ≤ low ∧ low < 0xE000 then
      some (Char.ofNat (0x10000 + (unit - 0xD800) * 0x400 + (low - 0xDC00)))
    else none

/-- Reads a string up to its closing quote; `done` holds what was read so far, last first. -/
def lexString (done : List Char) : List Char → Option (String × List Char)
  | [] => none
  | '"' :: rest => some (String.ofList done.reverse, rest)
  | '\\' :: 'u' :: a :: b :: c :: d :: rest => do
    let unit ← readHex? [a, b, c, d]
    if 0xD800 ≤ unit ∧ unit < 0xDC00 then
      match rest with
      | '\\' :: 'u' :: e :: f :: g :: h :: rest => do
        let low ← readHex? [e, f, g, h]
        let char ← unitsChar? unit (some low)
        lexString (char :: done) rest
      | _ => none
    else do
      let char ← unitsChar? unit none
      lexString (char :: done) rest
  | '\\' :: c :: rest => do
    let char ← shortEscape? c
    lexString (char :: done) rest
  | c :: rest => if c.toNat < 32 ∨ c = '\\' then none else lexString (c :: done) rest

/-- The digits after a point, when there is a point; a point without digits is refused. -/
def lexFraction : List Char → Option (List Char × List Char)
  | '.' :: rest =>
    let digits := rest.takeWhile Char.isDigit
    if digits.isEmpty then none else some (digits, rest.dropWhile Char.isDigit)
  | rest => some ([], rest)

/-- The exponent after its mark; a mark without digits is refused. -/
def lexExponent : List Char → Option (Option Int × List Char)
  | c :: rest =>
    if c = 'e' ∨ c = 'E' then
      let negative := rest.head? == some '-'
      let unsigned := if negative ∨ rest.head? == some '+' then rest.drop 1 else rest
      do
        let n ← readDecimal? (unsigned.takeWhile Char.isDigit)
        some (some (if negative then -(n : Int) else n), unsigned.dropWhile Char.isDigit)
    else some (none, c :: rest)
  | [] => some (none, [])

/-- The value of a number. Without fraction and exponent it is whole if 64 bits can hold it,
except that a negative zero is kept as a floating-point number; a number beyond the finite ones
is refused. -/
def numberValue? (negative : Bool) (whole fraction : List Char) (exponent : Option Int) :
    Option Json := do
  let digits ← readDecimal? (whole ++ fraction)
  let fits := if negative then 0 < digits ∧ digits ≤ twoPow 63 else digits < twoPow 64
  if fraction.isEmpty ∧ exponent.isNone ∧ fits then
    some (.integer (if negative then -(digits : Int) else digits))
  else
    let power := exponent.getD 0 - (fraction.length : Int)
    let x := BinaryFloat.ofDecimal binary64 negative digits power
    if x.isFinite then some (.float x) else none

/-- Reads a number without its sign. -/
def lexNumber (negative : Bool) (cs : List Char) : Option (Json × List Char) := do
  let whole := cs.takeWhile Char.isDigit
  if whole.length > 1 ∧ whole.head? = some '0' then none
  let (fraction, rest) ← lexFraction (cs.dropWhile Char.isDigit)
  let (exponent, rest) ← lexExponent rest
  if whole.isEmpty then none
  let value ← numberValue? negative whole fraction exponent
  some (value, rest)

/-- Reads one token from text that does not start with a blank. -/
def lexToken : List Char → Option (Token × List Char)
  | '[' :: rest => some (.arrayStart, rest)
  | ']' :: rest => some (.arrayEnd, rest)
  | '\x7b' :: rest => some (.objectStart, rest)
  | '\x7d' :: rest => some (.objectEnd, rest)
  | ',' :: rest => some (.comma, rest)
  | ':' :: rest => some (.colon, rest)
  | '"' :: rest => (lexString [] rest).map fun (s, rest) => (.string s, rest)
  | 'n' :: 'u' :: 'l' :: 'l' :: rest => some (.scalar .null, rest)
  | 't' :: 'r' :: 'u' :: 'e' :: rest => some (.scalar (.bool true), rest)
  | 'f' :: 'a' :: 'l' :: 's' :: 'e' :: rest => some (.scalar (.bool false), rest)
  | '-' :: rest => (lexNumber true rest).map fun (v, rest) => (.scalar v, rest)
  | c :: rest =>
    if c.isDigit then (lexNumber false (c :: rest)).map fun (v, rest) => (.scalar v, rest)
    else none
  | [] => none

/-- Whether JSON lets a character stand between tokens. -/
def isBlank (c : Char) : Bool := c == ' ' || c == '\t' || c == '\n' || c == '\r'

/-- The tokens of a text, reading at most `limit` of them. -/
def lexAll : Nat → List Char → Option (List Token)
  | limit, cs =>
    match cs.dropWhile isBlank, limit with
    | [], _ => some []
    | _, 0 => none
    | c :: rest, limit + 1 => do
      let (token, rest) ← lexToken (c :: rest)
      let tokens ← lexAll limit rest
      some (token :: tokens)

/-- The tokens of a text. Each takes at least one character, so their number is no limit. -/
def tokens? (text : String) : Option (List Token) :=
  lexAll text.toList.length text.toList

end RecordSql.Json
