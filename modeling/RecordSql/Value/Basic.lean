import RecordSql.Number.Bounded
import RecordSql.Number.Decimal
import RecordSql.Calendar
import RecordSql.Uuid
import RecordSql.Json.Basic

/-!
# Values

What a statement binds to its placeholders and what a row holds in its cells: SQL NULL or a value
of one of twelve kinds.
-/

set_option autoImplicit false

namespace RecordSql

/-- The kinds of values other than NULL. -/
inductive Kind where
  | bool | int | uint | float | text | bytes | date | timestamp | timestamptz | uuid | json
  | decimal
deriving DecidableEq

/-- A value that is bound to a placeholder or held by a cell. -/
inductive Value where
  /-- SQL NULL. -/
  | null
  /-- A truth value. -/
  | bool (b : Bool)
  /-- A signed integer. -/
  | int (n : SignedInt 64)
  /-- An unsigned integer. -/
  | uint (n : UnsignedInt 64)
  /-- A floating-point number. -/
  | float (x : Binary64)
  /-- A text. -/
  | text (s : String)
  /-- A string of bytes. -/
  | bytes (b : List UInt8)
  /-- A day. -/
  | date (d : Date)
  /-- A point in time without a time zone. -/
  | timestamp (t : Timestamp)
  /-- A point in time in UTC. -/
  | timestamptz (t : Timestamp)
  /-- An identifier of 128 bits. -/
  | uuid (u : Uuid)
  /-- A JSON value. -/
  | json (j : Json)
  /-- A decimal number with a scale. -/
  | decimal (d : Decimal)

namespace Kind

/-- The name of a kind as messages give it. -/
def label : Kind → String
  | .bool => "Bool"
  | .int => "Int"
  | .uint => "UInt"
  | .float => "Float"
  | .text => "Text"
  | .bytes => "Bytes"
  | .date => "Date"
  | .timestamp => "Timestamp"
  | .timestamptz => "TimestampTz"
  | .uuid => "Uuid"
  | .json => "Json"
  | .decimal => "Decimal"

end Kind

namespace Value

/-- The kind of a value; NULL has none. -/
def kind? : Value → Option Kind
  | .null => none
  | .bool _ => some .bool
  | .int _ => some .int
  | .uint _ => some .uint
  | .float _ => some .float
  | .text _ => some .text
  | .bytes _ => some .bytes
  | .date _ => some .date
  | .timestamp _ => some .timestamp
  | .timestamptz _ => some .timestamptz
  | .uuid _ => some .uuid
  | .json _ => some .json
  | .decimal _ => some .decimal

/-- Whether a value is NULL. -/
def isNull : Value → Bool
  | .null => true
  | _ => false

/-- What a message says was found in place of an expected kind. -/
def foundName : Value → String
  | .null => "NULL"
  | .bool _ => "bool"
  | .int _ => "int"
  | .uint _ => "uint"
  | .float _ => "float"
  | .text _ => "text"
  | .bytes _ => "bytes"
  | .date _ => "date"
  | .timestamp _ => "timestamp"
  | .timestamptz _ => "timestamptz"
  | .uuid _ => "uuid"
  | .json _ => "json"
  | .decimal _ => "decimal"

/-- Equality of values. Values of two kinds differ; floating-point and decimal numbers compare as
numbers, so that no number at all differs from itself. -/
def equal : Value → Value → Bool
  | .null, .null => true
  | .bool a, .bool b => a == b
  | .int a, .int b => a.val == b.val
  | .uint a, .uint b => a.val == b.val
  | .float a, .float b => a.numericEq b
  | .text a, .text b => a == b
  | .bytes a, .bytes b => a == b
  | .date a, .date b => a == b
  | .timestamp a, .timestamp b => a == b
  | .timestamptz a, .timestamptz b => a == b
  | .uuid a, .uuid b => a == b
  | .json a, .json b => a.equal b
  | .decimal a, .decimal b => a.numericEq b
  | _, _ => false

/-- Only NULL has no kind. -/
theorem kind?_eq_none_iff {v : Value} : v.kind? = none ↔ v = .null := by
  cases v <;> simp [kind?]

end Value

/-- Why a value does not fit where it was put. -/
inductive Misfit where
  /-- It is of a kind that cannot be converted. -/
  | otherKind
  /-- It is a number outside the range. -/
  | outOfRange
deriving DecidableEq

/-- A value that does not fit a kind: what was expected, what was found, and in which way the
two disagree. -/
structure Mismatch where
  /-- The kind that was expected. -/
  expected : Kind
  /-- Why the value does not fit. -/
  misfit : Misfit
  /-- The value that was found. -/
  value : Value

namespace Mismatch

/-- What a message says was found. -/
def found (m : Mismatch) : String :=
  match m.misfit with
  | .otherKind => m.value.foundName
  | .outOfRange => "out of range " ++ m.value.foundName

/-- The text of a mismatch. -/
def message (m : Mismatch) : String := "expected " ++ m.expected.label ++ ", found " ++ m.found

end Mismatch

end RecordSql
