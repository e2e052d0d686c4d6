import RecordSql.Value.Basic
import RecordSql.Json.Reader

/-!
# Conversion of values

A value that a driver reports is converted into the kind that a column expects. The two kinds of
integers convert into each other within range, integers into floating-point numbers by rounding,
the integers 0 and 1 into truth values, the two kinds of points in time into each other, and a
text into the identifier or the JSON value that it spells.
-/

set_option autoImplicit false

namespace RecordSql

/-- The mismatch of a value whose kind does not convert. -/
def Mismatch.ofKind (expected : Kind) (value : Value) : Mismatch := ⟨expected, .otherKind, value⟩

/-- The mismatch of a number outside the range. -/
def Mismatch.ofRange (expected : Kind) (value : Value) : Mismatch :=
  ⟨expected, .outOfRange, value⟩

namespace Value

/-- Converts a value other than NULL into another kind. -/
def convertKind (kind : Kind) (v : Value) : Except Mismatch Value :=
  match kind, v with
  | .int, .uint n =>
    match SignedInt.ofInt? 64 n.val with
    | some m => .ok (.int m)
    | none => .error (.ofRange .int v)
  | .uint, .int n =>
    match UnsignedInt.ofInt? 64 n.val with
    | some m => .ok (.uint m)
    | none => .error (.ofRange .uint v)
  | .float, .int n => .ok (.float (.ofInt binary64 n.val))
  | .float, .uint n => .ok (.float (.ofInt binary64 n.val))
  | .bool, .int n =>
    if n.val = 0 then .ok (.bool false)
    else if n.val = 1 then .ok (.bool true)
    else .error (.ofKind .bool v)
  | .timestamp, .timestamptz t => .ok (.timestamp t)
  | .timestamptz, .timestamp t => .ok (.timestamptz t)
  | .uuid, .text s =>
    match Uuid.read? s with
    | some u => .ok (.uuid u)
    | none => .error (.ofKind .uuid v)
  | .json, .text s =>
    match Json.read? s with
    | some j => .ok (.json j)
    | none => .error (.ofKind .json v)
  | _, _ => .error (.ofKind kind v)

/-- Converts a value into what a column of a kind holds. NULL passes where it is allowed, and a
value of the kind itself passes as it is. -/
def convert (kind : Kind) (nullable : Bool) (v : Value) : Except Mismatch Value :=
  match v.kind? with
  | none => if nullable then .ok .null else .error (.ofKind kind .null)
  | some held => if held = kind then .ok v else convertKind kind v

end Value

end RecordSql
