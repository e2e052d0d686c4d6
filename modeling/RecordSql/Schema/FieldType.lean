import RecordSql.Value.Conversion

/-!
# Field types

The types that a field of a record may have, what a field of each type contains, and the two ways
between contents and values. A field type is stored in columns of one kind; integers of every
width share a kind, and so do the two floating-point formats.
-/

set_option autoImplicit false

namespace RecordSql

/-- The widths of integer fields. -/
inductive Width where
  | w8 | w16 | w32 | w64
deriving DecidableEq

/-- How many bits an integer of a width has. -/
def Width.bits : Width → Nat
  | .w8 => 8
  | .w16 => 16
  | .w32 => 32
  | .w64 => 64

/-- No integer field has more bits than the integers of a value. -/
theorem Width.bits_le (width : Width) : width.bits ≤ 64 := by cases width <;> decide

/-- The types of fields that always hold a value. -/
inductive Scalar where
  | bool
  | signed (width : Width)
  | unsigned (width : Width)
  | single
  | double
  | text
  | bytes
  | date
  | timestamp
  | timestamptz
  | uuid
  | json
  | decimal
deriving DecidableEq

/-- The type of a field: a scalar, or a scalar that may be absent. -/
inductive FieldType where
  /-- The field always holds a value. -/
  | required (scalar : Scalar)
  /-- The field may hold NULL. -/
  | optional (scalar : Scalar)
deriving DecidableEq

namespace Scalar

/-- What a field of a scalar type contains. -/
def Content : Scalar → Type
  | .bool => Bool
  | .signed width => SignedInt width.bits
  | .unsigned width => UnsignedInt width.bits
  | .single => Binary32
  | .double => Binary64
  | .text => String
  | .bytes => List UInt8
  | .date => Date
  | .timestamp => Timestamp
  | .timestamptz => Timestamp
  | .uuid => Uuid
  | .json => Json
  | .decimal => Decimal

/-- The kind of the column that stores a scalar. -/
def kind : Scalar → Kind
  | .bool => .bool
  | .signed _ => .int
  | .unsigned _ => .uint
  | .single | .double => .float
  | .text => .text
  | .bytes => .bytes
  | .date => .date
  | .timestamp => .timestamp
  | .timestamptz => .timestamptz
  | .uuid => .uuid
  | .json => .json
  | .decimal => .decimal

/-- What a field contains before anything is put into it. -/
def initial : (s : Scalar) → s.Content
  | .bool => false
  | .signed width => SignedInt.zero width.bits
  | .unsigned width => UnsignedInt.zero width.bits
  | .single => BinaryFloat.zero binary32
  | .double => BinaryFloat.zero binary64
  | .text => ""
  | .bytes => []
  | .date => Date.epoch
  | .timestamp => Timestamp.epoch
  | .timestamptz => Timestamp.epoch
  | .uuid => Uuid.nil
  | .json => Json.null
  | .decimal => Decimal.zero

end Scalar

namespace SignedInt

/-- No integer field is wider than the integers of a value. -/
theorem widen_bounds {width : Width} (n : SignedInt width.bits) :
    -(twoPow (64 - 1) : Int) ≤ n.val ∧ n.val < (twoPow (64 - 1) : Int) := by
  have wider := twoPow_le_twoPow (Nat.sub_le_sub_right width.bits_le 1)
  have lower := n.lower
  have upper := n.upper
  omega

/-- The same number as a value holds it. -/
def widen {width : Width} (n : SignedInt width.bits) : SignedInt 64 :=
  ⟨n.val, n.widen_bounds.1, n.widen_bounds.2⟩

end SignedInt

namespace UnsignedInt

/-- No integer field is wider than the integers of a value. -/
theorem widen_bound {width : Width} (n : UnsignedInt width.bits) : n.val < twoPow 64 :=
  Nat.lt_of_lt_of_le n.upper (twoPow_le_twoPow width.bits_le)

/-- The same number as a value holds it. -/
def widen {width : Width} (n : UnsignedInt width.bits) : UnsignedInt 64 :=
  ⟨n.val, n.widen_bound⟩

end UnsignedInt

namespace Scalar

/-- The value of a field's content. -/
def toValue : (s : Scalar) → s.Content → Value
  | .bool, b => .bool b
  | .signed _, n => .int (SignedInt.widen n)
  | .unsigned _, n => .uint (UnsignedInt.widen n)
  | .single, x => .float (BinaryFloat.convert binary64 x)
  | .double, x => .float x
  | .text, s => .text s
  | .bytes, b => .bytes b
  | .date, d => .date d
  | .timestamp, t => .timestamp t
  | .timestamptz, t => .timestamptz t
  | .uuid, u => .uuid u
  | .json, j => .json j
  | .decimal, d => .decimal d

/-- The number of an integer value of either kind. -/
def integer? : Value → Option Int
  | .int n => some n.val
  | .uint n => some n.val
  | _ => none

/-- The floating-point number of a value: its own, or the nearest to an integer. -/
def number? : Value → Option Binary64
  | .float x => some x
  | .int n => some (.ofInt binary64 n.val)
  | .uint n => some (.ofInt binary64 n.val)
  | _ => none

/-- The content of a field that is given a value. An integer of either kind is taken if it is in
range; a floating-point field takes integers as well. -/
def ofValue : (s : Scalar) → Value → Except Mismatch s.Content
  | .bool, v => match v with
    | .bool b => .ok b
    | _ => .error (.ofKind .bool v)
  | .signed width, v => match integer? v with
    | some n => match SignedInt.ofInt? width.bits n with
      | some m => .ok m
      | none => .error (.ofRange .int v)
    | none => .error (.ofKind .int v)
  | .unsigned width, v => match integer? v with
    | some n => match UnsignedInt.ofInt? width.bits n with
      | some m => .ok m
      | none => .error (.ofRange .uint v)
    | none => .error (.ofKind .uint v)
  | .single, v => match number? v with
    | some x => .ok (BinaryFloat.convert binary32 x)
    | none => .error (.ofKind .float v)
  | .double, v => match number? v with
    | some x => .ok x
    | none => .error (.ofKind .float v)
  | .text, v => match v with
    | .text s => .ok s
    | _ => .error (.ofKind .text v)
  | .bytes, v => match v with
    | .bytes b => .ok b
    | _ => .error (.ofKind .bytes v)
  | .date, v => match v with
    | .date d => .ok d
    | _ => .error (.ofKind .date v)
  | .timestamp, v => match v with
    | .timestamp t => .ok t
    | _ => .error (.ofKind .timestamp v)
  | .timestamptz, v => match v with
    | .timestamptz t => .ok t
    | _ => .error (.ofKind .timestamptz v)
  | .uuid, v => match v with
    | .uuid u => .ok u
    | _ => .error (.ofKind .uuid v)
  | .json, v => match v with
    | .json j => .ok j
    | _ => .error (.ofKind .json v)
  | .decimal, v => match v with
    | .decimal d => .ok d
    | _ => .error (.ofKind .decimal v)

end Scalar

namespace FieldType

/-- The scalar a field type is made of. -/
def scalar : FieldType → Scalar
  | .required s => s
  | .optional s => s

/-- Whether a field may hold NULL. -/
def nullable : FieldType → Bool
  | .required _ => false
  | .optional _ => true

/-- The kind of the column that stores a field. -/
def kind (t : FieldType) : Kind := t.scalar.kind

/-- What a field contains. -/
def Content : FieldType → Type
  | .required s => s.Content
  | .optional s => Option s.Content

/-- What a field contains before anything is put into it. -/
def initial : (t : FieldType) → t.Content
  | .required s => s.initial
  | .optional _ => none

/-- The value of a field's content. -/
def toValue : (t : FieldType) → t.Content → Value
  | .required s, c => s.toValue c
  | .optional s, c => match c with
    | none => .null
    | some c => s.toValue c

/-- The content of a field that is given a value. Only an optional field takes NULL. -/
def ofValue : (t : FieldType) → Value → Except Mismatch t.Content
  | .required s, v => s.ofValue v
  | .optional s, v => match v with
    | .null => .ok none
    | v => match s.ofValue v with
      | .ok c => .ok (some c)
      | .error m => .error m

/-- A value as a column of the field's kind holds it. -/
def convert (t : FieldType) (v : Value) : Except Mismatch Value := v.convert t.kind t.nullable

end FieldType

end RecordSql
