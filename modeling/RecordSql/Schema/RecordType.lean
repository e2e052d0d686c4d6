import RecordSql.Schema.FieldType

/-!
# Record types and records

A record type declares its fields in order; a record of that type holds one content for each. A
record is a function from the fields, so that reading a field never fails and writing one leaves
all others as they are.
-/

set_option autoImplicit false

namespace RecordSql

/-- The declaration of a field. -/
structure FieldDecl where
  /-- The name of the field. -/
  ident : String
  /-- What the field holds. -/
  type : FieldType
  /-- Settings written with the field, as `key=value` pairs joined by commas. -/
  tag : Option String
  /-- Whether a row can be written into the field in place. -/
  hasLayout : Bool
deriving DecidableEq

/-- The forms a declared type can have. Only a record has named fields. -/
inductive Shape where
  | record | tuple | unit | enumeration
deriving DecidableEq

/-- The name of a form as messages give it. -/
def Shape.label : Shape → String
  | .record => "Struct"
  | .tuple => "Tuple"
  | .unit => "Unit"
  | .enumeration => "Enum"

/-- A declared type whose records may be stored in a table. -/
structure RecordType where
  /-- The name of the type. -/
  name : String
  /-- The form of the type. -/
  shape : Shape
  /-- The name of the table, if the type gives one. -/
  tableHook : Option String
  /-- The fields in the order of their declaration. -/
  fields : List FieldDecl
  /-- What the fields of a new record contain. This is for the type to say; if it says nothing, it
  is what fields of their types contain. -/
  initial : (i : Fin fields.length) → (fields.get i).type.Content :=
    fun i => (fields.get i).type.initial

namespace RecordType

/-- The place of a field among the fields of its type. -/
abbrev Index (type : RecordType) : Type := Fin type.fields.length

/-- The declaration of a field. -/
def field (type : RecordType) (i : type.Index) : FieldDecl := type.fields.get i

/-- All places of fields, in order. -/
def indices (type : RecordType) : List type.Index := List.finRange type.fields.length

end RecordType

/-- A record: for every field of its type a content of the field's type. -/
def Record (type : RecordType) : Type := (i : type.Index) → (type.field i).type.Content

namespace Record

variable {type : RecordType}

/-- The record that a row is read into, before anything is read. -/
def initial (type : RecordType) : Record type := type.initial

/-- The record with another content in one field. -/
def set (r : Record type) (i : type.Index) (content : (type.field i).type.Content) :
    Record type :=
  fun j => if h : i = j then h ▸ content else r j

/-- What the getter of a field gives: its content as a value. -/
def value (r : Record type) (i : type.Index) : Value := (type.field i).type.toValue (r i)

/-- What is read where a field lies in the record: the content that lies there, made a value of the
field's type. -/
def valueInPlace (r : Record type) (i : type.Index) : Value :=
  let content := r i
  (type.field i).type.toValue content

/-- A field that was written holds what was written. -/
@[simp]
theorem set_self (r : Record type) (i : type.Index) (content : (type.field i).type.Content) :
    r.set i content i = content := by
  simp [set]

/-- Writing a field leaves the others as they are. -/
theorem set_of_ne (r : Record type) {i j : type.Index} (content : (type.field i).type.Content)
    (h : i ≠ j) : r.set i content j = r j := by
  simp [set, h]

end Record

end RecordSql
