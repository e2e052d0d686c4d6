import RecordSql.Derive.Declaration
import RecordSql.Schema.RecordType

/-!
# Expansion of a declaration

What is generated for a declared type so that its records can be stored: the names under which
the type, its table and its fields are known, and for every field the code that describes, reads
and writes it. Only a struct with named fields is accepted. What is generated amounts to a record
type once the texts of the field types are given a meaning.
-/

set_option autoImplicit false

namespace RecordSql.Derive

/-- What is generated for a field. -/
structure FieldExpansion where
  /-- The name of the field. -/
  ident : String
  /-- The settings of the field. -/
  tag : Option String
  /-- The type of the field as it is declared. -/
  type : String
  /-- The code that describes the field. -/
  constructor : String
  /-- The code that reads the field. -/
  get : String
  /-- The code that writes the field. -/
  set : String
  /-- The code that records where the field lies. -/
  withOffset : String

/-- What is generated for a type. -/
structure Expansion where
  /-- The name of the type. -/
  typeName : String
  /-- The name of the table, if the type gives one. -/
  tableName : Option String
  /-- What is generated for the fields, in order. -/
  fields : List FieldExpansion
  /-- The generic parameters of the implementation. -/
  implGenerics : String
  /-- The type with its arguments. -/
  selfType : String
  /-- The where clause. -/
  whereClause : Option String

/-- The attributes of the generated implementation. -/
def implAttributes : List String := ["#[automatically_derived]"]

/-- The interface that is implemented. -/
def modelTrait : String := "::ormkit::Model"

/-- A name without the mark of a raw name. -/
def plainName (name : String) : String :=
  match name.toList with
  | 'r' :: '#' :: rest => String.ofList rest
  | _ => name

/-- The code for a field. -/
def Field.expand (field : Field) (tag : Option String) : FieldExpansion :=
  { ident := plainName field.ident
    tag := tag
    type := field.type
    constructor := "::ormkit::model::FieldDef::<Self>::new::<" ++ field.type ++ ">"
    get := "|m|::core::convert::Into::<::ormkit::Value>::into(::core::clone::Clone::clone(&m."
      ++ field.ident ++ "),)"
    set := "|m,v|\x7bm." ++ field.ident ++ "=<" ++ field.type
      ++ "as::ormkit::SqlType>::from_value(v)?;::core::result::Result::Ok(())\x7d"
    withOffset :=
      "::<" ++ field.type ++ ">::core::mem::offset_of!(Self," ++ field.ident ++ ")" }

/-- The code for the fields, or what is wrong with the first that is at fault. -/
def expandFields : List Field → Except Fault (List FieldExpansion)
  | [] => .ok []
  | field :: fields =>
    match tagOf none field.attributes with
    | .error fault => .error fault
    | .ok tag =>
      match expandFields fields with
      | .error fault => .error fault
      | .ok others => .ok (field.expand tag :: others)

/-- What is wrong with the form of a declaration. -/
def Form.fault? : Form → Option Fault
  | .struct => none
  | .tuple | .unit => some .unnamedFields
  | .enumeration | .union => some .notStruct

/-- What is generated for a declaration, or what is wrong with it: its form first, then the
attribute that names the table, then the fields in order. -/
def Declaration.expand (declared : Declaration) : Except Fault Expansion :=
  match declared.form.fault? with
  | some fault => .error fault
  | none =>
    match tableOf declared.attributes with
    | .error fault => .error fault
    | .ok tableName =>
      match expandFields declared.fields with
      | .error fault => .error fault
      | .ok fields => .ok
        { typeName := plainName declared.name
          tableName := tableName
          fields := fields
          implGenerics := listing Parameter.declaration declared.parameters
          selfType := declared.name ++ listing Parameter.name declared.parameters
          whereClause := declared.whereClause }

/-- The field that an expansion describes, given what the texts of types mean. It can be written
in place, as the generated code records where it lies. -/
def FieldExpansion.decl? (typeOf? : String → Option FieldType) (field : FieldExpansion) :
    Option FieldDecl :=
  (typeOf? field.type).map fun type => ⟨field.ident, type, field.tag, true⟩

/-- The record type that an expansion describes, given what the texts of types mean; none when
the type of a field means nothing. A new record has in each field what the field's type has. -/
def Expansion.recordType? (typeOf? : String → Option FieldType) (e : Expansion) :
    Option RecordType :=
  (e.fields.mapM (FieldExpansion.decl? typeOf?)).map fun fields =>
    { name := e.typeName, shape := .record, tableHook := e.tableName, fields := fields }

end RecordSql.Derive
