import RecordSql.Proofs.Derive.Attribute
import RecordSql.Proofs.Schema.Catalog
import RecordSql.Proofs.Schema.TagGrammar

/-!
# Registration of declared types

A struct with named fields goes through two hands before its records can be stored: it is expanded
into a record type, and a registrar looks for the table of that type. Each field that is expanded
declares a field of the record type (`Field.Declares`), with the name, the type and the settings of
the declaration; so what the registrar finds can be said of the declaration itself. With distinct
names only two things can be wrong with it, a tag or a column that is taken.
-/

set_option autoImplicit false

namespace RecordSql

namespace Derive

/-! ## Names -/

/-- A declared name, and the name that it is without the mark of a raw name. -/
inductive Unmarked : String → String → Prop where
  /-- The mark stands in front of the name. -/
  | raw {name : String} : Unmarked ("r#" ++ name) name
  /-- There is no mark. -/
  | plain {name : String} (unmarked : ∀ rest, name ≠ "r#" ++ rest) : Unmarked name name

/-- A plain name is the name without its mark. -/
theorem unmarked_plainName (name : String) : Unmarked name (plainName name) := by
  unfold plainName
  split
  · rename_i rest hname
    obtain rfl : name = "r#" ++ String.ofList rest := by
      rw [← String.toList_inj, hname]
      simp
    exact .raw
  · rename_i hother
    refine .plain ?_
    rintro rest rfl
    exact hother rest.toList (by simp)

/-! ## What a declaration asks for -/

namespace Field

end Field

namespace Declaration

/-- What is wrong with a declaration: its form, or else the attributes of the struct, or else those
of the first field with attributes that are at fault. -/
inductive AtFault (declared : Declaration) : Fault → Prop where
  /-- It is a struct without named fields. -/
  | unnamed (form : declared.form = .tuple ∨ declared.form = .unit) :
      declared.AtFault .unnamedFields
  /-- It is no struct. -/
  | notStruct (form : declared.form = .enumeration ∨ declared.form = .union) :
      declared.AtFault .notStruct
  /-- The attributes of the struct are at fault. -/
  | table {fault : Fault} (form : declared.form = .struct)
      (wrong : TableFault (ours declared.attributes) fault) : declared.AtFault fault
  /-- The attributes of a field are, and neither those of the struct nor of a field before it. -/
  | field {fault : Fault} {hook : Option String} {before after : List Field} {field : Field}
      (form : declared.form = .struct) (given : TableGiven (ours declared.attributes) hook)
      (fields : declared.fields = before ++ field :: after)
      (earlier : ∀ other ∈ before, ∃ tag, TagGiven (ours other.attributes) tag)
      (wrong : TagFault (ours field.attributes) fault) : declared.AtFault fault

end Declaration

/-! ## From declared fields to the fields of a record type -/

section Fields

variable {typeOf? : String → Option FieldType}

/-- A field of a record type that comes of a declared one. -/
structure Field.Declares (typeOf? : String → Option FieldType) (field : Field) (decl : FieldDecl) :
    Prop where
  /-- The name. -/
  ident : decl.ident = plainName field.ident
  /-- The type. -/
  type : typeOf? field.type = some decl.type
  /-- The settings. -/
  tag : TagGiven (ours field.attributes) decl.tag
  /-- Rows can be written into it. -/
  layout : decl.hasLayout = true

namespace Field.Declares

variable {field : Field} {decl : FieldDecl}

/-- The field that is declared for a field has its name without the mark. -/
theorem unmarked (h : field.Declares typeOf? decl) : Unmarked field.ident decl.ident := by
  rw [h.ident]
  exact unmarked_plainName field.ident

end Field.Declares

end Fields

/-! ## The table of a declared type -/

/-- Only a struct is not refused for its form. -/
theorem Form.fault?_eq_none_iff {form : Form} : form.fault? = none ↔ form = .struct := by
  cases form <;> simp [fault?]

namespace Declaration

variable {declared : Declaration} {typeOf? : String → Option FieldType} {type : RecordType}

/-- What an expansion says of the declaration as a whole: only a struct is expanded, and the type
has its name without the mark of a raw name. -/
theorem form_of_expand {e : Expansion} (h : declared.expand = .ok e) :
    declared.form = .struct ∧ e.typeName = plainName declared.name := by
  unfold expand at h
  split at h
  · cases h
  · rename_i hform
    split at h
    · cases h
    · split at h
      · cases h
      · cases h
        exact ⟨Form.fault?_eq_none_iff.1 hform, rfl⟩

end Declaration

end Derive

end RecordSql
