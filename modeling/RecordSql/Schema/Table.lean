import RecordSql.Schema.Positions
import RecordSql.Schema.RecordType
import RecordSql.Schema.Tag
import RecordSql.Text.SnakeCase

/-!
# Tables

The table that stores the records of a type: its name and, for every field, the name of its
column. The fields are gone through in order, and each puts its column at the end of a list and
notes the position under its own name and under that of the column. A field is found by either
name, by way of the position noted there.
-/

set_option autoImplicit false

namespace RecordSql

namespace FieldDecl

/-- The column of a field: the one its tag names, unless that is empty, and else the field's
name in snake case. -/
def column (decl : FieldDecl) : Except Fault String := do
  let settings ← match decl.tag with
    | none => pure []
    | some tag => Tag.parse tag
  match Tag.last? Tag.columnKey settings with
  | some name => pure (if name.isEmpty then snakeCase decl.ident else name)
  | none => pure (snakeCase decl.ident)

end FieldDecl

/-- What a table knows of a field. -/
structure ColumnInfo (type : RecordType) where
  /-- The field. -/
  field : type.Index
  /-- The name of its column. -/
  column : String
deriving DecidableEq

/-- The name of the field. -/
def ColumnInfo.ident {type : RecordType} (info : ColumnInfo type) : String :=
  (type.field info.field).ident

/-- The columns of fields, and the positions at which they are found. -/
structure ColumnIndex (type : RecordType) where
  /-- The fields with their columns. -/
  infos : List (ColumnInfo type)
  /-- The positions under the names of the fields. -/
  byField : Positions
  /-- The positions under the names of the columns. -/
  byColumn : Positions

namespace ColumnIndex

variable {type : RecordType}

/-- The fault of a type with two fields of one name. -/
def repeatedField (typeName ident : String) : Fault :=
  .unsupportedType (typeName ++ " declares field '" ++ ident ++ "' twice")

/-- No columns yet. -/
def empty : ColumnIndex type := ⟨[], .empty, .empty⟩

/-- Adds the column of a field. The field's tag is read first, then its name and at last its column
must be new. -/
def add (x : ColumnIndex type) (i : type.Index) : Except Fault (ColumnIndex type) :=
  match (type.field i).column with
  | .error fault => .error fault
  | .ok column =>
    let (sameField, byField) := x.byField.insert (type.field i).ident i.val
    if sameField.isSome then .error (repeatedField type.name (type.field i).ident)
    else
      let (sameColumn, byColumn) := x.byColumn.insert column i.val
      if sameColumn.isSome then .error (.duplicateColumn column)
      else .ok ⟨x.infos ++ [⟨i, column⟩], byField, byColumn⟩

/-- The columns of all fields of a type, or the first fault among them. -/
def ofFields (type : RecordType) : Except Fault (ColumnIndex type) :=
  type.indices.foldlM add empty

/-- The field with a name, as it stands at the position noted under the name. -/
def fieldNamed? (x : ColumnIndex type) (name : String) : Option (ColumnInfo type) :=
  x.byField.item? x.infos name

/-- The field with a column, as it stands at the position noted under the column. -/
def columnNamed? (x : ColumnIndex type) (name : String) : Option (ColumnInfo type) :=
  x.byColumn.item? x.infos name

/-- The positions are those of the list: every field is found where it stands, by its name and by
its column. -/
structure Located (x : ColumnIndex type) : Prop where
  /-- The positions under the names of fields. -/
  byField : x.byField.Locates (x.infos.map ColumnInfo.ident)
  /-- The positions under the names of columns. -/
  byColumn : x.byColumn.Locates (x.infos.map ColumnInfo.column)

instance (x : ColumnIndex type) : Decidable x.Located :=
  decidable_of_iff
    (x.byField.Locates (x.infos.map ColumnInfo.ident)
      ∧ x.byColumn.Locates (x.infos.map ColumnInfo.column))
    ⟨fun h => ⟨h.1, h.2⟩, fun h => ⟨h.byField, h.byColumn⟩⟩

/-- What adding a field does when it succeeds: neither its name nor its column was noted before,
and both are now. -/
theorem add_eq_ok {x y : ColumnIndex type} {i : type.Index} (h : x.add i = .ok y) :
    ∃ column, (type.field i).column = .ok column
      ∧ x.byField.find? (type.field i).ident = none ∧ x.byColumn.find? column = none
      ∧ y = ⟨x.infos ++ [⟨i, column⟩], (x.byField.insert (type.field i).ident i.val).2,
        (x.byColumn.insert column i.val).2⟩ := by
  unfold add at h
  split at h
  · cases h
  · rename_i column hcolumn
    dsimp only at h
    split at h
    · cases h
    · rename_i hfield
      split at h
      · cases h
      · rename_i hnew
        cases h
        exact ⟨column, hcolumn, Option.not_isSome_iff_eq_none.1 hfield,
          Option.not_isSome_iff_eq_none.1 hnew, rfl⟩

/-- A field that is added at its own place leaves positions that are those of the list. -/
theorem Located.add {x y : ColumnIndex type} {i : type.Index} (h : x.Located)
    (hplace : x.infos.length = i.val) (hadd : x.add i = .ok y) : y.Located := by
  obtain ⟨column, -, hfield, hcolumn, rfl⟩ := add_eq_ok hadd
  have hnewField := h.byField.insert (h.byField.find?_eq_none_iff.1 hfield)
  have hnewColumn := h.byColumn.insert (h.byColumn.find?_eq_none_iff.1 hcolumn)
  rw [List.length_map, hplace] at hnewField hnewColumn
  constructor
  · rw [List.map_append]
    exact hnewField
  · rw [List.map_append]
    exact hnewColumn

/-- The field behind some others has the place that their number gives. -/
theorem val_of_indices_eq {before after : List type.Index} {i : type.Index}
    (h : type.indices = before ++ i :: after) : before.length = i.val := by
  have hat : type.indices[before.length]? = some i := by
    rw [h, List.getElem?_append_right (Nat.le_refl _), Nat.sub_self]
    rfl
  obtain ⟨_, hget⟩ := List.getElem?_eq_some_iff.1 hat
  simp only [RecordType.indices, List.getElem_finRange] at hget
  exact congrArg Fin.val hget

/-- Going on through the fields keeps the list in the order of the fields, and the positions those
of the list. -/
theorem located_foldlM {before rest : List type.Index} {x y : ColumnIndex type}
    (hall : type.indices = before ++ rest) (hfields : x.infos.map ColumnInfo.field = before)
    (h : x.Located) (hrun : rest.foldlM ColumnIndex.add x = .ok y) :
    y.infos.map ColumnInfo.field = type.indices ∧ y.Located := by
  induction rest generalizing before x with
  | nil =>
    cases hrun
    rw [hall, List.append_nil]
    exact ⟨hfields, h⟩
  | cons i rest ih =>
    rw [List.foldlM_cons] at hrun
    cases hadd : x.add i with
    | error fault =>
      rw [hadd] at hrun
      cases hrun
    | ok next =>
      rw [hadd] at hrun
      have hplace : x.infos.length = i.val := by
        rw [← val_of_indices_eq hall, ← hfields, List.length_map]
      have hnext : next.infos.map ColumnInfo.field = before ++ [i] := by
        obtain ⟨column, -, -, -, rfl⟩ := add_eq_ok hadd
        rw [List.map_append, hfields]
        rfl
      rw [List.append_cons] at hall
      exact ih hall hnext (h.add hplace hadd) hrun

/-- The columns of a type are those of its fields in their order, and all are found where they
stand. -/
theorem located_ofFields {x : ColumnIndex type} (h : ofFields type = .ok x) :
    x.infos.map ColumnInfo.field = type.indices ∧ x.Located :=
  located_foldlM rfl rfl ⟨Positions.locates_empty, Positions.locates_empty⟩ h

end ColumnIndex

/-- The table of a record type. -/
structure Table (type : RecordType) extends ColumnIndex type where
  /-- The name of the table. -/
  name : String
  /-- Every field has a column, and they are listed in the order of the fields. -/
  fields_infos : infos.map ColumnInfo.field = type.indices
  /-- Fields are found where they stand. -/
  located : toColumnIndex.Located

namespace Table

/-- The fault of a type that is no record. -/
def wrongShape (type : RecordType) : Fault :=
  .unsupportedType
    (type.name ++ " is a " ++ type.shape.label ++ ", expected a struct with named fields")

/-- The name of the table of a type: the one the type gives, unless that is empty, and else the
type's name in snake case. -/
def tableName (type : RecordType) : String :=
  match type.tableHook with
  | some name => if name.isEmpty then snakeCase type.name else name
  | none => snakeCase type.name

/-- The table of a type, or the first fault in its declaration. -/
def ofType (type : RecordType) : Except Fault (Table type) :=
  if type.shape ≠ .record then .error (wrongShape type)
  else match h : ColumnIndex.ofFields type with
    | .error fault => .error fault
    | .ok index =>
      have facts := ColumnIndex.located_ofFields h
      .ok ⟨index, tableName type, facts.1, facts.2⟩

variable {type : RecordType}

/-- There are as many columns as fields. -/
theorem length_infos (t : Table type) : t.infos.length = type.fields.length := by
  rw [← List.length_map ColumnInfo.field, t.fields_infos]
  exact List.length_finRange

/-- The names of the columns, in the order of the fields. -/
def columns (t : Table type) : List String := t.infos.map ColumnInfo.column

/-- The column of a field. -/
def column (t : Table type) (i : type.Index) : String :=
  (t.infos.get (i.cast t.length_infos.symm)).column

/-- The field with a name; there must be one. -/
def requireField (t : Table type) (name : String) : Except Fault type.Index :=
  match t.fieldNamed? name with
  | some info => .ok info.field
  | none => .error (.unknownField name)

/-- The field of a column; there must be one. -/
def requireColumn (t : Table type) (name : String) : Except Fault type.Index :=
  match t.columnNamed? name with
  | some info => .ok info.field
  | none => .error (.unknownColumn name)

end Table

end RecordSql
