import RecordSql.Proofs.Schema.Table
import RecordSql.Proofs.Schema.Tag
import Mathlib.Data.List.Induction

/-!
# Which types have tables

A record has a table when the tags of its fields are well-formed and no two fields share a name or
a column. Fields are taken in their order, each in view of those before it: what is wrong with a
declaration is what is wrong with the first field that does not fit those before it, and of that
field its tag comes before its name and its name before its column.

The loop keeps three things in step: the list of columns and the positions noted under the names of
fields and of columns (`ColumnIndex.Covers`). So a field is found by either name at its place in the
list.
-/

set_option autoImplicit false

namespace RecordSql

namespace FieldDecl

/-- Fields that one table can hold. -/
structure InOrder (decls : List FieldDecl) : Prop where
  /-- Tags are well-formed. -/
  tags : ∀ decl ∈ decls, decl.TagWellFormed
  /-- No two fields have one name. -/
  idents : (decls.map FieldDecl.ident).Nodup
  /-- No two fields have one column. -/
  columns : (decls.map FieldDecl.column).Nodup

/-- A field that can follow others in a table. -/
structure Fits (before : List FieldDecl) (decl : FieldDecl) : Prop where
  /-- The tag is well-formed. -/
  tag : decl.TagWellFormed
  /-- The name is new. -/
  ident : decl.ident ∉ before.map FieldDecl.ident
  /-- The column is new. -/
  column : decl.column ∉ before.map FieldDecl.column

/-- What is wrong with a field of the type with a name, when others come before it. -/
inductive AtFault (typeName : String) (before : List FieldDecl) (decl : FieldDecl) :
    Fault → Prop where
  /-- A piece of the tag is not a key and a value. -/
  | tag {tag : String} {piece : List Char} (htag : decl.tag = some tag)
      (malformed : Tag.malformed? tag = some piece) :
      AtFault typeName before decl (.invalidTag (String.ofList piece))
  /-- The tag is well-formed, but the name is not new. -/
  | ident (wellFormed : decl.TagWellFormed) (repeated : decl.ident ∈ before.map FieldDecl.ident) :
      AtFault typeName before decl (ColumnIndex.repeatedField typeName decl.ident)
  /-- The tag is well-formed and the name is new, but the column is not. -/
  | column {column : String} (resolved : decl.column = .ok column)
      (fresh : decl.ident ∉ before.map FieldDecl.ident)
      (repeated : .ok column ∈ before.map FieldDecl.column) :
      AtFault typeName before decl (.duplicateColumn column)

/-- A field can follow others in a table, or it is at fault. -/
theorem fits_or_atFault (typeName : String) (before : List FieldDecl) (decl : FieldDecl) :
    decl.Fits before ∨ ∃ fault, decl.AtFault typeName before fault := by
  obtain ⟨tag, piece, htag, hpiece, -⟩ | ⟨htag, column, hcolumn⟩ := decl.column_cases
  · exact .inr ⟨_, .tag htag hpiece⟩
  · by_cases hident : decl.ident ∈ before.map FieldDecl.ident
    · exact .inr ⟨_, .ident htag hident⟩
    · by_cases hrepeated : decl.column ∈ before.map FieldDecl.column
      · rw [hcolumn] at hrepeated
        exact .inr ⟨_, .column hcolumn hident hrepeated⟩
      · exact .inl ⟨htag, hident, hrepeated⟩

/-- A field with a well-formed tag has a column. -/
theorem TagWellFormed.exists_column {decl : FieldDecl} (h : decl.TagWellFormed) :
    ∃ column, decl.column = .ok column := by
  obtain ⟨tag, piece, htag, hpiece, -⟩ | ⟨-, hcolumn⟩ := decl.column_cases
  · rw [Tag.malformed?_eq_none_iff.2 (h tag htag)] at hpiece
    cases hpiece
  · exact hcolumn

namespace InOrder

/-- No fields are in order. -/
theorem nil : InOrder [] :=
  ⟨fun _ h => (nomatch h), List.nodup_nil, List.nodup_nil⟩

/-- Fields are in order exactly if those before the last are and the last fits them. -/
theorem concat_iff {before : List FieldDecl} {decl : FieldDecl} :
    InOrder (before ++ [decl]) ↔ InOrder before ∧ decl.Fits before := by
  constructor
  · rintro ⟨htags, hidents, hcolumns⟩
    rw [List.map_append, List.map_singleton, ← List.concat_eq_append, List.nodup_concat]
      at hidents hcolumns
    refine ⟨⟨?_, hidents.2, hcolumns.2⟩, ?_, hidents.1, hcolumns.1⟩
    · intro other hother
      exact htags other (List.mem_append_left _ hother)
    · exact htags decl (List.mem_append_right _ (List.mem_singleton_self decl))
  · rintro ⟨⟨htags, hidents, hcolumns⟩, htag, hident, hcolumn⟩
    refine ⟨?_, ?_, ?_⟩
    · intro other hother
      rcases List.mem_append.1 hother with hold | hnew
      · exact htags other hold
      · rw [List.mem_singleton.1 hnew]
        exact htag
    · rw [List.map_append, List.map_singleton, ← List.concat_eq_append, List.nodup_concat]
      exact ⟨hident, hidents⟩
    · rw [List.map_append, List.map_singleton, ← List.concat_eq_append, List.nodup_concat]
      exact ⟨hcolumn, hcolumns⟩

/-- The first of fields in order are in order. -/
theorem of_append {before after : List FieldDecl} (h : InOrder (before ++ after)) :
    InOrder before := by
  obtain ⟨htags, hidents, hcolumns⟩ := h
  rw [List.map_append] at hidents hcolumns
  refine ⟨?_, hidents.of_append_left, hcolumns.of_append_left⟩
  intro decl hdecl
  exact htags decl (List.mem_append_left _ hdecl)

/-- Fields are in order, or one is the first to be at fault. -/
theorem or_first_fault (typeName : String) (decls : List FieldDecl) :
    InOrder decls ∨ ∃ before decl after fault, decls = before ++ decl :: after
      ∧ InOrder before ∧ decl.AtFault typeName before fault := by
  induction decls using List.reverseRecOn with
  | nil => exact .inl .nil
  | append_singleton before decl ih =>
    obtain hbefore | ⟨front, first, rest, fault, rfl, hfront, hfault⟩ := ih
    · obtain hfits | ⟨fault, hfault⟩ := decl.fits_or_atFault typeName before
      · exact .inl (concat_iff.2 ⟨hbefore, hfits⟩)
      · exact .inr ⟨before, decl, [], fault, rfl, hbefore, hfault⟩
    · refine .inr ⟨front, first, rest ++ [decl], fault, ?_, hfront, hfault⟩
      rw [List.append_assoc, List.cons_append]

end InOrder

end FieldDecl

/-- The fields of a type are those at its places, in order. -/
theorem RecordType.map_field_indices (type : RecordType) :
    type.indices.map type.field = type.fields :=
  List.map_get_finRange type.fields

/-! ## Field by field -/

namespace ColumnIndex

variable {type : RecordType} {x : ColumnIndex type} {fault : Fault}

/-- Some fields were gone through: they are listed in order, each with the column that its
declaration gives, and they are found where they stand. -/
structure Covers (x : ColumnIndex type) (before : List FieldDecl) : Prop where
  /-- The list holds the fields in order. -/
  fields : x.infos.map (fun info => type.field info.field) = before
  /-- Every field has the column that its declaration gives. -/
  columns : ∀ info ∈ x.infos, (type.field info.field).column = .ok info.column
  /-- The positions are those of the list. -/
  located : x.Located

/-- At first no field was gone through. -/
theorem covers_empty : (empty : ColumnIndex type).Covers (([] : List type.Index).map type.field) :=
  ⟨rfl, fun _ h => (nomatch h), ⟨Positions.locates_empty, Positions.locates_empty⟩⟩

namespace Covers

variable {before : List FieldDecl} {i : type.Index}

/-- A name has no position if no field before has it. -/
theorem byField_eq_none_iff (h : x.Covers before) {name : String} :
    x.byField.find? name = none ↔ name ∉ before.map FieldDecl.ident := by
  rw [h.located.byField.find?_eq_none_iff, ← h.fields, List.map_map]
  rfl

/-- A column has no position if no field before has it. -/
theorem byColumn_eq_none_iff (h : x.Covers before) {name : String} :
    x.byColumn.find? name = none ↔ .ok name ∉ before.map FieldDecl.column := by
  have hcolumns : before.map FieldDecl.column
      = (x.infos.map ColumnInfo.column).map Except.ok := by
    rw [← h.fields, List.map_map, List.map_map]
    exact List.map_congr_left h.columns
  rw [h.located.byColumn.find?_eq_none_iff, hcolumns,
    List.mem_map_of_injective fun _ _ => Except.ok.inj]

/-- A field at fault is not added. -/
theorem add_eq_error (h : x.Covers before)
    (hfault : (type.field i).AtFault type.name before fault) : x.add i = .error fault := by
  cases hfault with
  | tag htag hpiece =>
    obtain ⟨other, first, hother, hfirst, herror⟩ | ⟨hwellFormed, -⟩ := (type.field i).column_cases
    · rw [htag] at hother
      cases hother
      rw [hpiece] at hfirst
      cases hfirst
      rw [add, herror]
    · rw [Tag.malformed?_eq_none_iff.2 (hwellFormed _ htag)] at hpiece
      cases hpiece
  | ident hwellFormed hrepeated =>
    obtain ⟨column, hcolumn⟩ := hwellFormed.exists_column
    have hheld : (x.byField.find? (type.field i).ident).isSome := by
      rw [Option.isSome_iff_ne_none]
      intro hnone
      exact h.byField_eq_none_iff.1 hnone hrepeated
    rw [add, hcolumn]
    exact if_pos hheld
  | @column column hcolumn hfresh hrepeated =>
    have hheld : (x.byColumn.find? column).isSome := by
      rw [Option.isSome_iff_ne_none]
      intro hnone
      exact h.byColumn_eq_none_iff.1 hnone hrepeated
    have hnew := h.byField_eq_none_iff.2 hfresh
    rw [add, hcolumn]
    simp only [Positions.insert, hnew, Option.isSome_none, Bool.false_eq_true, if_false]
    exact if_pos hheld

/-- A field that fits is added with its column. -/
theorem exists_add (h : x.Covers before) (hplace : before.length = i.val)
    (hfits : (type.field i).Fits before) :
    ∃ y, x.add i = .ok y ∧ y.Covers (before ++ [type.field i]) := by
  obtain ⟨column, hcolumn⟩ := hfits.tag.exists_column
  have hfield := h.byField_eq_none_iff.2 hfits.ident
  have hfresh : x.byColumn.find? column = none := by
    rw [h.byColumn_eq_none_iff, ← hcolumn]
    exact hfits.column
  have hadd : x.add i = .ok ⟨x.infos ++ [⟨i, column⟩],
      (x.byField.insert (type.field i).ident i.val).2, (x.byColumn.insert column i.val).2⟩ := by
    rw [add, hcolumn]
    simp only [Positions.insert, hfield, hfresh, Option.isSome_none, Bool.false_eq_true, if_false]
  have hlength : x.infos.length = i.val := by
    rw [← hplace, ← h.fields, List.length_map]
  refine ⟨_, hadd, ?_, ?_, h.located.add hlength hadd⟩
  · rw [List.map_append, h.fields]
    rfl
  · intro info hinfo
    rcases List.mem_append.1 hinfo with hold | hnew
    · exact h.columns info hold
    · rw [List.mem_singleton.1 hnew]
      exact hcolumn

/-- Going on through fields that are in order with those before adds them all. -/
theorem exists_foldlM {before rest after : List type.Index}
    (h : x.Covers (before.map type.field)) (hall : type.indices = before ++ (rest ++ after))
    (horder : FieldDecl.InOrder ((before ++ rest).map type.field)) :
    ∃ y, rest.foldlM add x = .ok y ∧ y.Covers ((before ++ rest).map type.field) := by
  induction rest generalizing before x with
  | nil =>
    rw [List.append_nil]
    exact ⟨x, rfl, h⟩
  | cons i rest ih =>
    rw [List.append_cons] at horder ⊢
    have hfront := horder
    rw [List.map_append] at hfront
    have hconcat := hfront.of_append
    rw [List.map_append, List.map_singleton] at hconcat
    obtain ⟨-, hfits⟩ := FieldDecl.InOrder.concat_iff.1 hconcat
    have hplace : (before.map type.field).length = i.val := by
      rw [List.length_map]
      exact val_of_indices_eq hall
    obtain ⟨y, hadd, hcovers⟩ := h.exists_add hplace hfits
    rw [← List.map_singleton, ← List.map_append] at hcovers
    rw [List.cons_append, List.append_cons] at hall
    obtain ⟨z, hrun, hdone⟩ := ih hcovers hall horder
    refine ⟨z, ?_, hdone⟩
    rw [List.foldlM_cons, hadd]
    exact hrun

end Covers

/-- If the fields of a type are in order, all are added. -/
theorem exists_ofFields (horder : FieldDecl.InOrder type.fields) :
    ∃ y, ofFields type = .ok y ∧ y.Covers type.fields := by
  rw [← type.map_field_indices] at horder ⊢
  exact covers_empty.exists_foldlM (List.append_nil _).symm horder

/-- Going through the fields of a type ends with the first one that is at fault. -/
theorem ofFields_eq_error {before after : List FieldDecl} {decl : FieldDecl}
    (hfields : type.fields = before ++ decl :: after) (horder : FieldDecl.InOrder before)
    (hfault : decl.AtFault type.name before fault) : ofFields type = .error fault := by
  rw [← type.map_field_indices] at hfields
  obtain ⟨front, others, hall, rfl, hothers⟩ := List.map_eq_append_iff.1 hfields
  obtain ⟨i, rest, rfl, rfl, -⟩ := List.map_eq_cons_iff.1 hothers
  obtain ⟨y, hrun, hcovers⟩ := covers_empty.exists_foldlM hall horder
  rw [ofFields, hall, List.foldlM_append, hrun]
  show (y.add i >>= fun z => rest.foldlM add z) = .error fault
  rw [hcovers.add_eq_error hfault]
  rfl

end ColumnIndex

/-! ## The table of a type -/

namespace Table

variable {type : RecordType}

/-- Only records have tables. -/
theorem ofType_of_shape_ne (h : type.shape ≠ .record) : ofType type = .error (wrongShape type) :=
  if_pos h

/-- A record has no table if one of its fields is not added. -/
theorem ofType_eq_error_of_ofFields {fault : Fault} (h : type.shape = .record)
    (hindex : ColumnIndex.ofFields type = .error fault) : ofType type = .error fault := by
  rw [ofType, if_neg (not_not.2 h)]
  split
  · rename_i other hother
    rw [hindex] at hother
    cases hother
    rfl
  · rename_i index hother
    rw [hindex] at hother
    cases hother

/-- A record has a table if all its fields are added. -/
theorem exists_ofType_of_ofFields {index : ColumnIndex type} (h : type.shape = .record)
    (hindex : ColumnIndex.ofFields type = .ok index) :
    ∃ t, ofType type = .ok t ∧ t.name = tableName type ∧ t.toColumnIndex = index := by
  rw [ofType, if_neg (not_not.2 h)]
  split
  · rename_i fault hother
    rw [hindex] at hother
    cases hother
  · rename_i others hother
    rw [hindex] at hother
    cases hother
    exact ⟨_, rfl, rfl, rfl⟩

/-- A record with fields in order has a table with the columns that its declaration gives. -/
theorem exists_ofType (hshape : type.shape = .record) (horder : FieldDecl.InOrder type.fields) :
    ∃ t, ofType type = .ok t ∧ t.name = tableName type
      ∧ type.fields.map FieldDecl.column = t.columns.map Except.ok := by
  obtain ⟨index, hindex, hcovers⟩ := ColumnIndex.exists_ofFields horder
  obtain ⟨t, htable, hname, rfl⟩ := exists_ofType_of_ofFields hshape hindex
  refine ⟨t, htable, hname, ?_⟩
  rw [← hcovers.fields, columns, List.map_map, List.map_map]
  exact List.map_congr_left hcovers.columns

/-- The first field at fault decides what is wrong with a record. -/
theorem ofType_eq_error {before after : List FieldDecl} {decl : FieldDecl} {fault : Fault}
    (hshape : type.shape = .record) (hfields : type.fields = before ++ decl :: after)
    (horder : FieldDecl.InOrder before) (hfault : decl.AtFault type.name before fault) :
    ofType type = .error fault :=
  ofType_eq_error_of_ofFields hshape (ColumnIndex.ofFields_eq_error hfields horder hfault)

/-- Only records with fields in order have tables. -/
theorem inOrder_of_ofType {t : Table type} (h : ofType type = .ok t) :
    type.shape = .record ∧ FieldDecl.InOrder type.fields := by
  by_cases hshape : type.shape = .record
  · obtain horder | ⟨before, decl, after, fault, hfields, hbefore, hfault⟩ :=
      FieldDecl.InOrder.or_first_fault type.name type.fields
    · exact ⟨hshape, horder⟩
    · rw [ofType_eq_error hshape hfields hbefore hfault] at h
      cases h
  · rw [ofType_of_shape_ne hshape] at h
    cases h

/-- If a record has no table, this is the fault of its first field at fault. -/
theorem exists_first_fault_of_ofType {fault : Fault} (hshape : type.shape = .record)
    (h : ofType type = .error fault) :
    ∃ before decl after, type.fields = before ++ decl :: after
      ∧ FieldDecl.InOrder before ∧ decl.AtFault type.name before fault := by
  obtain horder | ⟨before, decl, after, first, hfields, hbefore, hfault⟩ :=
    FieldDecl.InOrder.or_first_fault type.name type.fields
  · obtain ⟨t, htable, -⟩ := exists_ofType hshape horder
    rw [htable] at h
    cases h
  · rw [ofType_eq_error hshape hfields hbefore hfault] at h
    cases h
    exact ⟨before, decl, after, hfields, hbefore, hfault⟩

/-- A table that says of its type what the declaration says. Fields are listed in the order of the
declaration, and each is found by its name and by its column, and by nothing else, as if the list
were searched. The positions noted for this lie within the list, and the two ways of finding a field
agree. -/
structure Mirrors (t : Table type) : Prop where
  /-- The table has the name that the type gives. -/
  hook : ∀ name, type.tableHook = some name → name ≠ "" → t.name = name
  /-- If the type gives none, the table has the type's name in snake case. -/
  derived : (∀ name, type.tableHook = some name → name = "") → t.name = snakeCase type.name
  /-- The fields are listed in the order of their declaration. -/
  fields : t.infos.map (fun info => type.field info.field) = type.fields
  /-- Every field stands with its column at its place. -/
  places : ∀ i : type.Index, t.infos[i.val]? = some ⟨i, t.column i⟩
  /-- Every field has the column that its declaration gives. -/
  columns : ∀ i, (type.field i).column = .ok (t.column i)
  /-- A name finds the field that has it. -/
  field : ∀ name info, t.fieldNamed? name = some info ↔ info ∈ t.infos ∧ info.ident = name
  /-- A column finds the field that has it. -/
  column : ∀ name info, t.columnNamed? name = some info ↔ info ∈ t.infos ∧ info.column = name
  /-- Finding a name comes to the same as searching the list for it. -/
  fieldSearch : ∀ name, t.fieldNamed? name = t.infos.find? fun info => info.ident == name
  /-- Finding a column comes to the same as searching the list for it. -/
  columnSearch : ∀ name, t.columnNamed? name = t.infos.find? fun info => info.column == name
  /-- The column of a field that was found finds the field. -/
  columnOfField : ∀ name info, t.fieldNamed? name = some info →
    t.columnNamed? info.column = some info
  /-- The name of a field that was found by its column finds the field. -/
  fieldOfColumn : ∀ name info, t.columnNamed? name = some info →
    t.fieldNamed? info.ident = some info
  /-- The position under the name of a field lies within the list. -/
  fieldWithin : ∀ name place, t.byField.find? name = some place → place < t.infos.length
  /-- The position under the name of a column lies within the list. -/
  columnWithin : ∀ name place, t.byColumn.find? name = some place → place < t.infos.length

/-- The table that a type has says what its declaration says. -/
theorem mirrors_of_ofType {t : Table type} (h : ofType type = .ok t) : t.Mirrors := by
  obtain ⟨hshape, horder⟩ := inOrder_of_ofType h
  obtain ⟨other, hother, hname, hcolumns⟩ := exists_ofType hshape horder
  rw [h] at hother
  cases hother
  refine ⟨?hook, ?derived, ?fields, t.getElem?_infos, ?columns, fun _ _ => fieldNamed?_eq_some_iff,
    fun _ _ => columnNamed?_eq_some_iff, t.fieldNamed?_eq_find?, t.columnNamed?_eq_find?,
    ?columnOfField, ?fieldOfColumn, ?fieldWithin, ?columnWithin⟩
  case hook =>
    intro name hhook hne
    rw [hname, tableName, hhook]
    simp [hne]
  case derived =>
    intro hempty
    rw [hname, tableName]
    cases hhook : type.tableHook with
    | none => rfl
    | some name => simp [hempty name hhook]
  case fields =>
    rw [← type.map_field_indices, ← t.fields_infos, List.map_map]
    rfl
  case columns =>
    intro i
    have hat := congrArg (·[i.val]?) hcolumns
    simp only [Table.columns, List.getElem?_map, t.getElem?_infos i,
      List.getElem?_eq_getElem i.isLt, Option.map_some, Option.some.injEq] at hat
    exact hat
  case columnOfField =>
    intro name info hinfo
    exact columnNamed?_eq_some_iff.2 ⟨(fieldNamed?_eq_some_iff.1 hinfo).1, rfl⟩
  case fieldOfColumn =>
    intro name info hinfo
    exact fieldNamed?_eq_some_iff.2 ⟨(columnNamed?_eq_some_iff.1 hinfo).1, rfl⟩
  case fieldWithin =>
    intro name place hplace
    simpa using t.located.byField.lt_length hplace
  case columnWithin =>
    intro name place hplace
    simpa using t.located.byColumn.lt_length hplace

/-- A type has a table exactly if it is a record with fields in order. The table says what the
declaration says; if there is none, the fault is that of the form of the type, or else that of the
first field that is at fault. -/
theorem ofType_exact (type : RecordType) :
    ((∃ t, ofType type = .ok t) ↔ type.shape = .record ∧ FieldDecl.InOrder type.fields)
      ∧ (∀ t, ofType type = .ok t → t.Mirrors)
      ∧ ∀ fault, ofType type = .error fault ↔
        (type.shape ≠ .record ∧ fault = wrongShape type)
          ∨ type.shape = .record ∧ ∃ before decl after, type.fields = before ++ decl :: after
            ∧ FieldDecl.InOrder before ∧ decl.AtFault type.name before fault := by
  refine ⟨⟨?sound, ?complete⟩, fun t => mirrors_of_ofType, fun fault => ⟨?found, ?first⟩⟩
  case sound =>
    rintro ⟨t, htable⟩
    exact inOrder_of_ofType htable
  case complete =>
    rintro ⟨hshape, horder⟩
    obtain ⟨t, htable, -⟩ := exists_ofType hshape horder
    exact ⟨t, htable⟩
  case found =>
    intro herror
    by_cases hshape : type.shape = .record
    · exact .inr ⟨hshape, exists_first_fault_of_ofType hshape herror⟩
    · rw [ofType_of_shape_ne hshape] at herror
      cases herror
      exact .inl ⟨hshape, rfl⟩
  case first =>
    rintro (⟨hshape, rfl⟩ | ⟨hshape, before, decl, after, hfields, hbefore, hfault⟩)
    · exact ofType_of_shape_ne hshape
    · exact ofType_eq_error hshape hfields hbefore hfault

-- The first field takes the column of the second by its tag; the third, with a tag that is not
-- well-formed, comes too late to be at fault.
example :
    Table.ofType
      { name := "Note"
        shape := .record
        tableHook := none
        fields :=
          [⟨"title", .required .text, some "column=heading", true⟩,
            ⟨"heading", .required .text, none, true⟩,
            ⟨"title", .required .text, some "column", true⟩] }
      = .error (.duplicateColumn "heading") := by
  rfl

end Table

end RecordSql
