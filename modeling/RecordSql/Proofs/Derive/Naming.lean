import RecordSql.Proofs.Derive.Registration
import RecordSql.Proofs.Text.SnakeCase

/-!
# Default names

A type that names no table is stored in one that has its own name in snake case, and a field that
names no column in a column that does. In Pascal case names are found again from their snake case,
so different types have different tables, different fields have different columns, and a record is
never refused because two of its fields ask for one column.
-/

set_option autoImplicit false

namespace RecordSql

/-! ## Columns -/

/-- A field that names no column: it has no tag, or one whose settings name none. -/
def FieldDecl.NamesNoColumn (decl : FieldDecl) : Prop :=
  ∀ tag, decl.tag = some tag →
    ∃ settings, Tag.parse tag = .ok settings
      ∧ ∀ name, Tag.LastValue settings "column" name → name = ""

/-- The column of a field that names none is its name in snake case. -/
theorem FieldDecl.NamesNoColumn.column_eq {decl : FieldDecl} (h : decl.NamesNoColumn) :
    decl.column = .ok (snakeCase decl.ident) := by
  cases htag : decl.tag with
  | none =>
    rw [column, htag]
    rfl
  | some tag =>
    obtain ⟨settings, hparse, hnone⟩ := h tag htag
    obtain ⟨column, hcolumn, hnames⟩ := decl.exists_column_of_parse htag hparse
    rw [hcolumn, hnames.derived hnone]

/-- A tag that names no column is well-formed all the same. -/
theorem FieldDecl.NamesNoColumn.tagWellFormed {decl : FieldDecl} (h : decl.NamesNoColumn) :
    decl.TagWellFormed := by
  obtain ⟨tag, piece, -, -, herror⟩ | ⟨hwellFormed, -⟩ := decl.column_cases
  · rw [h.column_eq] at herror
    cases herror
  · exact hwellFormed

namespace Table

variable {type : RecordType}

/-- In the table of a type such a field has this column. -/
theorem column_eq_snakeCase {t : Table type} (htable : ofType type = .ok t) {i : type.Index}
    (h : (type.field i).NamesNoColumn) : t.column i = snakeCase (type.field i).ident := by
  have hcolumn := (mirrors_of_ofType htable).columns i
  rw [h.column_eq, Except.ok.injEq] at hcolumn
  exact hcolumn.symm

/-- A record with different names in Pascal case is not refused for its columns. -/
theorem exists_ofType_of_pascalCase (hshape : type.shape = .record)
    (hidents : (type.fields.map FieldDecl.ident).Nodup)
    (h : ∀ decl ∈ type.fields, decl.NamesNoColumn ∧ PascalCase decl.ident) :
    ∃ t, ofType type = .ok t
      ∧ t.columns = type.fields.map fun decl => snakeCase decl.ident := by
  have hdefault : type.fields.map FieldDecl.column
      = (type.fields.map fun decl => snakeCase decl.ident).map Except.ok := by
    rw [List.map_map]
    exact List.map_congr_left fun decl hdecl => (h decl hdecl).1.column_eq
  have hcolumns : (type.fields.map FieldDecl.column).Nodup := by
    have hsnake : ((type.fields.map FieldDecl.ident).map snakeCase).Nodup := by
      refine hidents.map_on ?_
      rw [List.forall_mem_map]
      intro first hfirst
      rw [List.forall_mem_map]
      intro second hsecond
      exact (snakeCase_inj (h first hfirst).2 (h second hsecond).2).1
    rw [List.map_map] at hsnake
    rw [hdefault]
    exact hsnake.map fun _ _ => Except.ok.inj
  have horder : FieldDecl.InOrder type.fields :=
    ⟨fun decl hdecl => (h decl hdecl).1.tagWellFormed, hidents, hcolumns⟩
  obtain ⟨t, htable, -, hsame⟩ := exists_ofType hshape horder
  rw [hdefault] at hsame
  exact ⟨t, htable, (List.map_injective_iff.2 (fun _ _ => Except.ok.inj) hsame).symm⟩

end Table

/-! ## Tables -/

namespace Derive.Declaration

variable {declared : Declaration} {type : RecordType} {t : Table type}

/-- A declaration and the table of the record type that it is expanded to. -/
structure StoredIn (declared : Declaration) {type : RecordType} (t : Table type) : Prop where
  /-- The declaration is expanded to the type, for some meaning of the types of its fields. -/
  expansion : ∃ e typeOf?, declared.expand = .ok e ∧ e.recordType? typeOf? = some type
  /-- The type has the table. -/
  table : Table.ofType type = .ok t

/-- A declaration that names no table, or an empty one. -/
def NamesNoTable (declared : Declaration) : Prop :=
  ∀ name, TableGiven (ours declared.attributes) (some name) → name = ""

/-- The table of a type that names none is its name in snake case. -/
theorem StoredIn.name_eq (h : declared.StoredIn t) (hnone : declared.NamesNoTable) :
    t.name = snakeCase (plainName declared.name) := by
  obtain ⟨⟨e, typeOf?, hexpand, htype⟩, htable⟩ := h
  obtain ⟨hform, hname⟩ := form_of_expand hexpand
  obtain ⟨hhook, -⟩ := given_of_expand hform hexpand
  obtain ⟨decls, -, rfl⟩ := Option.map_eq_some_iff.1 htype
  rw [(Table.mirrors_of_ofType htable).derived ?_, hname]
  intro name hfound
  rw [show e.tableName = some name from hfound] at hhook
  exact hnone name hhook

end Derive.Declaration

open Derive in
/-- A name in Pascal case is found again from its snake case, so that no two have the same. Hence
declared types with different names that name no table have different tables, and fields with
different names that name no column have different columns, be they of one record or of two; a
record all of whose fields are such has a table with their names for its columns. -/
theorem default_names_differ :
    (∀ name, PascalCase name → pascalCase (snakeCase name) = name)
      ∧ (∀ a b, PascalCase a → PascalCase b → snakeCase a = snakeCase b → a = b)
      ∧ (∀ (a b : Declaration) (left right : RecordType) (t : Table left) (u : Table right),
        a.StoredIn t → b.StoredIn u → a.NamesNoTable → b.NamesNoTable →
        PascalCase (plainName a.name) → PascalCase (plainName b.name) →
        plainName a.name ≠ plainName b.name → t.name ≠ u.name)
      ∧ (∀ (left right : RecordType) (t : Table left) (u : Table right) (i : left.Index)
        (j : right.Index), Table.ofType left = .ok t → Table.ofType right = .ok u →
        (left.field i).NamesNoColumn → (right.field j).NamesNoColumn →
        PascalCase (left.field i).ident → PascalCase (right.field j).ident →
        (left.field i).ident ≠ (right.field j).ident → t.column i ≠ u.column j)
      ∧ ∀ type : RecordType, type.shape = .record → (type.fields.map FieldDecl.ident).Nodup →
        (∀ decl ∈ type.fields, decl.NamesNoColumn ∧ PascalCase decl.ident) →
        ∃ t, Table.ofType type = .ok t
          ∧ t.columns = type.fields.map fun decl => snakeCase decl.ident := by
  refine ⟨fun _ => pascalCase_snakeCase, fun _ _ ha hb => (snakeCase_inj ha hb).1, ?tables,
    ?columns, fun _ => Table.exists_ofType_of_pascalCase⟩
  case tables =>
    intro a b left right t u ht hu hat hbu ha hb hne hsame
    rw [ht.name_eq hat, hu.name_eq hbu] at hsame
    exact hne ((snakeCase_inj ha hb).1 hsame)
  case columns =>
    intro left right t u i j ht hu hi hj hli hrj hne hsame
    rw [Table.column_eq_snakeCase ht hi, Table.column_eq_snakeCase hu hj] at hsame
    exact hne ((snakeCase_inj hli hrj).1 hsame)

/-- A struct with two fields whose names differ in the case of one letter. -/
def Derive.Declaration.numbered (name : String) : Derive.Declaration :=
  { form := .struct
    name := name
    attributes := []
    parameters := []
    whereClause := none
    fields := [⟨"ID", "i64", []⟩, ⟨"Id", "i64", []⟩] }

/-- The record type of such a struct. -/
def RecordType.numbered (name : String) : RecordType :=
  { name := name
    shape := .record
    tableHook := none
    fields := [⟨"ID", .required (.signed .w64), none, true⟩,
      ⟨"Id", .required (.signed .w64), none, true⟩] }

/-- Two types and two fields whose names differ in the case of one letter only. -/
theorem default_names_differ_numbered :
    PascalCase "ID" ∧ PascalCase "Id" ∧ pascalCase "i_d" = "ID" ∧ snakeCase "ID" ≠ snakeCase "Id"
      ∧ ∃ (t : Table (.numbered "ID")) (u : Table (.numbered "Id")),
        (Derive.Declaration.numbered "ID").StoredIn t
          ∧ (Derive.Declaration.numbered "r#Id").StoredIn u
          ∧ t.name ≠ u.name ∧ t.column ⟨0, by decide⟩ ≠ u.column ⟨1, by decide⟩
          ∧ t.columns = ["i_d", "id"] := by
  have hID : PascalCase "ID" := ⟨⟨'I', rfl, rfl⟩, by simp⟩
  have hId : PascalCase "Id" := ⟨⟨'I', rfl, rfl⟩, by simp⟩
  obtain ⟨hback, hinjective, htables, hcolumns, hregisters⟩ := default_names_differ
  have huntagged {decl : FieldDecl} (h : decl.tag = none) : decl.NamesNoColumn := by
    rintro tag htag
    rw [h] at htag
    cases htag
  have hfields : ∀ decl ∈ (RecordType.numbered "").fields,
      decl.NamesNoColumn ∧ PascalCase decl.ident := by
    intro decl hdecl
    rcases List.mem_pair.1 hdecl with rfl | rfl
    · exact ⟨huntagged rfl, hID⟩
    · exact ⟨huntagged rfl, hId⟩
  obtain ⟨t, ht, hcolumnNames⟩ := hregisters (.numbered "ID") rfl (by decide) hfields
  obtain ⟨u, hu, -⟩ := hregisters (.numbered "Id") rfl (by decide) hfields
  have hstored : (Derive.Declaration.numbered "ID").StoredIn t :=
    ⟨⟨_, fun _ => some (.required (.signed .w64)), rfl, rfl⟩, ht⟩
  have hstoredRaw : (Derive.Declaration.numbered "r#Id").StoredIn u :=
    ⟨⟨_, fun _ => some (.required (.signed .w64)), rfl, rfl⟩, hu⟩
  have hnoTable (name : String) : (Derive.Declaration.numbered name).NamesNoTable := by
    rintro _ ⟨⟩
  refine ⟨hID, hId, hback "ID" hID, ?_, t, u, hstored, hstoredRaw, ?_, ?_, hcolumnNames⟩
  · intro hsame
    exact absurd (hinjective "ID" "Id" hID hId hsame) (by decide)
  · exact htables _ _ _ _ t u hstored hstoredRaw (hnoTable _) (hnoTable _) hID hId (by decide)
  · exact hcolumns _ _ t u _ _ ht hu (huntagged rfl) (huntagged rfl) hID hId (by decide)

end RecordSql
