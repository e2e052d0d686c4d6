import RecordSql.Proofs.Row.Feed
import RecordSql.Proofs.Statement.Content
import RecordSql.Proofs.Statement.Insertion
import RecordSql.Session.Backend

/-!
# What is inserted is read back

The arguments of an INSERT statement are what is read from the fields it writes, record by record.
Cut into rows and served under the columns of the statement, they are decoded into the records that
were inserted, up to the fields that were not written. Neither the order of the columns matters nor
the mode in which the records are read for the statement or that in which the rows are decoded.
-/

set_option autoImplicit false

namespace RecordSql

variable {type : RecordType}

/-- A record of which only the fields with some names are kept; the others are as in a new
record. -/
def Record.only (names : List String) (record : Record type) : Record type := fun i =>
  if (type.field i).ident ∈ names then record i else Record.initial type i

/-! ## Rows of values -/

/-- Rows of one width that were put one behind the other are cut apart again. -/
theorem rowsOfWidth_flatten {width limit : Nat} {rows : List (List Value)} (hpos : 0 < width)
    (hwidth : ∀ row ∈ rows, row.length = width) (hlimit : rows.flatten.length ≤ limit) :
    rowsOfWidth width limit rows.flatten = rows := by
  induction rows generalizing limit with
  | nil => cases limit <;> simp [rowsOfWidth]
  | cons row rows ih =>
    have hrow : row.length = width := hwidth row (by simp)
    rw [List.flatten_cons, List.length_append] at hlimit
    obtain ⟨limit, rfl⟩ : ∃ n, limit = n + 1 := ⟨limit - 1, by omega⟩
    have hrest : rowsOfWidth width limit rows.flatten = rows :=
      ih (fun r hr => hwidth r (by simp [hr])) (by omega)
    have hne : row ≠ [] := by
      rintro rfl
      simp only [List.length_nil] at hrow
      omega
    rw [List.flatten_cons, rowsOfWidth, if_neg (by simp [hne]; omega), ← hrow,
      List.take_left, List.drop_left, hrow, hrest]

/-- The values of some fields make a row that holds these fields of the record. -/
theorem Table.rowHolds_values (t : Table type) (fields : List type.Index) (record : Record type) :
    t.RowHolds (fields.map t.column) (fields.map record.value)
      (record.only (fields.map fun i => (type.field i).ident)) where
  width := by simp
  fields := by
    refine ⟨fields, rfl, fun x hx => ?_, fun i => ?_⟩
    · have hzip : fields.zip (fields.map record.value)
          = fields.map fun i => (i, record.value i) := by
        rw [← List.zip_map', List.map_id']
      rw [hzip, List.mem_map] at hx
      obtain ⟨i, -, rfl⟩ := hx
      exact ⟨_, record i, (type.field i).type.read_toValue (record i)⟩
    · rw [Holds, Record.only]
      have hmem : (type.field i).ident ∈ fields.map (fun i => (type.field i).ident) ↔ i ∈ fields :=
        List.mem_map_of_injective t.ident_injective
      by_cases hi : i ∈ fields
      · obtain ⟨hconvert, hvalue⟩ := (type.field i).type.read_toValue (record i)
        rw [lastCell?_map hi, if_pos (hmem.2 hi)]
        show (type.field i).type.read (record.value i) = .ok (record i)
        rw [FieldType.read, Record.value, hconvert]
        exact hvalue
      · rw [lastCell?_eq_none hi, if_neg (hmem.not.2 hi)]

namespace Insert

variable {t : Table type} {s : Insert type}

/-- A statement is built whenever there is a record and every field that is named is one of the
type and named once. -/
theorem exists_build (t : Table type) (mode : DecodeMode) (s : Insert type)
    (records : s.records ≠ []) (declared : ∀ name ∈ s.fields, ∃ i, (type.field i).ident = name)
    (nodup : s.fields.Nodup) :
    ∃ (targets : List type.Index) (stmt : Statement),
      targets.map (fun i => (type.field i).ident) = s.names ∧ s.build t mode = .ok stmt
      ∧ stmt.args = (s.records.map fun record => targets.map record.value).flatten := by
  obtain ⟨targets, htargets⟩ := exists_targets (t := t) declared
  have hnames := targets_eq_ok_iff.1 htargets
  have hnodup : (targets.map fun i => (type.field i).ident).Nodup := by
    rw [hnames, names]
    split
    · exact (List.nodup_finRange _).map t.ident_injective
    · exact nodup
  have hbuild := buildsTo_of_names_nodup records htargets (List.Nodup.of_map _ hnodup)
  exact ⟨targets, _, hnames, hbuild.build_eq mode, rfl⟩

/-- Records that are inserted are read back. A statement is built from every list of records, be
it for all fields or for some, each named once, and in either mode of reading the fields of records.
Its arguments, cut into rows of as many cells as it has columns, are decoded, in the same mode or in
the other, into as many records in the same order, each with the fields that were written as they
were and with the other fields as in a new record. -/
theorem decodeAll_build (t : Table type) (s : Insert type) (building decoding : DecodeMode)
    (fields : 0 < type.fields.length) (records : s.records ≠ [])
    (declared : ∀ name ∈ s.fields, ∃ i, (type.field i).ident = name) (nodup : s.fields.Nodup) :
    ∃ stmt columns, s.build t building = .ok stmt ∧ s.names.mapM t.columnOf? = some columns
      ∧ (t.decodeAll decoding (.ofSet (.ofRows columns
          (rowsOfWidth columns.length stmt.args.length stmt.args)))).1
        = .ok (s.records.map (Record.only s.names)) := by
  obtain ⟨targets, stmt, hnames, hbuild, hargs⟩ := s.exists_build t building records declared nodup
  have htargets : s.targets t = .ok targets := targets_eq_ok_iff.2 hnames
  have hne : targets ≠ [] := targets_ne_nil fields htargets
  refine ⟨stmt, targets.map t.column, hbuild, ?_, ?_⟩
  · rw [← hnames, List.mapM_map]
    simp only [Function.comp_def, Table.columnOf?_ident]
    exact List.mapM_pure
  · rw [hargs, List.length_map, rowsOfWidth_flatten (List.length_pos_of_ne_nil hne)
      (fun _ => length_of_mem_rows) (Nat.le_refl _)]
    -- It remains that each row by itself holds the part of its record that was written.
    refine Table.decodeAll_ofRows ?_
    rw [List.forall₂_map_left_iff, List.forall₂_map_right_iff, List.forall₂_same, ← hnames]
    exact fun record _ => t.rowHolds_values targets record

/-- Two notes without their titles, with the columns out of order. They are read by the getters, and
decoded in place where that can be done. -/
theorem decodeAll_build_note : ∃ stmt columns,
    (⟨none, ["weight", "id"], [(Record.initial RecordType.note).set ⟨1, by decide⟩ (some "first"),
        Record.initial RecordType.note]⟩ : Insert RecordType.note).build Table.note .safe
          = .ok stmt
      ∧ ["weight", "id"].mapM Table.note.columnOf? = some columns
      ∧ (Table.note.decodeAll .offset (.ofSet (.ofRows columns
          (rowsOfWidth columns.length stmt.args.length stmt.args)))).1
        = .ok [((Record.initial RecordType.note).set ⟨1, by decide⟩ (some "first")).only
            ["weight", "id"], (Record.initial RecordType.note).only ["weight", "id"]] :=
  decodeAll_build Table.note
    ⟨none, ["weight", "id"], [(Record.initial RecordType.note).set ⟨1, by decide⟩ (some "first"),
      Record.initial RecordType.note]⟩ .safe .offset (by decide) (by simp) (by decide) (by decide)

end Insert

end RecordSql
