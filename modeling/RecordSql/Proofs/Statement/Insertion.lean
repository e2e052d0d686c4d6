import RecordSql.Proofs.Statement.Builder
import Mathlib.Data.List.Induction
import Mathlib.Data.Set.List

/-!
# What becomes of an INSERT

An INSERT is checked before it is written: there must be a record, then every field that is named
must exist, and then none may be named twice. The checks go through the whole list of fields one
after the other, so an unknown name is reported in front of a repeated one wherever the two stand. A
list that passes them is written without any further fault, and its arguments are the values of the
fields, record by record. `Insert.BuildsTo` lists all outcomes, and `Insert.build_validated` says
that there are no others.
-/

set_option autoImplicit false

namespace RecordSql

variable {type : RecordType}

/-! ## Lists -/

/-- The items of a list are distinct, or one is the first that repeats an earlier one. -/
theorem nodup_or_first_repeated {α : Type} (xs : List α) :
    xs.Nodup ∨ ∃ before x after, xs = before ++ x :: after ∧ before.Nodup ∧ x ∈ before := by
  induction xs using List.reverseRecOn with
  | nil => exact .inl List.nodup_nil
  | append_singleton xs x ih =>
    obtain hnodup | ⟨before, y, after, rfl, hbefore, hy⟩ := ih
    · by_cases hx : x ∈ xs
      · exact .inr ⟨xs, x, [], rfl, hnodup, hx⟩
      · left
        rw [← List.concat_eq_append, List.nodup_concat]
        exact ⟨hx, hnodup⟩
    · refine .inr ⟨before, y, after ++ [x], ?_, hbefore, hy⟩
      rw [List.append_assoc, List.cons_append]

/-- In rows of one width that were put one behind the other, a cell is found by its row and its
place in it. -/
theorem getElem?_flatten_of_width {α : Type} {rows : List (List α)} {width : Nat}
    (hwidth : ∀ row ∈ rows, row.length = width) (r : Nat) {i : Nat} (hi : i < width) :
    rows.flatten[r * width + i]? = rows[r]?.bind fun row => row[i]? := by
  induction rows generalizing r with
  | nil => simp
  | cons row rows ih =>
    obtain ⟨hrow, hrows⟩ := List.forall_mem_cons.1 hwidth
    rw [List.flatten_cons]
    cases r with
    | zero =>
      have hplace : 0 * width + i < row.length := by omega
      rw [List.getElem?_append_left hplace, Nat.zero_mul, Nat.zero_add]
      rfl
    | succ r =>
      have hplace : (r + 1) * width + i = row.length + (r * width + i) := by
        rw [Nat.succ_mul, hrow]
        omega
      rw [hplace, List.getElem?_append_right (Nat.le_add_right _ _), Nat.add_sub_cancel_left,
        ih hrows]
      rfl

namespace Insert

variable {t : Table type} {s : Insert type}

/-! ## Repeated columns -/

/-- No name is found twice in a list without repetitions. -/
theorem firstRepeated?_eq_none {seen names : List String} (hnames : names.Nodup)
    (hseen : ∀ name ∈ names, name ∉ seen) : firstRepeated? seen names = none := by
  induction names generalizing seen with
  | nil => rfl
  | cons name names ih =>
    rw [firstRepeated?, if_neg (hseen name (by simp))]
    rw [List.nodup_cons] at hnames
    refine ih hnames.2 fun other hother => ?_
    rw [List.mem_cons, not_or]
    exact ⟨fun heq => hnames.1 (heq ▸ hother), hseen other (by simp [hother])⟩

/-- The first name that was seen before, or that stands earlier in the list, is found. -/
theorem firstRepeated?_of_first {seen before after : List String} {name : String}
    (hbefore : before.Nodup) (hnew : ∀ other ∈ before, other ∉ seen)
    (hname : name ∈ before ∨ name ∈ seen) :
    firstRepeated? seen (before ++ name :: after) = some name := by
  induction before generalizing seen with
  | nil =>
    have hseen : name ∈ seen := by simpa using hname
    rw [List.nil_append, firstRepeated?, if_pos hseen]
  | cons first before ih =>
    obtain ⟨hfirst, hbefore⟩ := List.nodup_cons.1 hbefore
    obtain ⟨hfresh, hnew⟩ := List.forall_mem_cons.1 hnew
    rw [List.cons_append, firstRepeated?, if_neg hfresh]
    apply ih hbefore
    · intro other hother hmem
      rcases List.mem_cons.1 hmem with rfl | hseen
      · exact hfirst hother
      · exact hnew other hother hseen
    · simp only [List.mem_cons] at hname ⊢
      tauto

/-! ## Fields to write -/

/-- A statement that names fields of the type writes these fields. -/
theorem exists_targets (declared : ∀ name ∈ s.fields, ∃ i, (type.field i).ident = name) :
    ∃ targets, s.targets t = .ok targets := by
  have hrange : s.fields ∈ Set.range (List.map fun i : type.Index => (type.field i).ident) := by
    rw [Set.range_list_map]
    exact declared
  simp only [targets_eq_ok_iff, names]
  split
  · exact ⟨type.indices, rfl⟩
  · exact hrange

/-- A statement that names a field that the type does not have is refused for the first such name.
-/
theorem targets_of_first_unknown {before after : List String} {name : String}
    (hfields : s.fields = before ++ name :: after)
    (known : ∀ other ∈ before, ∃ i, (type.field i).ident = other)
    (unknown : ∀ i, (type.field i).ident ≠ name) :
    s.targets t = .error (.unknownField name) := by
  have hsome : s.fields.isEmpty = false := by simp [hfields]
  rw [Insert.targets, hsome, if_neg Bool.false_ne_true, hfields]
  apply mapM_eq_error_of_first
  · intro other hother
    obtain ⟨i, hi⟩ := known other hother
    exact ⟨i, Table.requireField_eq_ok_iff.2 hi⟩
  · exact Table.requireField_eq_error unknown

/-! ## The statement -/

/-- The text of a statement that writes some fields: a list of their columns, and for each record
a row of as many placeholders. -/
def text (t : Table type) (s : Insert type) (targets : List type.Index) : String :=
  "INSERT INTO " ++ inBackticks (s.table.getD t.name) ++ " ("
    ++ ", ".intercalate (targets.map fun i => inBackticks (t.column i)) ++ ") VALUES "
    ++ ", ".intercalate (s.records.map fun _ =>
      "(" ++ ", ".intercalate (targets.map fun _ => "?") ++ ")") ++ ";"

/-- The arguments of a statement that writes some fields, record by record. -/
def arguments (s : Insert type) (targets : List type.Index) : List Value :=
  (s.records.map fun record => targets.map record.value).flatten

/-- The row of a record binds the values of its fields. -/
theorem statement_renderRow (t : Table type) (mode : DecodeMode) (targets : List type.Index)
    (record : Record type) :
    (renderRow t mode targets record).statement
      = .ok ⟨"(" ++ ", ".intercalate (targets.map fun _ => "?") ++ ")",
        targets.map record.value⟩ := by
  have hvalues := Rendering.statement_separated ", "
    (fun i => Rendering.statement_bind (record.value i)) targets
  have hrow := Rendering.statement_append
    (Rendering.statement_append (Rendering.statement_sql "(") hvalues) (Rendering.statement_sql ")")
  rw [List.nil_append, List.append_nil, ← List.map_eq_flatMap] at hrow
  rw [renderRow_eq]
  exact hrow

/-- A statement whose fields are in order is written, in either mode. -/
theorem statement_renderRows (t : Table type) (mode : DecodeMode) (s : Insert type)
    (targets : List type.Index) :
    (s.renderRows t mode targets).statement = .ok ⟨s.text t targets, s.arguments targets⟩ := by
  have hcolumns := Rendering.statement_separated ", "
    (fun i => Rendering.statement_name (t.column i)) targets
  have hrows := Rendering.statement_separated ", " (statement_renderRow t mode targets) s.records
  have hinto := Rendering.statement_append (Rendering.statement_sql "INSERT INTO ")
    (Rendering.statement_name (s.table.getD t.name))
  have hlist := Rendering.statement_append
    (Rendering.statement_append hinto (Rendering.statement_sql " (")) hcolumns
  have hvalues := Rendering.statement_append
    (Rendering.statement_append hlist (Rendering.statement_sql ") VALUES ")) hrows
  have hall := Rendering.statement_append hvalues (Rendering.statement_sql ";")
  simp only [flatMap_empty, List.append_nil, List.nil_append] at hall
  exact hall

/-- Arguments that are the values of some fields, record by record and field by field: the one of a
field of a record stands behind those of the records before it and those of the fields before it,
and it is what the field contains, as a value. -/
structure RowMajor (records : List (Record type)) (targets : List type.Index)
    (args : List Value) : Prop where
  /-- There is one argument for every field of every record. -/
  length : args.length = records.length * targets.length
  /-- Every argument is the content of its field in its record. -/
  value : ∀ (r : Fin records.length) (i : Fin targets.length),
    args[r.val * targets.length + i.val]?
      = some ((type.field (targets.get i)).type.toValue (records.get r (targets.get i)))

/-- The values of every record make a row as wide as there are fields. -/
theorem length_of_mem_rows {records : List (Record type)} {targets : List type.Index}
    {row : List Value} (h : row ∈ records.map fun record => targets.map record.value) :
    row.length = targets.length := by
  obtain ⟨record, -, rfl⟩ := List.mem_map.1 h
  exact List.length_map _

/-- The arguments of a statement are such. -/
theorem rowMajor_arguments (s : Insert type) (targets : List type.Index) :
    RowMajor s.records targets (s.arguments targets) where
  length := by simp [arguments, List.length_flatten, Function.comp_def]
  value r i := by
    rw [arguments, getElem?_flatten_of_width (fun _ => length_of_mem_rows) r.val i.isLt]
    simp [Record.value]

/-- Nothing is left open about such arguments. -/
theorem RowMajor.eq {records : List (Record type)} {targets : List type.Index}
    {args others : List Value} (h : RowMajor records targets args)
    (h' : RowMajor records targets others) : args = others := by
  apply List.ext_getElem?
  intro place
  by_cases hplace : place < records.length * targets.length
  · have hwidth : 0 < targets.length := by
      apply Nat.pos_of_ne_zero
      intro hzero
      rw [hzero, Nat.mul_zero] at hplace
      exact Nat.not_lt_zero place hplace
    have hrow : place / targets.length < records.length := (Nat.div_lt_iff_lt_mul hwidth).2 hplace
    have hcell : place % targets.length < targets.length := Nat.mod_lt place hwidth
    have hargs := h.value ⟨_, hrow⟩ ⟨_, hcell⟩
    have hothers := h'.value ⟨_, hrow⟩ ⟨_, hcell⟩
    rw [Nat.div_add_mod'] at hargs hothers
    rw [hargs, hothers]
  · have hend := Nat.le_of_not_lt hplace
    have hargs : args.length ≤ place := by rwa [h.length]
    have hothers : others.length ≤ place := by rwa [h'.length]
    rw [List.getElem?_eq_none hargs, List.getElem?_eq_none hothers]

/-! ## Outcomes -/

/-- What an INSERT may come to. -/
inductive BuildsTo (t : Table type) (s : Insert type) : Except Fault Statement → Prop where
  /-- There is no record, whatever the fields. -/
  | noRecords (records : s.records = []) : BuildsTo t s (.error .emptyValues)
  /-- A name belongs to no field. The first such name is reported, repeated or not. -/
  | unknown (records : s.records ≠ []) (before : List String) (name : String) (after : List String)
      (fields : s.fields = before ++ name :: after)
      (known : ∀ other ∈ before, ∃ i, (type.field i).ident = other)
      (unknown : ∀ i, (type.field i).ident ≠ name) :
      BuildsTo t s (.error (.unknownField name))
  /-- All names belong to fields and one of them is repeated. The column of the first that repeats
  an earlier one is reported. -/
  | repeated (records : s.records ≠ []) (before : List type.Index) (i : type.Index)
      (after : List type.Index)
      (fields : s.fields = (before ++ i :: after).map fun i => (type.field i).ident)
      (new : before.Nodup) (old : i ∈ before) :
      BuildsTo t s (.error (.duplicateColumn (t.column i)))
  /-- All names belong to different fields, or none is given and all fields are written. -/
  | built (records : s.records ≠ []) (targets : List type.Index) (args : List Value)
      (fields : s.names = targets.map fun i => (type.field i).ident)
      (distinct : (targets.map t.column).Nodup) (values : RowMajor s.records targets args) :
      BuildsTo t s (.ok ⟨s.text t targets, args⟩)

/-- A statement whose names belong to fields is built unless a column is repeated. -/
theorem build_of_targets {targets : List type.Index} (mode : DecodeMode) (records : s.records ≠ [])
    (htargets : s.targets t = .ok targets) :
    s.build t mode = match firstRepeated? [] (targets.map t.column) with
      | some column => .error (.duplicateColumn column)
      | none => (s.renderRows t mode targets).statement := by
  have hsome : s.records.isEmpty = false := by simpa using records
  rw [build, render, hsome, if_neg Bool.false_ne_true, htargets]
  dsimp only
  cases firstRepeated? [] (targets.map t.column) <;> rfl

/-- The outcome is what the statement is built to, in either mode. -/
theorem BuildsTo.build_eq {outcome : Except Fault Statement} (h : s.BuildsTo t outcome)
    (mode : DecodeMode) : s.build t mode = outcome := by
  cases h with
  | noRecords records =>
    rw [build, render, records, List.isEmpty_nil, if_pos rfl]
    rfl
  | unknown records before name after fields known unknown =>
    have hsome : s.records.isEmpty = false := by simpa using records
    rw [build, render, hsome, if_neg Bool.false_ne_true,
      targets_of_first_unknown fields known unknown]
    rfl
  | repeated records before i after fields new old =>
    have hnames : s.names = s.fields := by simp [names, fields]
    have htargets : s.targets t = .ok (before ++ i :: after) := by
      rw [targets_eq_ok_iff, hnames, fields]
    have hcolumn : t.column i ∈ before.map t.column := List.mem_map_of_mem old
    have hrepeated : firstRepeated? [] (before.map t.column ++ t.column i :: after.map t.column)
        = some (t.column i) :=
      firstRepeated?_of_first (new.map t.column_injective) (fun _ _ => List.not_mem_nil)
        (.inl hcolumn)
    rw [build_of_targets mode records htargets, List.map_append, List.map_cons, hrepeated]
  | built records targets args fields distinct values =>
    have htargets : s.targets t = .ok targets := targets_eq_ok_iff.2 fields.symm
    have hnew := firstRepeated?_eq_none distinct fun _ _ => List.not_mem_nil
    rw [build_of_targets mode records htargets, hnew, values.eq (rowMajor_arguments s targets)]
    exact s.statement_renderRows t mode targets

/-- A statement whose names belong to different fields is built. -/
theorem buildsTo_of_names_nodup {targets : List type.Index} (records : s.records ≠ [])
    (htargets : s.targets t = .ok targets) (hnodup : targets.Nodup) :
    s.BuildsTo t (.ok ⟨s.text t targets, s.arguments targets⟩) :=
  .built records targets _ (targets_eq_ok_iff.1 htargets).symm (hnodup.map t.column_injective)
    (rowMajor_arguments s targets)

/-- If no field is named, all fields are written. -/
theorem buildsTo_of_fields_eq_nil (t : Table type) (records : s.records ≠ [])
    (fields : s.fields = []) :
    s.BuildsTo t (.ok ⟨s.text t type.indices, s.arguments type.indices⟩) := by
  have htargets : s.targets t = .ok type.indices := by
    rw [Insert.targets, fields, List.isEmpty_nil, if_pos rfl, t.fields_infos]
  exact buildsTo_of_names_nodup records htargets (List.nodup_finRange _)

/-- There is always an outcome. -/
theorem exists_buildsTo (t : Table type) (s : Insert type) : ∃ outcome, s.BuildsTo t outcome := by
  -- The cases are those of the checks, in their order.
  by_cases records : s.records = []
  · exact ⟨_, .noRecords records⟩
  · obtain declared | ⟨before, name, after, hfields, known, hname⟩ :=
      owned_or_first_unowned (fun i => (type.field i).ident) (fun name => name) s.fields
    · obtain ⟨targets, htargets⟩ := exists_targets (t := t) declared
      obtain hnodup | ⟨before, i, after, rfl, hbefore, hi⟩ := nodup_or_first_repeated targets
      · exact ⟨_, buildsTo_of_names_nodup records htargets hnodup⟩
      · by_cases fields : s.fields = []
        · exact ⟨_, buildsTo_of_fields_eq_nil t records fields⟩
        · have hnames : s.names = s.fields := by simp [names, fields]
          have hfields := targets_eq_ok_iff.1 htargets
          rw [hnames] at hfields
          exact ⟨_, .repeated records before i after hfields.symm hbefore hi⟩
    · exact ⟨_, .unknown records before name after hfields known hname⟩

/-- What an INSERT is built to is an outcome. -/
theorem buildsTo_build (t : Table type) (mode : DecodeMode) (s : Insert type) :
    s.BuildsTo t (s.build t mode) := by
  obtain ⟨outcome, houtcome⟩ := exists_buildsTo t s
  rw [houtcome.build_eq]
  exact houtcome

/-- An INSERT comes to exactly one outcome, in either mode of reading records: without a record to
that fault, then to the first name that no field has, then to the column of the first name that
repeats an earlier one, and otherwise to a statement that lists the columns of the fields, each of
them once, with what these fields contain record by record. The fields are looked up by name once
more for every record, which never fails. A statement that names no fields and has a record is
always built. -/
theorem build_validated (t : Table type) (mode : DecodeMode) (s : Insert type) :
    (∀ outcome, s.build t mode = outcome ↔ s.BuildsTo t outcome)
      ∧ (s.fields = [] → s.records ≠ [] → ∃ stmt, s.build t mode = .ok stmt) := by
  constructor
  · intro outcome
    constructor
    · rintro rfl
      exact buildsTo_build t mode s
    · exact fun h => h.build_eq mode
  · intro fields records
    exact ⟨_, (buildsTo_of_fields_eq_nil t records fields).build_eq mode⟩

/-- Of the names of a note one is repeated in front of another that is unknown, then two are
repeated one inside the other, and then none is given. -/
theorem build_validated_note :
    (⟨none, ["id", "id", "colour"], [Record.initial RecordType.note]⟩ :
        Insert RecordType.note).build Table.note .safe = .error (.unknownField "colour")
      ∧ (⟨none, ["id", "title", "title", "id"], [Record.initial RecordType.note]⟩ :
        Insert RecordType.note).build Table.note .offset = .error (.duplicateColumn "heading")
      ∧ ∃ stmt, (⟨none, [], [Record.initial RecordType.note]⟩ :
        Insert RecordType.note).build Table.note .offset = .ok stmt := by
  have hsome : [Record.initial RecordType.note] ≠ [] := List.cons_ne_nil _ _
  refine ⟨((build_validated _ _ _).1 _).2 ?_, ((build_validated _ _ _).1 _).2 ?_,
    (build_validated _ _ _).2 rfl hsome⟩
  · exact .unknown hsome ["id", "id"] "colour" [] rfl (by decide) (by decide)
  · exact .repeated hsome [⟨0, by decide⟩, ⟨1, by decide⟩] ⟨1, by decide⟩ [⟨0, by decide⟩] rfl
      (by decide) (by decide)

end Insert

end RecordSql
