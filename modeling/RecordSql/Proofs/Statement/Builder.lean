import RecordSql.Proofs.Expr.Structure
import RecordSql.Statement.Kind

/-!
# What statements are built from

A builder of any of the four kinds, with the names that its statement has to show and the values
that it has to bind, both in the order in which the statement writes them. A rendering that was not
stopped carries just these. For every kind, what such a rendering is put together from is said once.
-/

set_option autoImplicit false

namespace RecordSql

variable {type : RecordType}

/-- What a statement may be built from. -/
inductive Builder (type : RecordType) where
  /-- A SELECT statement. -/
  | select (s : Select)
  /-- An INSERT statement. -/
  | insert (s : Insert type)
  /-- An UPDATE statement. -/
  | update (s : Update)
  /-- A DELETE statement. -/
  | delete (s : Delete)

/-- The columns that a SELECT statement reads, all fields if none is named. -/
def Select.projection (type : RecordType) (s : Select) : List Expr :=
  if s.columns.isEmpty then type.indices.map fun i => .field (type.field i).ident
  else s.columns.map Expr.leftAssociated

/-- The fields that an INSERT statement writes, all if none is named. -/
def Insert.names (s : Insert type) : List String :=
  if s.fields.isEmpty then type.indices.map fun i => (type.field i).ident else s.fields

namespace Builder

/-- The name of the table that a statement gives itself. -/
def ownTable : Builder type → Option String
  | .select s => s.table
  | .insert s => s.table
  | .update s => s.table
  | .delete s => s.table

/-- The finished statement, or the first fault in it. -/
def build (t : Table type) (mode : DecodeMode) : Builder type → Except Fault Statement
  | .select s => s.build t mode
  | .insert s => s.build t mode
  | .update s => s.build t mode
  | .delete s => s.build t mode

/-- The rendering that the statement is finished from. -/
def render (t : Table type) (mode : DecodeMode) : Builder type → Rendering
  | .select s => s.render t
  | .insert s => s.render t mode
  | .update s => s.render t
  | .delete s => s.render t

/-- A statement is the one of the rendering. -/
theorem build_eq_statement (t : Table type) (mode : DecodeMode) (b : Builder type) :
    b.build t mode = (b.render t mode).statement := by
  cases b <;> rfl

/-- The names that a statement has to show: those of its table and of the columns that it reads,
writes or compares. -/
def names (t : Table type) : Builder type → List String
  | .select s => (s.projection type).flatMap (Expr.columns t)
      ++ s.table.getD t.name :: s.conditions.flatMap fun c => c.expr.columns t
  | .insert s => s.table.getD t.name :: s.names.filterMap t.columnOf?
  | .update s => s.table.getD t.name :: (s.assignments.filterMap (fun a => t.columnOf? a.1)
      ++ s.conditions.flatMap fun c => c.expr.columns t)
  | .delete s => s.table.getD t.name :: s.conditions.flatMap fun c => c.expr.columns t

/-- The values that a statement has to bind: those that it writes and those that it compares
with. -/
def values : Builder type → List Value
  | .select s => s.conditions.flatMap fun c => c.expr.literals
  | .insert s => s.records.flatMap fun record =>
      s.names.filterMap record.valueOf?
  | .update s => s.assignments.map Prod.snd ++ s.conditions.flatMap fun c => c.expr.literals
  | .delete s => s.conditions.flatMap fun c => c.expr.literals

/-- A statement names its table and columns of it. -/
theorem eq_table_or_column_of_mem_names {t : Table type} {b : Builder type} {ident : String}
    (h : ident ∈ b.names t) : ident = b.ownTable.getD t.name ∨ ∃ i, ident = t.column i := by
  have hexpr (es : List Expr) (h : ident ∈ es.flatMap (Expr.columns t)) :
      ∃ i, ident = t.column i := by
    obtain ⟨e, -, he⟩ := List.mem_flatMap.1 h
    exact Expr.exists_of_mem_columns he
  have hconditions (cs : List Condition) (h : ident ∈ cs.flatMap fun c => c.expr.columns t) :
      ∃ i, ident = t.column i := by
    obtain ⟨c, -, hc⟩ := List.mem_flatMap.1 h
    exact Expr.exists_of_mem_columns hc
  have hfield (name : String) (h : t.columnOf? name = some ident) : ∃ i, ident = t.column i := by
    obtain ⟨i, -, rfl⟩ := Option.map_eq_some_iff.1 h
    exact ⟨i, rfl⟩
  cases b with
  | select s =>
    rw [names, List.mem_append, List.mem_cons] at h
    rcases h with h | h | h
    · exact .inr (hexpr _ h)
    · exact .inl h
    · exact .inr (hconditions _ h)
  | insert s =>
    rw [names, List.mem_cons, List.mem_filterMap] at h
    rcases h with h | ⟨name, -, h⟩
    · exact .inl h
    · exact .inr (hfield name h)
  | update s =>
    rw [names, List.mem_cons, List.mem_append, List.mem_filterMap] at h
    rcases h with h | ⟨a, -, h⟩ | h
    · exact .inl h
    · exact .inr (hfield a.1 h)
    · exact .inr (hconditions _ h)
  | delete s =>
    rw [names, List.mem_cons] at h
    rcases h with h | h
    · exact .inl h
    · exact .inr (hconditions _ h)

end Builder

/-! ## SELECT -/

namespace Select

/-- Either all fields are projected or the columns that are named. -/
theorem projection_cases (type : RecordType) (s : Select) :
    (s.columns = [] ∧ s.projection type = type.indices.map fun i => .field (type.field i).ident)
      ∨ s.columns ≠ [] ∧ s.projection type = s.columns.map Expr.leftAssociated := by
  rw [projection]
  cases s.columns with
  | nil => exact .inl ⟨rfl, rfl⟩
  | cons e es => exact .inr ⟨by simp, rfl⟩

/-- A statement for a type with fields projects something. -/
theorem projection_ne_nil {s : Select} (fields : 0 < type.fields.length) :
    s.projection type ≠ [] := by
  rcases s.projection_cases type with ⟨-, h⟩ | ⟨hne, h⟩
  · rw [h]
    simpa using type.indices_ne_nil fields
  · rw [h]
    simpa using hne

/-- What a SELECT statement is put together from. -/
theorem render_eq_done {t : Table type} {s : Select} {d : Draft} (h : s.render t = .done d) :
    ∃ dc dw, s.renderColumns t = .done dc ∧ t.renderWhere s.conditions = .done dw
      ∧ d = .sql "SELECT " :: (dc ++ .sql " FROM " :: .name (s.table.getD t.name) ::
        (dw ++ [.sql ";"])) := by
  simp only [render, Rendering.append_eq_done_iff, Rendering.sql_eq_done, Rendering.name_eq_done,
    Rendering.done_inj] at h
  obtain ⟨_, _, ⟨_, dw, ⟨_, _, ⟨_, _, ⟨_, dc, rfl, hcolumns, rfl⟩, rfl, rfl⟩, rfl, rfl⟩, hwhere,
    rfl⟩, rfl, rfl⟩ := h
  exact ⟨dc, dw, hcolumns, hwhere, by simp [Table.nameFor]⟩

end Select

/-- A column of a projection carries its name. -/
theorem Expr.carries_renderProjection {t : Table type} {e : Expr} {d : Draft}
    (h : e.renderProjection t = .done d) : d.Carries (e.leftAssociated.columns t) [] := by
  cases e with
  | field name =>
    have hrender : (field name).render t none = .done d := h
    exact (field name).carries_render hrender
  | literal value => cases h
  | aggregate function name =>
    have hrender : (aggregate function name).render t none = .done d := h
    have hcarries := (aggregate function name).carries_render hrender
    cases function with
    | none => exact hcarries
    | some f => exact hcarries
  | unary op right => cases h
  | binary op left right => cases h

/-- The columns of a SELECT statement carry their names. -/
theorem Select.carries_renderColumns {t : Table type} {s : Select} {d : Draft}
    (h : s.renderColumns t = .done d) :
    d.Carries ((s.projection type).flatMap (Expr.columns t)) [] := by
  rw [renderColumns] at h
  rcases s.projection_cases type with ⟨hnone, hall⟩ | ⟨hsome, hnamed⟩
  · rw [if_pos (by simpa using hnone), t.infos_eq, List.map_map] at h
    rw [hall, List.flatMap_map]
    simp only [Expr.columns, Table.columnOf?_ident]
    have hitem (i : type.Index) (dx : Draft) (hx : Rendering.name (t.column i) = .done dx) :
        dx.Carries (some (t.column i)).toList [] := by
      cases hx
      exact ⟨rfl, rfl⟩
    simpa using Rendering.carries_separated hitem h
  · rw [if_neg (by simpa using hsome)] at h
    rw [hnamed, List.flatMap_map]
    simpa using Rendering.carries_separated (fun e dx hx => e.carries_renderProjection hx) h

/-! ## INSERT -/

namespace Insert

/-- The fields that a statement writes are those with the names it gives. -/
theorem targets_eq_ok_iff {t : Table type} {s : Insert type} {targets : List type.Index} :
    s.targets t = .ok targets ↔ targets.map (fun i => (type.field i).ident) = s.names := by
  rw [Insert.targets, names, t.fields_infos]
  split
  · rw [Except.ok.injEq, eq_comm]
    exact (List.map_injective_iff.2 t.ident_injective).eq_iff.symm
  · rw [Table.mapM_requireField_eq_ok_iff, eq_comm]

/-- A type with fields has fields to write. -/
theorem targets_ne_nil {t : Table type} {s : Insert type} {targets : List type.Index}
    (fields : 0 < type.fields.length) (h : s.targets t = .ok targets) : targets ≠ [] := by
  rintro rfl
  rw [Insert.targets, t.fields_infos] at h
  split at h
  · exact type.indices_ne_nil fields (Except.ok.inj h)
  · rename_i hsome
    rw [Table.mapM_requireField_eq_ok_iff, List.map_nil] at h
    rw [h] at hsome
    exact hsome rfl

/-- What an INSERT statement needs in order to be rendered. -/
theorem render_eq_done {t : Table type} {mode : DecodeMode} {s : Insert type} {d : Draft}
    (h : s.render t mode = .done d) :
    s.records ≠ []
      ∧ ∃ targets, s.targets t = .ok targets ∧ s.renderRows t mode targets = .done d := by
  rw [render] at h
  split at h
  · cases h
  · rename_i hrecords
    refine ⟨by simpa using hrecords, ?_⟩
    split at h
    · cases h
    · rename_i targets htargets
      split at h
      · cases h
      · exact ⟨targets, htargets, h⟩

/-- What an INSERT statement is put together from. -/
theorem renderRows_eq_done {t : Table type} {mode : DecodeMode} {s : Insert type}
    {targets : List type.Index} {d : Draft} (h : s.renderRows t mode targets = .done d) :
    ∃ dc dr, Rendering.separated ", " (targets.map fun i => .name (t.column i)) = .done dc
      ∧ Rendering.separated ", " (s.records.map (renderRow t mode targets)) = .done dr
      ∧ d = .sql "INSERT INTO " :: .name (s.table.getD t.name) :: .sql " (" ::
        (dc ++ .sql ") VALUES " :: (dr ++ [.sql ";"])) := by
  simp only [renderRows, Rendering.append_eq_done_iff, Rendering.sql_eq_done,
    Rendering.name_eq_done, Rendering.done_inj] at h
  obtain ⟨_, _, ⟨_, dr, ⟨_, _, ⟨_, dc, ⟨_, _, ⟨_, _, rfl, rfl, rfl⟩, rfl, rfl⟩, hcolumns, rfl⟩, rfl,
    rfl⟩, hrows, rfl⟩, rfl, rfl⟩ := h
  exact ⟨dc, dr, hcolumns, hrows, by simp [Table.nameFor]⟩

/-- Reading a field of the table never fails, and in either mode its content is bound. -/
theorem renderValue_eq (t : Table type) (mode : DecodeMode) (record : Record type)
    (i : type.Index) : renderValue t mode record i = .bind (record.value i) := by
  rw [renderValue, t.readField_ident]
  rfl

/-- The row of a record is made of its values. -/
theorem renderRow_eq (t : Table type) (mode : DecodeMode) (targets : List type.Index)
    (record : Record type) :
    renderRow t mode targets record = .sql "("
      ++ .separated ", " (targets.map fun i => .bind (record.value i)) ++ .sql ")" := by
  rw [renderRow, List.map_congr_left fun i _ => renderValue_eq t mode record i]

/-- In either mode of reading records the same is rendered. -/
theorem render_eq_of_modes (t : Table type) (mode mode' : DecodeMode) (s : Insert type) :
    s.render t mode = s.render t mode' := by
  have hrow (targets : List type.Index) :
      renderRow t mode targets = renderRow t mode' targets := by
    funext record
    rw [renderRow_eq, renderRow_eq]
  simp only [render, renderRows, hrow]

/-- What the row of a record is put together from. -/
theorem renderRow_eq_done {t : Table type} {mode : DecodeMode} {targets : List type.Index}
    {record : Record type} {d : Draft} (h : renderRow t mode targets record = .done d) :
    ∃ dv, Rendering.separated ", " (targets.map fun i => .bind (record.value i)) = .done dv
      ∧ d = .sql "(" :: (dv ++ [.sql ")"]) := by
  simp only [renderRow_eq, Rendering.append_eq_done_iff, Rendering.sql_eq_done,
    Rendering.done_inj] at h
  obtain ⟨_, _, ⟨_, dv, rfl, hvalues, rfl⟩, rfl, rfl⟩ := h
  exact ⟨dv, hvalues, rfl⟩

end Insert

/-! ## UPDATE -/

namespace Update

/-- An assignment is the column of its field with its value. -/
theorem renderAssignment_eq_done {t : Table type} {a : String × Value} {d : Draft}
    (h : renderAssignment t a = .done d) :
    ∃ i, (type.field i).ident = a.1
      ∧ d = [.name (t.column i), .sql " = ", .bind a.2] := by
  rw [renderAssignment, Rendering.append_sql_append_eq_done_iff] at h
  obtain ⟨_, _, hfield, hvalue, rfl⟩ := h
  cases hvalue
  obtain ⟨i, hi, rfl⟩ := Table.renderField_eq_done_iff.1 hfield
  exact ⟨i, hi, rfl⟩

/-- What an UPDATE statement is put together from. -/
theorem render_eq_done {t : Table type} {s : Update} {d : Draft} (h : s.render t = .done d) :
    s.assignments ≠ [] ∧ ∃ da dw,
      Rendering.separated ", " (s.assignments.map (renderAssignment t)) = .done da
        ∧ t.renderWhere s.conditions = .done dw
        ∧ d = .sql "UPDATE " :: .name (s.table.getD t.name) :: .sql " SET " ::
          (da ++ (dw ++ [.sql ";"])) := by
  rw [render] at h
  split at h
  · cases h
  · rename_i hsome
    simp only [Rendering.append_eq_done_iff, Rendering.sql_eq_done, Rendering.name_eq_done,
      Rendering.done_inj] at h
    obtain ⟨_, _, ⟨_, dw, ⟨_, da, ⟨_, _, ⟨_, _, rfl, rfl, rfl⟩, rfl, rfl⟩, hassign, rfl⟩, hwhere,
      rfl⟩, rfl, rfl⟩ := h
    exact ⟨by simpa using hsome, da, dw, hassign, hwhere, by simp [Table.nameFor]⟩

end Update

/-! ## DELETE -/

/-- What a DELETE statement is put together from. -/
theorem Delete.render_eq_done {t : Table type} {s : Delete} {d : Draft}
    (h : s.render t = .done d) :
    ∃ dw, t.renderWhere s.conditions = .done dw
      ∧ d = .sql "DELETE FROM " :: .name (s.table.getD t.name) :: (dw ++ [.sql ";"]) := by
  simp only [render, Rendering.append_eq_done_iff, Rendering.sql_eq_done, Rendering.name_eq_done,
    Rendering.done_inj] at h
  obtain ⟨_, _, ⟨_, dw, ⟨_, _, rfl, rfl, rfl⟩, hwhere, rfl⟩, rfl, rfl⟩ := h
  exact ⟨dw, hwhere, by simp [Table.nameFor]⟩

/-! ## All statements -/

/-- In either mode of reading records the same is built. -/
theorem Builder.build_eq_of_modes (t : Table type) (mode mode' : DecodeMode) (b : Builder type) :
    b.build t mode = b.build t mode' := by
  cases b with
  | insert s => exact congrArg Rendering.statement (s.render_eq_of_modes t mode mode')
  | select s | update s | delete s => rfl

/-- A statement carries the names that it has to show and the values that it has to bind. -/
theorem Builder.carries_render {t : Table type} {mode : DecodeMode} {b : Builder type} {d : Draft}
    (h : b.render t mode = .done d) : d.Carries (b.names t) b.values := by
  cases b with
  | select s =>
    obtain ⟨dc, dw, hcolumns, hwhere, rfl⟩ := s.render_eq_done h
    have hend := (Table.carries_renderWhere hwhere).append_sql ";"
    exact ((s.carries_renderColumns hcolumns).append ((hend.name_cons _).sql_cons _)).sql_cons _
  | insert s =>
    obtain ⟨-, targets, htargets, hdone⟩ := s.render_eq_done h
    obtain ⟨dc, dr, hcolumns, hrows, rfl⟩ := Insert.renderRows_eq_done hdone
    have hcolumn (i : type.Index) (dx : Draft) (hx : Rendering.name (t.column i) = .done dx) :
        dx.Carries [t.column i] [] := by
      cases hx
      exact ⟨rfl, rfl⟩
    have hvalue (record : Record type) (i : type.Index) (dx : Draft)
        (hx : Rendering.bind (record.value i) = .done dx) : dx.Carries [] [record.value i] := by
      cases hx
      exact ⟨rfl, rfl⟩
    have hrow (record : Record type) (dx : Draft)
        (hx : Insert.renderRow t mode targets record = .done dx) :
        dx.Carries [] (targets.map record.value) := by
      obtain ⟨dv, hvalues, rfl⟩ := Insert.renderRow_eq_done hx
      have hcells := Rendering.carries_separated (hvalue record) hvalues
      simpa [← List.map_eq_flatMap] using (hcells.append_sql ")").sql_cons "("
    have hlist := Rendering.carries_separated hcolumn hcolumns
    have hend := (Rendering.carries_separated hrow hrows).append_sql ";"
    have hall := (((hlist.append (hend.sql_cons ") VALUES ")).sql_cons " (").name_cons
      (s.table.getD t.name)).sql_cons "INSERT INTO "
    have hvalueOf (record : Record type) (i : type.Index) :
        record.valueOf? (type.field i).ident = some (record.value i) := t.valueOf?_ident record i
    rw [names, values, ← Insert.targets_eq_ok_iff.1 htargets]
    simpa [List.filterMap_map, Function.comp_def, hvalueOf, ← List.map_eq_flatMap] using hall
  | update s =>
    obtain ⟨-, da, dw, hassign, hwhere, rfl⟩ := s.render_eq_done h
    have hitem (a : String × Value) (dx : Draft) (hx : Update.renderAssignment t a = .done dx) :
        dx.Carries (t.columnOf? a.1).toList [a.2] := by
      obtain ⟨i, hi, rfl⟩ := Update.renderAssignment_eq_done hx
      rw [← hi, Table.columnOf?_ident]
      exact ⟨rfl, rfl⟩
    have hlist := Rendering.carries_separated hitem hassign
    have hend := (Table.carries_renderWhere hwhere).append_sql ";"
    have hall := (((hlist.append hend).sql_cons " SET ").name_cons
      (s.table.getD t.name)).sql_cons "UPDATE "
    rw [names, values, List.filterMap_eq_flatMap_toList, List.map_eq_flatMap]
    exact hall
  | delete s =>
    obtain ⟨dw, hwhere, rfl⟩ := s.render_eq_done h
    have hend := (Table.carries_renderWhere hwhere).append_sql ";"
    exact (hend.name_cons _).sql_cons _

end RecordSql
