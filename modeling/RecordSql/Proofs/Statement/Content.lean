import RecordSql.Proofs.Expr.Literals
import RecordSql.Proofs.Sql.Clause
import RecordSql.Proofs.Statement.Builder

/-!
# Statements say what they were built from

The text of a finished statement, read clause by clause with its arguments in the places of the
placeholders, gives back what the statement was built from: the table, the columns to read or to
write, the rows or the assignments with their values, and the condition. `Builder.Conveys` says
what the clauses of each kind of statement must be. For every kind, the draft of the statement is
taken apart into those of its clauses, each of which is legible by itself.
-/

set_option autoImplicit false

namespace RecordSql

open Sql

variable {type : RecordType} {mode : DecodeMode}

/-- A condition, or none, that restricts a statement to the rows that meet all conditions of a
list. -/
structure Table.Restricts (t : Table type) (conditions : List Condition)
    (condition : Option (Phrase Value)) : Prop where
  /-- It reads as the conjunction of the conditions. -/
  meaning : condition.map (Phrase.toExpr? t)
    = (Condition.conjunction conditions).map fun all => some all.expr.leftAssociated
  /-- Its values are the literals of the conditions in order. -/
  literals : condition.elim [] Phrase.values = conditions.flatMap fun c => c.expr.literals

namespace Builder

/-- Whether clauses say what a statement was built from. The rows of an INSERT are what is read from
the records in the mode in which the statement was built, and what their fields contain. -/
def Conveys (t : Table type) (mode : DecodeMode) : Builder type → Clauses Value → Prop
  | .select s, .select columns table condition =>
    columns.mapM (Phrase.toExpr? t) = some (s.projection type) ∧ table = s.table.getD t.name
      ∧ t.Restricts s.conditions condition
  | .insert s, .insert table columns rows =>
    table = s.table.getD t.name ∧ s.names.mapM t.columnOf? = some columns
      ∧ List.Forall₂ (fun record row => s.names.mapM (t.readField mode record) = .ok row
        ∧ s.names.mapM record.valueOf? = some row) s.records rows
  | .update s, .update table assignments condition =>
    table = s.table.getD t.name
      ∧ s.assignments.mapM (fun a => (t.columnOf? a.1).map (·, a.2)) = some assignments
      ∧ t.Restricts s.conditions condition
  | .delete s, .delete table condition =>
    table = s.table.getD t.name ∧ t.Restricts s.conditions condition
  | _, _ => False

end Builder

/-- A draft that spells clauses which say what a statement was built from. -/
def SpellsClauses (t : Table type) (mode : DecodeMode) (b : Builder type) (d : Draft) : Prop :=
  ∃ tokens clauses, Sealed d tokens ∧ Clauses.read? tokens = some clauses
    ∧ b.Conveys t mode clauses

/-! ## The condition -/

/-- The end of a statement, from its condition on. -/
structure Table.EndsWith (t : Table type) (conditions : List Condition) (d : Draft)
    (tokens : List (Token Value)) (condition : Option (Phrase Value)) : Prop where
  /-- It spells its tokens. -/
  spells : Sealed (d ++ [.sql ";"]) (tokens ++ [.semicolon])
  /-- It is set apart from what precedes it. -/
  breaks : Breaks (d ++ [.sql ";"])
  /-- It is not a further item of a list. -/
  noComma : ∀ token ∈ (tokens ++ [Token.semicolon]).head?, isComma token = false
  /-- Its tokens are those of the condition. -/
  reads : ∀ depth, tokens.length < depth →
    readCondition depth (tokens ++ [.semicolon]) = some (condition, [.semicolon])
  /-- The condition is that of the statement. -/
  restricts : t.Restricts conditions condition

/-- What follows the other clauses of a statement reads as its condition. -/
theorem Table.endsWith_renderWhere {t : Table type} {conditions : List Condition} {d : Draft}
    (h : t.renderWhere conditions = .done d) :
    ∃ tokens condition, t.EndsWith conditions d tokens condition := by
  have hend : Sealed [.sql ";"] [.semicolon] := sealed_clause (by simp [clauseTexts])
  have hwhere : Sealed [.sql " WHERE "] [.keyword .filter] := sealed_clause (by simp [clauseTexts])
  rw [renderWhere] at h
  cases hall : Condition.conjunction conditions with
  | none =>
    rw [hall] at h
    cases h
    cases conditions with
    | cons c cs => cases hall
    | nil => exact ⟨[], none, hend, breaks_cons rfl _, by simp [isComma], fun _ _ => rfl, rfl, rfl⟩
  | some all =>
    simp only [hall, Rendering.sql_eq_done, Rendering.done_append_eq_done_iff] at h
    obtain ⟨dc, hrender, rfl⟩ := h
    obtain ⟨tokens, phrase, hspells, hexpr, hreads⟩ := all.expr.spells_render hrender
    refine ⟨.keyword .filter :: tokens, some phrase,
      hwhere.sealed_append (hspells.break_append (breaks_cons rfl _) hend),
      breaks_cons rfl _, by simp [isComma], ?_, ?_, ?_⟩
    · -- The semicolon ends the condition, as no expression goes on with it.
      intro depth hdepth
      obtain ⟨inner, rfl⟩ : ∃ inner, depth = inner + 1 := ⟨depth - 1, by omega⟩
      simp only [List.length_cons] at hdepth
      have hphrase : readExpression (inner + 1) (tokens ++ [.semicolon])
          = some (phrase, [.semicolon]) :=
        hreads inner [.semicolon] (by omega)
          (by simp [Ends, Level.continues, compares, isOperator])
      rw [List.cons_append, readCondition, hphrase]
      rfl
    · rw [hall, Option.map_some, Option.map_some, hexpr]
    · rw [Option.elim_some, Phrase.values_of_toExpr? hexpr, Expr.literals_leftAssociated,
        Condition.literals_conjunction hall]

/-! ## SELECT -/

/-- A column of a projection reads as that column. -/
theorem Expr.readProjected_renderProjection {t : Table type} {e : Expr} {d : Draft}
    (h : e.renderProjection t = .done d) :
    ∃ tokens phrase, Spells d tokens
      ∧ (∀ rest, readProjected (tokens ++ rest) = some (phrase, rest))
      ∧ phrase.toExpr? t = some e.leftAssociated := by
  have hfield (name : String) (h : t.renderField name = .done d) :
      ∃ tokens phrase, Spells d tokens
        ∧ (∀ rest, readProjected (tokens ++ rest) = some (phrase, rest))
        ∧ phrase.toExpr? t = some (.field name) := by
    obtain ⟨i, rfl, rfl⟩ := Table.renderField_eq_done_iff.1 h
    exact ⟨_, .column (t.column i), spells_name _, fun _ => rfl, by simp [Phrase.toExpr?]⟩
  cases e with
  | field name => exact hfield name h
  | literal value => cases h
  | aggregate function name =>
    cases function with
    | none => exact hfield name h
    | some f =>
      have hrender : (aggregate (some f) name).render t none = .done d := h
      obtain ⟨i, rfl, rfl⟩ := render_aggregate_eq_done_iff.1 hrender
      exact ⟨_, .call f (t.column i), (sealed_application _ f).spells, fun _ => rfl,
        by simp [Phrase.toExpr?, leftAssociated]⟩
  | unary op right => cases h
  | binary op left right => cases h

namespace Select

/-- The columns of a SELECT statement, if there are any, read as its projection. -/
theorem readCommas_renderColumns {t : Table type} {s : Select} {d : Draft}
    (hne : s.projection type ≠ []) (h : s.renderColumns t = .done d) :
    ∃ tokens columns, Spells d tokens
      ∧ (∀ rest, (∀ token ∈ rest.head?, isComma token = false) →
        readCommas readProjected (tokens ++ rest) = some (columns, rest))
      ∧ columns.mapM (Phrase.toExpr? t) = some (s.projection type) := by
  rw [renderColumns] at h
  rcases s.projection_cases type with ⟨hnone, hall⟩ | ⟨hsome, hnamed⟩
  · rw [if_pos (by simpa using hnone), t.infos_eq, List.map_map] at h
    rw [hall] at hne ⊢
    have hcolumn (i : type.Index) (dx : Draft) (hx : Rendering.name (t.column i) = .done dx) :
        ∃ tokens phrase, Spells dx tokens
          ∧ (∀ rest, readProjected (tokens ++ rest) = some (phrase, rest))
          ∧ phrase.toExpr? t = some (.field (type.field i).ident) := by
      cases hx
      exact ⟨_, .column (t.column i), spells_name _, fun _ => rfl, by simp [Phrase.toExpr?]⟩
    obtain ⟨tokens, columns, hspells, hreads, hmeans⟩ :=
      readCommas_separated hcolumn (by simpa using hne) h
    refine ⟨tokens, columns, hspells, hreads, mapM_eq_pure ?_⟩
    rw [List.forall₂_map_right_iff]
    exact hmeans.flip
  · rw [if_neg (by simpa using hsome)] at h
    rw [hnamed]
    obtain ⟨tokens, columns, hspells, hreads, hmeans⟩ := readCommas_separated
      (fun e dx hx => e.readProjected_renderProjection hx) hsome h
    refine ⟨tokens, columns, hspells, hreads, mapM_eq_pure ?_⟩
    rw [List.forall₂_map_right_iff]
    exact hmeans.flip

/-- The draft of a SELECT statement with something to project spells its clauses. -/
theorem spellsClauses {t : Table type} {s : Select} {d : Draft} (hne : s.projection type ≠ [])
    (h : s.render t = .done d) : SpellsClauses t mode (.select s) d := by
  have hselect : Sealed [.sql "SELECT "] [.keyword .select] := sealed_clause (by simp [clauseTexts])
  have hfrom : Sealed [.sql " FROM "] [.keyword .source] := sealed_clause (by simp [clauseTexts])
  obtain ⟨dc, dw, hcolumns, hwhere, rfl⟩ := s.render_eq_done h
  obtain ⟨tw, condition, hend⟩ := Table.endsWith_renderWhere hwhere
  obtain ⟨tc, columns, hspells, hreads, hmeans⟩ := s.readCommas_renderColumns hne hcolumns
  refine ⟨.keyword .select :: (tc ++ .keyword .source :: .name (s.table.getD t.name) ::
    (tw ++ [.semicolon])), .select columns (s.table.getD t.name) condition, ?_, ?_, hmeans, rfl,
    hend.restricts⟩
  · have htable := (spells_name (s.table.getD t.name)).break_append hend.breaks hend.spells
    exact hselect.sealed_append
      (hspells.break_append (breaks_cons rfl _) (hfrom.sealed_append htable))
  · rw [Clauses.read?, readStatement, hreads _ (by simp [isComma])]
    simp only
    rw [hend.reads _ (by simp; omega)]
    rfl

end Select

/-! ## INSERT -/

namespace Insert

/-- The row of a record reads as the values of its fields. -/
theorem readRow_renderRow {t : Table type} {targets : List type.Index} {record : Record type}
    {d : Draft} (hne : targets ≠ []) (h : renderRow t mode targets record = .done d) :
    ∃ tokens row, Spells d tokens ∧ (∀ rest, readRow (tokens ++ rest) = some (row, rest))
      ∧ row = targets.map record.value := by
  obtain ⟨dv, hvalues, rfl⟩ := renderRow_eq_done h
  have hvalue (i : type.Index) (dx : Draft) (hx : Rendering.bind (record.value i) = .done dx) :
      ∃ tokens v, Spells dx tokens ∧ (∀ rest, readValue (tokens ++ rest) = some (v, rest))
        ∧ v = record.value i := by
    cases hx
    exact ⟨_, _, (sealed_bind _).spells, fun _ => rfl, rfl⟩
  obtain ⟨tokens, row, hspells, hreads, hmeans⟩ := readCommas_separated hvalue hne hvalues
  refine ⟨_, row, hspells.group.spells, fun rest => ?_, eq_map_of_forall₂ hmeans⟩
  rw [List.cons_append, List.append_assoc, readRow, hreads _ (by simp [isComma])]
  rfl

/-- The draft of an INSERT statement with fields to write spells its clauses. -/
theorem spellsClauses {t : Table type} {s : Insert type} {d : Draft} (hnames : s.names ≠ [])
    (h : s.render t mode = .done d) : SpellsClauses t mode (.insert s) d := by
  have hinsert : Sealed [.sql "INSERT INTO "] [.keyword .insert, .keyword .into] :=
    sealed_clause (by simp [clauseTexts])
  have hopening : Sealed [.sql " ("] [.opening] := sealed_clause (by simp [clauseTexts])
  have hvalues : Sealed [.sql ") VALUES "] [.closing, .keyword .values] :=
    sealed_clause (by simp [clauseTexts])
  have hend : Sealed [.sql ";"] [.semicolon] := sealed_clause (by simp [clauseTexts])
  obtain ⟨hrecords, targets, htargets, hdone⟩ := render_eq_done h
  obtain ⟨dc, dr, hcolumns, hrecord, rfl⟩ := renderRows_eq_done hdone
  have hne : targets ≠ [] := by
    rintro rfl
    exact hnames (targets_eq_ok_iff.1 htargets).symm
  have hcolumn (i : type.Index) (dx : Draft) (hx : Rendering.name (t.column i) = .done dx) :
      ∃ tokens column, Spells dx tokens
        ∧ (∀ rest, readName (tokens ++ rest) = some (column, rest)) ∧ column = t.column i := by
    cases hx
    exact ⟨_, _, spells_name _, fun _ => rfl, rfl⟩
  obtain ⟨tc, columns, hspellsc, hreadsc, hmeansc⟩ := readCommas_separated hcolumn hne hcolumns
  obtain ⟨tr, rows, hspellsr, hreadsr, hmeansr⟩ :=
    readCommas_separated (fun record dx hx => readRow_renderRow hne hx) hrecords hrecord
  refine ⟨.keyword .insert :: .keyword .into :: .name (s.table.getD t.name) :: .opening ::
    (tc ++ .closing :: .keyword .values :: (tr ++ [.semicolon])),
    .insert (s.table.getD t.name) columns rows, ?_, ?_, rfl, ?_, ?_⟩
  · have hlast := hspellsr.break_append (breaks_cons rfl _) hend
    have hlist := hspellsc.break_append (breaks_cons rfl _) (hvalues.sealed_append hlast)
    have htable := (spells_name (s.table.getD t.name)).break_append (breaks_cons rfl _)
      (hopening.sealed_append hlist)
    exact hinsert.sealed_append htable
  · rw [Clauses.read?, readStatement, hreadsc _ (by simp [isComma])]
    simp only
    rw [hreadsr _ (by simp [isComma])]
    rfl
  · rw [← targets_eq_ok_iff.1 htargets, eq_map_of_forall₂ hmeansc, List.mapM_map]
    simp only [Function.comp_def, Table.columnOf?_ident]
    exact List.mapM_pure
  · rw [← targets_eq_ok_iff.1 htargets]
    refine hmeansr.imp fun record row hrow => ?_
    rw [hrow, List.mapM_map, List.mapM_map]
    constructor
    · simp only [Function.comp_def, Table.readField_ident]
      exact List.mapM_pure
    · simp only [Function.comp_def, t.valueOf?_ident]
      exact List.mapM_pure

end Insert

/-! ## UPDATE -/

namespace Update

/-- An assignment reads as the column of its field with its value. -/
theorem readAssignment_renderAssignment {t : Table type} {a : String × Value} {d : Draft}
    (h : renderAssignment t a = .done d) :
    ∃ tokens assignment, Spells d tokens
      ∧ (∀ rest, readAssignment (tokens ++ rest) = some (assignment, rest))
      ∧ (t.columnOf? a.1).map (·, a.2) = some assignment := by
  obtain ⟨i, hi, rfl⟩ := renderAssignment_eq_done h
  have heq : Sealed [.sql " = "] [.operator .eq] := sealed_operator .eq
  have hspells := (spells_name (t.column i)).break_append (breaks_cons rfl _)
    (heq.sealed_append (sealed_bind a.2))
  exact ⟨_, (t.column i, a.2), hspells.spells, fun _ => rfl, by simp [← hi]⟩

/-- The draft of an UPDATE statement spells its clauses. -/
theorem spellsClauses {t : Table type} {s : Update} {d : Draft} (h : s.render t = .done d) :
    SpellsClauses t mode (.update s) d := by
  have hupdate : Sealed [.sql "UPDATE "] [.keyword .update] := sealed_clause (by simp [clauseTexts])
  have hset : Sealed [.sql " SET "] [.keyword .set] := sealed_clause (by simp [clauseTexts])
  obtain ⟨hsome, da, dw, hassign, hwhere, rfl⟩ := s.render_eq_done h
  obtain ⟨tw, condition, hend⟩ := Table.endsWith_renderWhere hwhere
  obtain ⟨ta, assignments, hspells, hreads, hmeans⟩ := readCommas_separated
    (fun a dx hx => readAssignment_renderAssignment hx) hsome hassign
  refine ⟨.keyword .update :: .name (s.table.getD t.name) :: .keyword .set ::
    (ta ++ (tw ++ [.semicolon])), .update (s.table.getD t.name) assignments condition, ?_, ?_, rfl,
    mapM_eq_pure hmeans, hend.restricts⟩
  · have hlist := hset.sealed_append (hspells.break_append hend.breaks hend.spells)
    have htable := (spells_name (s.table.getD t.name)).break_append (breaks_cons rfl _) hlist
    exact hupdate.sealed_append htable
  · rw [Clauses.read?, readStatement, hreads _ hend.noComma]
    simp only
    rw [hend.reads _ (by simp; omega)]
    rfl

end Update

/-! ## DELETE -/

/-- The draft of a DELETE statement spells its clauses. -/
theorem Delete.spellsClauses {t : Table type} {s : Delete} {d : Draft}
    (h : s.render t = .done d) : SpellsClauses t mode (.delete s) d := by
  have hdelete : Sealed [.sql "DELETE FROM "] [.keyword .delete, .keyword .source] :=
    sealed_clause (by simp [clauseTexts])
  obtain ⟨dw, hwhere, rfl⟩ := s.render_eq_done h
  obtain ⟨tw, condition, hend⟩ := Table.endsWith_renderWhere hwhere
  refine ⟨.keyword .delete :: .keyword .source :: .name (s.table.getD t.name) ::
    (tw ++ [.semicolon]), .delete (s.table.getD t.name) condition, ?_, ?_, rfl, hend.restricts⟩
  · have htable := (spells_name (s.table.getD t.name)).break_append hend.breaks hend.spells
    exact hdelete.sealed_append htable
  · rw [Clauses.read?, readStatement, hend.reads _ (by simp; omega)]
    rfl

/-! ## Tables without back-ticks -/

/-- A draft that reads as clauses which say what a statement was built from. -/
def ReadsAsClauses (t : Table type) (mode : DecodeMode) (b : Builder type) (d : Draft) : Prop :=
  ∃ tokens clauses, Closed d tokens ∧ Clauses.read? tokens = some clauses
    ∧ b.Conveys t mode clauses

/-- If neither the table nor its columns have back-ticks, a draft reads as what it spells. -/
theorem ReadsAsClauses.of_spells {t : Table type} {b : Builder type} {d : Draft}
    (plain : ∀ i, '`' ∉ (t.column i).toList)
    (plainTable : '`' ∉ (b.ownTable.getD t.name).toList) (h : b.render t mode = .done d)
    (hspells : SpellsClauses t mode b d) : ReadsAsClauses t mode b d := by
  obtain ⟨tokens, clauses, hsealed, hclauses, hconveys⟩ := hspells
  refine ⟨tokens, clauses, ⟨hsealed, ?_⟩, hclauses, hconveys⟩
  intro ident hident
  rw [(Builder.carries_render h).names] at hident
  rcases Builder.eq_table_or_column_of_mem_names hident with rfl | ⟨i, rfl⟩
  · exact plainTable
  · exact plain i

section

variable {t : Table type} {d : Draft}

/-- The draft of a SELECT statement reads as its clauses. -/
theorem Select.readsAsClauses {s : Select} (fields : 0 < type.fields.length)
    (plain : ∀ i, '`' ∉ (t.column i).toList)
    (plainTable : '`' ∉ (s.table.getD t.name).toList) (h : s.render t = .done d) :
    ReadsAsClauses t mode (.select s) d :=
  .of_spells plain plainTable h (s.spellsClauses (projection_ne_nil fields) h)

/-- The draft of an INSERT statement reads as its clauses. -/
theorem Insert.readsAsClauses {s : Insert type} (fields : 0 < type.fields.length)
    (plain : ∀ i, '`' ∉ (t.column i).toList)
    (plainTable : '`' ∉ (s.table.getD t.name).toList) (h : s.render t mode = .done d) :
    ReadsAsClauses t mode (.insert s) d := by
  have hnames : s.names ≠ [] := by
    obtain ⟨-, targets, htargets, -⟩ := render_eq_done h
    rw [← targets_eq_ok_iff.1 htargets]
    simpa using targets_ne_nil fields htargets
  exact .of_spells plain plainTable h (s.spellsClauses hnames h)

/-- The draft of an UPDATE statement reads as its clauses. -/
theorem Update.readsAsClauses {s : Update} (plain : ∀ i, '`' ∉ (t.column i).toList)
    (plainTable : '`' ∉ (s.table.getD t.name).toList) (h : s.render t = .done d) :
    ReadsAsClauses t mode (.update s) d :=
  .of_spells plain plainTable h (s.spellsClauses h)

/-- The draft of a DELETE statement reads as its clauses. -/
theorem Delete.readsAsClauses {s : Delete} (plain : ∀ i, '`' ∉ (t.column i).toList)
    (plainTable : '`' ∉ (s.table.getD t.name).toList) (h : s.render t = .done d) :
    ReadsAsClauses t mode (.delete s) d :=
  .of_spells plain plainTable h (s.spellsClauses h)

end

/-! ## All statements -/

namespace Builder

/-- A statement has as many places for arguments as arguments. Its text, read clause by clause with
the arguments put into their places from left to right, says what the statement was built from. So
it is in either mode of reading records. -/
theorem build_reads_back {t : Table type} {mode : DecodeMode} {b : Builder type} {stmt : Statement}
    (fields : 0 < type.fields.length) (plain : ∀ i, '\x60' ∉ (t.column i).toList)
    (plainTable : '\x60' ∉ (b.ownTable.getD t.name).toList) (h : b.build t mode = .ok stmt) :
    ∃ tokens bound clauses, tokens? stmt.sql.toList = some tokens
      ∧ tokens.count (.value ()) = stmt.args.length ∧ supply tokens stmt.args = some bound
      ∧ Clauses.read? bound = some clauses ∧ b.Conveys t mode clauses := by
  have hread : ∃ d, stmt = d.statement ∧ ReadsAsClauses t mode b d := by
    cases b with
    | select s =>
      obtain ⟨d, hd, hstmt⟩ := Rendering.statement_eq_ok_iff.1 h
      exact ⟨d, hstmt, s.readsAsClauses fields plain plainTable hd⟩
    | insert s =>
      obtain ⟨d, hd, hstmt⟩ := Rendering.statement_eq_ok_iff.1 h
      exact ⟨d, hstmt, s.readsAsClauses fields plain plainTable hd⟩
    | update s =>
      obtain ⟨d, hd, hstmt⟩ := Rendering.statement_eq_ok_iff.1 h
      exact ⟨d, hstmt, s.readsAsClauses plain plainTable hd⟩
    | delete s =>
      obtain ⟨d, hd, hstmt⟩ := Rendering.statement_eq_ok_iff.1 h
      exact ⟨d, hstmt, s.readsAsClauses plain plainTable hd⟩
  obtain ⟨d, rfl, tokens, clauses, hclosed, hclauses, hconveys⟩ := hread
  obtain ⟨htokens, hargs⟩ := hclosed.legible.read
  refine ⟨_, tokens, clauses, htokens, ?_, hargs, hclauses, hconveys⟩
  rw [count_vacate, ← hclosed.args]
  rfl

/-- Two assignments and two conditions, one of them nested, in another table. -/
theorem build_reads_back_note : ∃ stmt tokens bound clauses,
    (Builder.update ⟨some "notes", [("title", .null), ("id", .bool true)],
        [.compare .gt "id" (.bool false),
          .not (.or (.compare .eq "title" .null) (.compare .lt "weight" .null))]⟩ :
      Builder RecordType.note).build Table.note .offset = .ok stmt
      ∧ stmt.args = [.null, .bool true, .bool false, .null, .null]
      ∧ tokens? stmt.sql.toList = some tokens ∧ tokens.count (.value ()) = stmt.args.length
      ∧ supply tokens stmt.args = some bound ∧ Clauses.read? bound = some clauses
      ∧ (Builder.update ⟨some "notes", [("title", .null), ("id", .bool true)],
          [.compare .gt "id" (.bool false),
            .not (.or (.compare .eq "title" .null) (.compare .lt "weight" .null))]⟩ :
        Builder RecordType.note).Conveys Table.note .offset clauses := by
  obtain ⟨tokens, bound, clauses, h⟩ := build_reads_back
    (b := .update ⟨some "notes", [("title", .null), ("id", .bool true)],
      [.compare .gt "id" (.bool false),
        .not (.or (.compare .eq "title" .null) (.compare .lt "weight" .null))]⟩)
    (by decide) Table.note_plain (by decide) rfl
  exact ⟨_, tokens, bound, clauses, rfl, rfl, h⟩

end Builder

end RecordSql
