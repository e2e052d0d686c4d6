import RecordSql.Proofs.Statement.Builder

/-!
# The text of a statement does not depend on its values

Two builders that are alike up to their values have the same text, or are refused for the same
reason. Values are blanked out in two places, in what a statement is built from and in what is
rendered, and rendering commutes with blanking: it looks at no value. So the blanked renderings of
two builders that are alike are equal, and a draft shows in its blanked form all of its text and the
number of its arguments.
-/

set_option autoImplicit false

namespace RecordSql

variable {type : RecordType}

/-! ## Renderings without their values -/

namespace Piece

/-- A piece with `NULL` in the place of its value. -/
def blank : Piece → Piece
  | .bind _ => .bind .null
  | piece => piece

/-- A text has no value. -/
@[simp]
theorem blank_sql (text : String) : (sql text).blank = .sql text := rfl

/-- A name has no value. -/
@[simp]
theorem blank_name (ident : String) : (name ident).blank = .name ident := rfl

/-- A value is blanked out. -/
@[simp]
theorem blank_bind (value : Value) : (bind value).blank = .bind .null := rfl

end Piece

namespace Draft

/-- A draft with `NULL` in the place of every value. -/
def blank (d : Draft) : Draft := d.map Piece.blank

/-- An empty draft has no value. -/
@[simp]
theorem blank_nil : blank [] = [] := rfl

/-- A draft is blanked out piece by piece. -/
@[simp]
theorem blank_cons (piece : Piece) (d : Draft) : blank (piece :: d) = piece.blank :: d.blank := rfl

/-- Two drafts are blanked out one behind the other. -/
theorem blank_append (a b : Draft) : blank (a ++ b) = a.blank ++ b.blank := List.map_append

/-- The text of a draft shows in its blanked form. -/
theorem chars_blank (d : Draft) : d.blank.chars = d.chars := by
  unfold blank chars
  rw [List.flatMap_map]
  apply List.flatMap_congr
  intro piece _
  cases piece <;> rfl

/-- So does the number of its arguments. -/
theorem length_args_blank (d : Draft) : d.blank.args.length = d.args.length := by
  have hplaces : d.blank.args = d.args.map fun _ => .null := by
    unfold blank args
    rw [List.filterMap_map, List.map_filterMap]
    apply List.filterMap_congr
    intro piece _
    cases piece <;> rfl
  rw [hplaces, List.length_map]

end Draft

namespace Rendering

/-- A rendering with `NULL` in the place of every value. What stopped it stays. -/
def blank (r : Rendering) : Rendering := ⟨r.draft.blank, r.fault⟩

/-- A rendering that was not stopped is its draft, blanked out. -/
@[simp]
theorem blank_done (d : Draft) : (done d).blank = done d.blank := rfl

/-- A rendering that was stopped at once has no value. -/
@[simp]
theorem blank_fail (fault : Fault) : (fail fault).blank = fail fault := rfl

/-- Two renderings are blanked out one behind the other. -/
@[simp]
theorem blank_append (a b : Rendering) : (a ++ b).blank = a.blank ++ b.blank := by
  obtain ⟨da, fa⟩ := a
  cases fa with
  | some fault => rfl
  | none =>
    show Rendering.mk (Draft.blank (da ++ b.draft)) b.fault = ⟨da.blank ++ b.draft.blank, b.fault⟩
    rw [Draft.blank_append]

/-- A rendering between parentheses is blanked out there. -/
@[simp]
theorem blank_grouped (inGroup : Bool) (r : Rendering) :
    (grouped inGroup r).blank = grouped inGroup r.blank := by
  cases inGroup with
  | false => rfl
  | true => simp [grouped]

/-- Renderings with separators between them are blanked out one by one. -/
@[simp]
theorem blank_separated (separator : String) (rs : List Rendering) :
    (separated separator rs).blank = separated separator (rs.map blank) := by
  cases rs with
  | nil => rfl
  | cons r rs =>
    rw [List.map_cons, separated, separated]
    -- What was joined so far is a rendering like the first one.
    induction rs generalizing r with
    | nil => rfl
    | cons next rs ih =>
      rw [List.map_cons, List.foldl_cons, List.foldl_cons, ih]
      simp

end Rendering

/-! ## Expressions without their values -/

namespace Expr

/-- An expression with `NULL` in the place of every literal. -/
def blank : Expr → Expr
  | .literal _ => .literal .null
  | .unary op right => .unary op right.blank
  | .binary op left right => .binary op left.blank right.blank
  | e => e

/-- An operation stays one without its values. -/
theorem isOperation_blank (e : Expr) : e.blank.isOperation = e.isOperation := by
  cases e <;> rfl

/-- A field has no value. -/
theorem blank_renderField (t : Table type) (name : String) :
    (t.renderField name).blank = t.renderField name := by
  unfold Table.renderField
  cases t.requireField name <;> rfl

/-- Rendering looks at no literal. -/
theorem blank_render (t : Table type) (e : Expr) (parent : Option Operator) :
    (e.render t parent).blank = e.blank.render t parent := by
  induction e generalizing parent with
  | field name => exact blank_renderField t name
  | literal value => rfl
  | aggregate function name =>
    cases function with
    | none => exact blank_renderField t name
    | some f =>
      unfold blank render
      cases t.requireField name with
      | error fault => rfl
      | ok i => simp
  | unary op right ih =>
    unfold blank render
    by_cases hop : op = .not
    · simp [hop, ih]
    · simp [hop]
  | binary op left right ihl ihr =>
    unfold blank render
    by_cases hop : op = .not
    · simp [hop]
    · simp [hop, ihl, ihr]

/-- Rendering a column of a projection looks at no literal. -/
theorem blank_renderProjection (t : Table type) (e : Expr) :
    (e.renderProjection t).blank = e.blank.renderProjection t := by
  cases e with
  | field name => exact (field name).blank_render t none
  | aggregate function name => exact (aggregate function name).blank_render t none
  | _ => rfl

end Expr

/-- A condition with `NULL` in the place of every literal. -/
def Condition.blank (c : Condition) : Condition :=
  ⟨c.expr.blank, by rw [Expr.isOperation_blank, c.isOperation]⟩

/-- Conditions are blanked out before or after they are joined. -/
theorem Condition.conjunction_blank (conditions : List Condition) :
    conjunction (conditions.map blank) = (conjunction conditions).map blank := by
  cases conditions with
  | nil => rfl
  | cons c cs =>
    rw [List.map_cons, conjunction, conjunction, Option.map_some]
    congr 1
    induction cs generalizing c with
    | nil => rfl
    | cons next cs ih =>
      rw [List.map_cons, List.foldl_cons, List.foldl_cons, ← ih]
      rfl

/-- Rendering conditions looks at no literal. -/
theorem Table.blank_renderWhere (t : Table type) (conditions : List Condition) :
    (t.renderWhere conditions).blank = t.renderWhere (conditions.map Condition.blank) := by
  unfold renderWhere
  rw [Condition.conjunction_blank]
  cases Condition.conjunction conditions with
  | none => rfl
  | some all => simp [Expr.compile, Expr.blank_render, Condition.blank]

/-! ## Statements without their values -/

namespace Select

/-- A SELECT statement with `NULL` in the place of every literal. -/
def blank (s : Select) : Select :=
  ⟨s.table, s.columns.map Expr.blank, s.conditions.map Condition.blank⟩

/-- Rendering the columns to read looks at no literal. -/
theorem blank_renderColumns (t : Table type) (s : Select) :
    (s.renderColumns t).blank = s.blank.renderColumns t := by
  unfold renderColumns blank
  cases s.columns with
  | nil => simp [Function.comp_def]
  | cons e es => simp [Function.comp_def, Expr.blank_renderProjection]

/-- Rendering a SELECT looks at no literal. -/
theorem blank_render (t : Table type) (s : Select) : (s.render t).blank = s.blank.render t := by
  unfold render
  simp [blank_renderColumns, Table.blank_renderWhere]
  rfl

end Select

namespace Insert

/-- An INSERT statement with a new record in the place of every record. -/
def blank (s : Insert type) : Insert type :=
  ⟨s.table, s.fields, s.records.map fun _ => Record.initial type⟩

/-- The rows of all records are alike up to their values. -/
theorem blank_renderRow (t : Table type) (mode : DecodeMode) (targets : List type.Index)
    (record other : Record type) :
    (renderRow t mode targets record).blank = (renderRow t mode targets other).blank := by
  simp [renderRow_eq, Function.comp_def]

/-- Nothing but the values depends on the records. -/
theorem blank_renderRows (t : Table type) (mode : DecodeMode) (s : Insert type)
    (targets : List type.Index) :
    (s.renderRows t mode targets).blank = (s.blank.renderRows t mode targets).blank := by
  have hrows : (s.records.map (renderRow t mode targets)).map Rendering.blank
      = (s.blank.records.map (renderRow t mode targets)).map Rendering.blank := by
    unfold blank
    rw [List.map_map, List.map_map, List.map_map]
    apply List.map_congr_left
    intro record _
    exact blank_renderRow t mode targets record (Record.initial type)
  unfold renderRows
  simp only [Rendering.blank_append, Rendering.blank_separated, hrows]
  rfl

/-- Nor do the checks. -/
theorem blank_render (t : Table type) (mode : DecodeMode) (s : Insert type) :
    (s.render t mode).blank = (s.blank.render t mode).blank := by
  have hrecords : s.blank.records.isEmpty = s.records.isEmpty := List.isEmpty_map
  have htargets : s.blank.targets t = s.targets t := rfl
  unfold render
  rw [hrecords, htargets]
  by_cases hnone : s.records.isEmpty
  · rw [if_pos hnone, if_pos hnone]
  · rw [if_neg hnone, if_neg hnone]
    cases s.targets t with
    | error fault => rfl
    | ok targets =>
      simp only
      cases firstRepeated? [] (targets.map t.column) with
      | some column => rfl
      | none => exact s.blank_renderRows t mode targets

end Insert

namespace Update

/-- An UPDATE statement with `NULL` in the place of every literal and every assigned value. -/
def blank (s : Update) : Update :=
  ⟨s.table, s.assignments.map fun a => (a.1, .null), s.conditions.map Condition.blank⟩

/-- Rendering an assignment does not look at its value. -/
theorem blank_renderAssignment (t : Table type) (a : String × Value) :
    (renderAssignment t a).blank = renderAssignment t (a.1, .null) := by
  unfold renderAssignment
  simp [Expr.blank_renderField]

/-- Rendering an UPDATE looks neither at its literals nor at the values it assigns. -/
theorem blank_render (t : Table type) (s : Update) : (s.render t).blank = s.blank.render t := by
  unfold render
  by_cases hnone : s.assignments.isEmpty
  · simp [hnone, blank]
  · simp [hnone, blank, Function.comp_def, blank_renderAssignment, Table.blank_renderWhere]

end Update

namespace Delete

/-- A DELETE statement with `NULL` in the place of every literal. -/
def blank (s : Delete) : Delete := ⟨s.table, s.conditions.map Condition.blank⟩

/-- Rendering a DELETE looks at no literal. -/
theorem blank_render (t : Table type) (s : Delete) : (s.render t).blank = s.blank.render t := by
  unfold render
  simp [blank, Table.blank_renderWhere]

end Delete

namespace Builder

/-- A builder without its values. -/
def blank : Builder type → Builder type
  | .select s => .select s.blank
  | .insert s => .insert s.blank
  | .update s => .update s.blank
  | .delete s => .delete s.blank

/-- Rendering looks at no value. -/
theorem blank_render (t : Table type) (mode : DecodeMode) (b : Builder type) :
    (b.render t mode).blank = match b.blank with
      | .insert s => (s.render t mode).blank
      | blanked => blanked.render t mode := by
  cases b with
  | select s => exact s.blank_render t
  | insert s => exact s.blank_render t mode
  | update s => exact s.blank_render t
  | delete s => exact s.blank_render t

end Builder

/-! ## Two runs -/

/-- What two runs on different values come to: statements with one text, each with its own values as
arguments, as many in one as in the other, or one fault. -/
inductive Agree (vs ws : List Value) : Except Fault Statement → Except Fault Statement → Prop where
  /-- Both are built. -/
  | built {stmt stmt' : Statement} (sql : stmt.sql = stmt'.sql) (args : stmt.args = vs)
    (args' : stmt'.args = ws) (length : vs.length = ws.length) : Agree vs ws (.ok stmt) (.ok stmt')
  /-- Both are refused. -/
  | refused (fault : Fault) : Agree vs ws (.error fault) (.error fault)

/-- Renderings that are alike up to their values agree. -/
theorem Rendering.agree_of_blank_eq {r r' : Rendering} {vs ws : List Value}
    (h : r.blank = r'.blank) (hvs : ∀ d, r = done d → d.args = vs)
    (hws : ∀ d, r' = done d → d.args = ws) : Agree vs ws r.statement r'.statement := by
  obtain ⟨d, fault⟩ := r
  obtain ⟨d', fault'⟩ := r'
  obtain ⟨hdraft, hfault⟩ := Rendering.mk.inj h
  simp only at hdraft hfault
  subst hfault
  cases fault with
  | some fault => exact .refused fault
  | none =>
    have hargs : d.args = vs := hvs d rfl
    have hargs' : d'.args = ws := hws d' rfl
    have hsql : d.sql = d'.sql := by
      unfold Draft.sql
      rw [← d.chars_blank, hdraft, d'.chars_blank]
    have hlength : vs.length = ws.length := by
      rw [← hargs, ← hargs', ← d.length_args_blank, hdraft, d'.length_args_blank]
    exact .built hsql hargs hargs' hlength

/-- The text of an expression or of a statement does not depend on its values, be they literals,
assigned or fields of records. What differs in nothing else is built into the same text with as many
arguments, each at the place of its value, or refused for the same reason. -/
theorem Table.statements_agree (t : Table type) (mode : DecodeMode) :
    (∀ e e' : Expr, e.blank = e'.blank →
        Agree e.literals e'.literals (e.compile t).statement (e'.compile t).statement)
      ∧ ∀ b b' : Builder type, b.blank = b'.blank →
        Agree b.values b'.values (b.build t mode) (b'.build t mode) := by
  constructor
  · intro e e' h
    apply Rendering.agree_of_blank_eq
    · rw [Expr.compile, Expr.compile, e.blank_render, e'.blank_render, h]
    · intro d hd
      exact (e.carries_render hd).args
    · intro d hd
      exact (e'.carries_render hd).args
  · intro b b' h
    rw [b.build_eq_statement, b'.build_eq_statement]
    apply Rendering.agree_of_blank_eq
    · rw [b.blank_render, b'.blank_render, h]
    · intro d hd
      exact (Builder.carries_render hd).args
    · intro d hd
      exact (Builder.carries_render hd).args

/-- A text with a quote, a back-tick and a question mark in the place of `NULL`. -/
theorem Table.statements_agree_note :
    Agree [.null] [.text "'\x60?"]
        ((Expr.binary .eq (.field "title") (.literal .null)).compile Table.note).statement
        ((Expr.binary .eq (.field "title") (.literal (.text "'\x60?"))).compile
          Table.note).statement
      ∧ Agree [.null, .bool true] [.text "'\x60?", .null]
        ((Builder.update ⟨none, [("title", .null)], [.compare .gt "id" (.bool true)]⟩ :
          Builder RecordType.note).build Table.note .offset)
        ((Builder.update ⟨none, [("title", .text "'\x60?")], [.compare .gt "id" .null]⟩ :
          Builder RecordType.note).build Table.note .offset) := by
  obtain ⟨hexpr, hbuilder⟩ := Table.note.statements_agree .offset
  constructor
  · exact hexpr (.binary .eq (.field "title") (.literal .null))
      (.binary .eq (.field "title") (.literal (.text "'\x60?"))) rfl
  · exact hbuilder (.update ⟨none, [("title", .null)], [.compare .gt "id" (.bool true)]⟩)
      (.update ⟨none, [("title", .text "'\x60?")], [.compare .gt "id" .null]⟩) rfl

end RecordSql
