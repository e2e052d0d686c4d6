import RecordSql.Expr.Compiler
import RecordSql.Proofs.Rendering
import RecordSql.Proofs.Schema.Table

/-!
# What a call on a compiler adds

A step of a compiler carries out a rendering (`Compiler.CarriesOut`): from whatever the compiler
holds, it adds the pieces of the rendering, up to the fault if there is one, and it ends as the
rendering does. The steps that write an expression carry out the rendering of the expression, by
induction over the tree, so what a call adds and how it ends do not depend on the calls before it.

A rendering, also one that was stopped, has as many placeholders as arguments
(`Statement.InStep`) if no name in it has a question mark. What a compiler holds is therefore in
step after any calls.
-/

set_option autoImplicit false

namespace RecordSql

/-! ## Statements one behind the other -/

namespace Statement

/-- A statement with the text and the arguments of another behind its own. -/
def append (a b : Statement) : Statement := ⟨a.sql ++ b.sql, a.args ++ b.args⟩

instance : Append Statement := ⟨append⟩

/-- What one statement has with another behind it. -/
theorem append_def (a b : Statement) : a ++ b = ⟨a.sql ++ b.sql, a.args ++ b.args⟩ := rfl

/-- Three statements one behind the other. -/
theorem append_assoc (a b c : Statement) : a ++ b ++ c = a ++ (b ++ c) := by
  simp [append_def, String.append_assoc]

/-- Nothing stands in front of a statement on a fresh compiler. -/
@[simp]
theorem fresh_append (s : Statement) : Compiler.fresh ++ s = s := by
  simp [append_def, Compiler.fresh]

/-- Nothing is added to a statement by a fresh compiler. -/
@[simp]
theorem append_fresh (s : Statement) : s ++ Compiler.fresh = s := by
  simp [append_def, Compiler.fresh]

/-- The number of question marks in the text of a statement. -/
def placeholders (s : Statement) : Nat := s.sql.toList.count '?'

/-- A statement has a question mark for every argument, and no others. -/
def InStep (s : Statement) : Prop := s.placeholders = s.args.length

/-- A fresh compiler is in step. -/
theorem inStep_fresh : Compiler.fresh.InStep := rfl

/-- Two statements in step are in step one behind the other. -/
theorem InStep.append {a b : Statement} (ha : a.InStep) (hb : b.InStep) : (a ++ b).InStep := by
  have hcount : (a ++ b).placeholders = a.placeholders + b.placeholders := by
    simp [placeholders, append_def]
  rw [InStep, hcount, ha, hb, append_def, List.length_append]

/-- Text without a question mark. -/
theorem inStep_of_not_mem {text : String} (h : '?' ∉ text.toList) : InStep ⟨text, []⟩ :=
  List.count_eq_zero_of_not_mem h

end Statement

namespace Draft

/-- The statement of two drafts is made of those of the two. -/
theorem statement_append (a b : Draft) : statement (a ++ b) = a.statement ++ b.statement := by
  have hboth : (Rendering.done a ++ Rendering.done b).statement
      = .ok ⟨a.sql ++ b.sql, a.args ++ b.args⟩ := Rendering.statement_append rfl rfl
  exact Except.ok.inj hboth

/-- The statement of a text is the text. -/
theorem statement_sql (text : String) : statement [.sql text] = ⟨text, []⟩ :=
  Except.ok.inj (Rendering.statement_sql text)

/-- The statement of a name is the name between back-ticks. -/
theorem statement_name (ident : String) : statement [.name ident] = ⟨inBackticks ident, []⟩ :=
  Except.ok.inj (Rendering.statement_name ident)

/-- The statement of a value is a placeholder with the value as its argument. -/
theorem statement_bind (value : Value) : statement [.bind value] = ⟨"?", [value]⟩ :=
  Except.ok.inj (Rendering.statement_bind value)

end Draft

namespace Rendering

/-- How a step ends. -/
def ending (r : Rendering) : Except Fault Unit :=
  match r.fault with
  | none => .ok ()
  | some fault => .error fault

end Rendering

/-! ## Steps that carry out renderings -/

namespace Compiler

/-- A step adds the pieces of a rendering to whatever a compiler holds, and ends as the rendering
does. -/
def CarriesOut (step : Step Unit) (r : Rendering) : Prop :=
  ∀ s : Statement, step.run.run s = (r.ending, s ++ r.draft.statement)

/-- A step that does nothing carries out the empty rendering. -/
theorem carriesOut_nothing : CarriesOut (pure ()) .empty := by
  intro s
  have hnothing : Draft.statement Rendering.empty.draft = fresh := rfl
  rw [hnothing, Statement.append_fresh]
  rfl

/-- A step that fails carries out the rendering that is stopped at once. -/
theorem carriesOut_throw (fault : Fault) : CarriesOut (throw fault) (.fail fault) := by
  intro s
  have hnothing : Draft.statement (Rendering.fail fault).draft = fresh := rfl
  rw [hnothing, Statement.append_fresh]
  rfl

/-- Writing a text carries out the rendering of the text. -/
theorem carriesOut_writeSql (text : String) : CarriesOut (writeSql text) (.sql text) := by
  intro s
  have htext : Draft.statement (Rendering.sql text).draft = ⟨text, []⟩ := Draft.statement_sql text
  rw [htext, Statement.append_def, List.append_nil]
  rfl

/-- Of two steps the second is reached only if the first does not fail. -/
theorem CarriesOut.append {first second : Step Unit} {a b : Rendering} (ha : CarriesOut first a)
    (hb : CarriesOut second b) : CarriesOut (first >>= fun _ => second) (a ++ b) := by
  intro s
  obtain ⟨da, fa⟩ := a
  obtain ⟨db, fb⟩ := b
  have hfirst := ha s
  cases fa with
  | some fault =>
    -- What the first step had added before the fault stays.
    simp only [ExceptT.run_bind, StateT.run_bind, hfirst]
    rfl
  | none =>
    have hsecond := hb (s ++ da.statement)
    simp only [ExceptT.run_bind, StateT.run_bind, hfirst]
    rw [Statement.append_assoc, ← Draft.statement_append] at hsecond
    exact hsecond

/-- Writing a name carries out the rendering of the name, in three pieces of text. -/
theorem carriesOut_writeName (ident : String) : CarriesOut (writeName ident) (.name ident) := by
  intro s
  have hwrite : CarriesOut (writeName ident) (.sql "\x60" ++ (.sql ident ++ .sql "\x60")) :=
    (carriesOut_writeSql _).append ((carriesOut_writeSql _).append (carriesOut_writeSql _))
  have hsql : Draft.sql [.sql "\x60", .sql ident, .sql "\x60"] = Draft.sql [.name ident] := by
    simp [Draft.sql, Draft.chars, Piece.chars]
  have htext : Draft.statement [.sql "\x60", .sql ident, .sql "\x60"]
      = Draft.statement [.name ident] := congrArg (Statement.mk · []) hsql
  exact (hwrite s).trans (congrArg (fun d => (_, s ++ d)) htext)

/-- Writing a placeholder and binding a value carries out the rendering of the value. -/
theorem carriesOut_writeBind (value : Value) : CarriesOut (writeBind value) (.bind value) := by
  intro s
  have hbind : Draft.statement (Rendering.bind value).draft = ⟨"?", [value]⟩ :=
    Draft.statement_bind value
  rw [hbind]
  rfl

/-- A step between parentheses carries out the grouped rendering. -/
theorem CarriesOut.grouped {inner : Step Unit} {r : Rendering} (h : CarriesOut inner r)
    (inGroup : Bool) : CarriesOut (writeGrouped inGroup inner) (.grouped inGroup r) := by
  cases inGroup with
  | false =>
    have hinner : writeGrouped false inner = inner := by simp [writeGrouped]
    rw [hinner]
    exact h
  | true =>
    have hwrite : CarriesOut (writeGrouped true inner) (.sql "(" ++ (r ++ .sql ")")) :=
      (carriesOut_writeSql _).append (h.append (carriesOut_writeSql _))
    rw [← Rendering.append_assoc] at hwrite
    exact hwrite

variable {type : RecordType}

/-- A step that goes on with the column of a field fails at once if there is no such field. -/
theorem carriesOut_columnOf (t : Table type) (name : String) {next : String → Step Unit}
    {found : type.Index → Rendering} (h : ∀ i, CarriesOut (next (t.column i)) (found i)) :
    CarriesOut (columnOf t name >>= next)
      (match t.requireField name with
        | .ok i => found i
        | .error fault => .fail fault) := by
  cases hfield : t.requireField name with
  | ok i =>
    have hcolumn : columnOf t name = pure (t.column i) := by rw [columnOf, hfield]
    rw [hcolumn, pure_bind]
    exact h i
  | error fault =>
    have hcolumn : columnOf t name = throw fault := by rw [columnOf, hfield]
    rw [hcolumn]
    exact carriesOut_throw fault

/-- Writing a field carries out the rendering of the field. -/
theorem carriesOut_writeField (t : Table type) (name : String) :
    CarriesOut (writeField t name) (t.renderField name) :=
  carriesOut_columnOf t name fun i => carriesOut_writeName (t.column i)

/-- The step that writes an expression carries out the rendering of the expression, under any
operator and also if the expression is ill-formed. -/
theorem carriesOut_writeOperand (t : Table type) (e : Expr) (parent : Option Operator) :
    CarriesOut (writeOperand t parent e) (e.render t parent) := by
  induction e generalizing parent with
  | field name => exact carriesOut_writeField t name
  | literal value => exact carriesOut_writeBind value
  | aggregate function name =>
    cases function with
    | none => exact carriesOut_writeField t name
    | some f =>
      refine carriesOut_columnOf t name fun i => ?_
      rw [Rendering.append_assoc, Rendering.append_assoc]
      exact (carriesOut_writeSql _).append ((carriesOut_writeSql _).append
        ((carriesOut_writeName _).append (carriesOut_writeSql _)))
  | unary op right ih =>
    rw [writeOperand, Expr.render]
    split
    case isTrue => exact ((carriesOut_writeSql _).append (ih _)).grouped _
    case isFalse => exact carriesOut_throw _
  | binary op left right ihl ihr =>
    rw [writeOperand, Expr.render]
    split
    case isTrue => exact carriesOut_throw _
    case isFalse =>
      rw [Rendering.append_assoc]
      exact ((ihl _).append ((carriesOut_writeSql _).append (ihr _))).grouped _

/-- Writing a column of a projection carries out its rendering. -/
theorem carriesOut_writeProjection (t : Table type) (e : Expr) :
    CarriesOut (writeProjection t e) (e.renderProjection t) := by
  cases e with
  | field _ | aggregate _ _ => exact carriesOut_writeOperand t _ none
  | literal _ | unary _ _ | binary _ _ _ => exact carriesOut_throw _

/-- Writing the clause for conditions carries out the rendering of the clause. -/
theorem carriesOut_writeWhere (t : Table type) (conditions : List Condition) :
    CarriesOut (writeWhere t conditions) (t.renderWhere conditions) := by
  rw [writeWhere, Table.renderWhere]
  cases Condition.conjunction conditions with
  | none => exact carriesOut_nothing
  | some all => exact (carriesOut_writeSql _).append (carriesOut_writeOperand t all.expr none)

/-- The rendering that a call carries out. -/
def Call.rendering (t : Table type) : Call → Rendering
  | .sql text => .sql text
  | .name ident => .name ident
  | .bind value => .bind value
  | .field fieldName => t.renderField fieldName
  | .expr e => e.compile t
  | .projection e => e.renderProjection t
  | .restriction conditions => t.renderWhere conditions

/-- A call adds its rendering to whatever the compiler holds. -/
theorem Call.perform_eq (t : Table type) (call : Call) (s : Statement) :
    call.perform t s = ((call.rendering t).ending, s ++ (call.rendering t).draft.statement) := by
  have hstep : CarriesOut (call.step t) (call.rendering t) := by
    cases call with
    | sql text => exact carriesOut_writeSql text
    | name ident => exact carriesOut_writeName ident
    | bind value => exact carriesOut_writeBind value
    | field fieldName => exact carriesOut_writeField t fieldName
    | expr e => exact carriesOut_writeOperand t e none
    | projection e => exact carriesOut_writeProjection t e
    | restriction conditions => exact carriesOut_writeWhere t conditions
  exact hstep s

/-- What a fresh compiler holds after a call is what the call adds. -/
theorem Call.perform_fresh (t : Table type) (call : Call) :
    call.perform t fresh = ((call.rendering t).ending, (call.rendering t).draft.statement) := by
  rw [perform_eq, Statement.fresh_append]

/-- A compiler goes on with what the first call leaves. -/
theorem after_cons (t : Table type) (s : Statement) (call : Call) (calls : List Call) :
    after t s (call :: calls) = after t (call.perform t s).2 calls := rfl

end Compiler

/-! ## Placeholders and arguments -/

namespace Rendering

/-- Two steps are in step if each of them is, also if the first was stopped. -/
theorem inStep_append {a b : Rendering} (ha : a.draft.statement.InStep)
    (hb : b.draft.statement.InStep) : (a ++ b).draft.statement.InStep := by
  obtain ⟨da, fa⟩ := a
  obtain ⟨db, fb⟩ := b
  cases fa with
  | some fault => exact ha
  | none =>
    have hboth : (da ++ db).statement.InStep := by
      rw [Draft.statement_append]
      exact ha.append hb
    exact hboth

/-- A text without a question mark is in step. -/
theorem inStep_sql {text : String} (h : '?' ∉ text.toList) : (sql text).draft.statement.InStep := by
  have htext : Draft.statement (sql text).draft = ⟨text, []⟩ := Draft.statement_sql text
  rw [htext]
  exact Statement.inStep_of_not_mem h

/-- A name without a question mark is in step. -/
theorem inStep_name {ident : String} (h : '?' ∉ ident.toList) :
    (name ident).draft.statement.InStep := by
  have htext : Draft.statement (name ident).draft = ⟨inBackticks ident, []⟩ :=
    Draft.statement_name ident
  rw [htext]
  refine Statement.inStep_of_not_mem ?_
  simp [inBackticks, h]

/-- A placeholder is in step with its value. -/
theorem inStep_bind (value : Value) : (bind value).draft.statement.InStep := by
  have hbind : Draft.statement (bind value).draft = ⟨"?", [value]⟩ := Draft.statement_bind value
  have hone : "?".toList.count '?' = 1 := by decide
  rw [hbind]
  exact hone

/-- A rendering that is stopped at once is in step. -/
theorem inStep_fail (fault : Fault) : (fail fault).draft.statement.InStep := rfl

/-- Parentheses keep a rendering in step. -/
theorem inStep_grouped {r : Rendering} (h : r.draft.statement.InStep) (inGroup : Bool) :
    (grouped inGroup r).draft.statement.InStep := by
  cases inGroup with
  | false => exact h
  | true =>
    exact inStep_append (inStep_append (inStep_sql (by decide)) h) (inStep_sql (by decide))

end Rendering

variable {type : RecordType}

/-- No column of a table has a question mark in its name. -/
def Table.Plain (t : Table type) : Prop := ∀ i, '?' ∉ (t.column i).toList

instance (t : Table type) : Decidable t.Plain :=
  inferInstanceAs (Decidable (∀ i, '?' ∉ (t.column i).toList))

namespace Table.Plain

variable {t : Table type}

/-- A step that goes on with the column of a field is in step if it is for every column. -/
theorem inStep_requireField {name : String} {found : type.Index → Rendering}
    (h : ∀ i, (found i).draft.statement.InStep) :
    (match t.requireField name with
      | .ok i => found i
      | .error fault => .fail fault).draft.statement.InStep := by
  cases t.requireField name with
  | ok i => exact h i
  | error fault => exact Rendering.inStep_fail fault

/-- The column of a field is in step. -/
theorem inStep_renderField (plain : t.Plain) (name : String) :
    (t.renderField name).draft.statement.InStep :=
  inStep_requireField fun i => Rendering.inStep_name (plain i)

/-- What was rendered of an expression is in step, wherever the rendering was stopped. -/
theorem inStep_render (plain : t.Plain) (e : Expr) (parent : Option Operator) :
    (e.render t parent).draft.statement.InStep := by
  have hsql (op : Operator) : '?' ∉ op.sql.toList := by cases op <;> decide
  induction e generalizing parent with
  | field name => exact plain.inStep_renderField name
  | literal value => exact Rendering.inStep_bind value
  | aggregate function name =>
    cases function with
    | none => exact plain.inStep_renderField name
    | some f =>
      have hfunction : '?' ∉ f.sql.toList := by cases f <;> decide
      refine inStep_requireField fun i => ?_
      exact Rendering.inStep_append (Rendering.inStep_append (Rendering.inStep_append
        (Rendering.inStep_sql hfunction) (Rendering.inStep_sql (by decide)))
        (Rendering.inStep_name (plain i))) (Rendering.inStep_sql (by decide))
  | unary op right ih =>
    rw [Expr.render]
    split
    case isTrue =>
      exact Rendering.inStep_grouped
        (Rendering.inStep_append (Rendering.inStep_sql (hsql op)) (ih _)) _
    case isFalse => exact Rendering.inStep_fail _
  | binary op left right ihl ihr =>
    rw [Expr.render]
    split
    case isTrue => exact Rendering.inStep_fail _
    case isFalse =>
      exact Rendering.inStep_grouped (Rendering.inStep_append
        (Rendering.inStep_append (ihl _) (Rendering.inStep_sql (hsql op))) (ihr _)) _

/-- A column of a projection is in step. -/
theorem inStep_renderProjection (plain : t.Plain) (e : Expr) :
    (e.renderProjection t).draft.statement.InStep := by
  cases e with
  | field _ | aggregate _ _ => exact plain.inStep_render _ none
  | literal _ | unary _ _ | binary _ _ _ => exact Rendering.inStep_fail _

/-- The clause for conditions is in step. -/
theorem inStep_renderWhere (plain : t.Plain) (conditions : List Condition) :
    (t.renderWhere conditions).draft.statement.InStep := by
  rw [renderWhere]
  cases Condition.conjunction conditions with
  | none => rfl
  | some all =>
    exact Rendering.inStep_append (Rendering.inStep_sql (by decide)) (plain.inStep_render _ none)

end Table.Plain

namespace Compiler

/-- The text or the name that a call is given has no question mark. -/
def Call.Plain : Call → Prop
  | .sql text | .name text => '?' ∉ text.toList
  | .bind _ | .field _ | .expr _ | .projection _ | .restriction _ => True

/-- What a call adds is in step, also if the call fails. -/
theorem Call.inStep_rendering {t : Table type} (plain : t.Plain) {call : Call} (h : call.Plain) :
    (call.rendering t).draft.statement.InStep := by
  cases call with
  | sql text => exact Rendering.inStep_sql h
  | name ident => exact Rendering.inStep_name h
  | bind value => exact Rendering.inStep_bind value
  | field fieldName => exact plain.inStep_renderField fieldName
  | expr e => exact plain.inStep_render e none
  | projection e => exact plain.inStep_renderProjection e
  | restriction conditions => exact plain.inStep_renderWhere conditions

/-- One call after another keeps what the compiler holds in step. -/
theorem inStep_after {t : Table type} (plain : t.Plain) {calls : List Call}
    (h : ∀ call ∈ calls, call.Plain) {s : Statement} (hs : s.InStep) :
    (after t s calls).InStep := by
  induction calls generalizing s with
  | nil => exact hs
  | cons call calls ih =>
    rw [after_cons]
    refine ih (fun next hnext => h next (List.mem_cons_of_mem _ hnext)) ?_
    rw [Call.perform_eq]
    exact hs.append (Call.inStep_rendering plain (h call List.mem_cons_self))

/-- Calls add the same to whatever a compiler holds. -/
theorem after_eq_append (t : Table type) (s : Statement) (calls : List Call) :
    after t s calls = s ++ after t fresh calls := by
  induction calls generalizing s with
  | nil => exact (Statement.append_fresh s).symm
  | cons call calls ih =>
    rw [after_cons, after_cons, ih (call.perform t s).2, ih (call.perform t fresh).2,
      Call.perform_eq, Call.perform_fresh, Statement.append_assoc]

/-- A call, whether it ends well or fails, adds a text and arguments to those that the compiler
holds. What it adds and how it ends are the same as for a fresh compiler, and so it is for several
calls. If neither the columns nor the texts and names given to the calls have a question mark, what
a call adds has as many placeholders as arguments, and after any calls so has what the compiler
holds. -/
theorem calls_append_in_step (t : Table type) :
    (∀ (call : Call) (s : Statement), ∃ (ending : Except Fault Unit) (text : String)
        (args : List Value),
      call.perform t fresh = (ending, ⟨text, args⟩)
        ∧ call.perform t s = (ending, ⟨s.sql ++ text, s.args ++ args⟩)
        ∧ (t.Plain → call.Plain → text.toList.count '?' = args.length))
      ∧ (∀ (calls : List Call) (s : Statement),
        (after t s calls).sql = s.sql ++ (after t fresh calls).sql
          ∧ (after t s calls).args = s.args ++ (after t fresh calls).args)
      ∧ (t.Plain → ∀ calls : List Call, (∀ call ∈ calls, call.Plain) →
        (after t fresh calls).sql.toList.count '?' = (after t fresh calls).args.length) := by
  refine ⟨?call, ?calls, ?script⟩
  case call =>
    intro call s
    refine ⟨(call.rendering t).ending, (call.rendering t).draft.sql,
      (call.rendering t).draft.args, call.perform_fresh t, call.perform_eq t s, ?_⟩
    exact fun plain hcall => Call.inStep_rendering plain hcall
  case calls =>
    intro calls s
    rw [after_eq_append t s calls]
    exact ⟨rfl, rfl⟩
  case script =>
    exact fun plain calls hcalls => inStep_after plain hcalls Statement.inStep_fresh

/-- A condition whose right side names no field stops in the middle, and another call goes on behind
what it left. -/
theorem calls_append_in_step_note :
    let stopped := Call.expr (.binary .and (.binary .gt (.field "weight") (.literal .null))
      (.binary .eq (.literal .null) (.field "author")))
    let calls : List Call := [.sql "SELECT ", .projection (.aggregate (some .max) "title"),
      stopped, .bind (.text "draft")]
    stopped.perform Table.note ⟨"SELECT ", []⟩
        = (.error (.unknownField "author"),
          ⟨"SELECT (\x60weight\x60 > ?) AND (? = ", [.null, .null]⟩)
      ∧ Table.note.Plain ∧ (∀ call ∈ calls, call.Plain)
      ∧ after Table.note fresh calls
        = ⟨"SELECT MAX(\x60heading\x60)(\x60weight\x60 > ?) AND (? = ?",
            [.null, .null, .text "draft"]⟩
      ∧ (after Table.note fresh calls).sql.toList.count '?'
        = (after Table.note fresh calls).args.length := by
  intro stopped calls
  have hplain : Table.note.Plain := by decide
  have hcalls : ∀ call ∈ calls, call.Plain := by
    intro call hcall
    simp only [calls, List.mem_cons, List.not_mem_nil, or_false] at hcall
    rcases hcall with rfl | rfl | rfl | rfl
    · show '?' ∉ "SELECT ".toList
      decide
    · trivial
    · trivial
    · trivial
  obtain ⟨-, -, hscript⟩ := calls_append_in_step Table.note
  exact ⟨rfl, hplain, hcalls, rfl, hscript hplain calls hcalls⟩

end Compiler

end RecordSql
