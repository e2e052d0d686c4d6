import RecordSql.Proofs.Expr.Compiler
import RecordSql.Proofs.Statement.Builder
import RecordSql.Statement.Writing

/-!
# What is written is what is built

A statement that a compiler was told of piece by piece is the one that its builder is built to. Each
step of the writing carries out its part of the rendering (`Compiler.CarriesOut`), the steps for a
list carry out the items with their separators, and a check that fails, like a field that cannot be
read, ends both in the same way. What the compiler then holds is the statement of the rendering.
-/

set_option autoImplicit false

namespace RecordSql

open Compiler

namespace Compiler

/-- A step that ends well leaves the statement of the rendering that it carries out on a fresh
compiler, and one that fails has the fault of the rendering. -/
theorem CarriesOut.statement_eq {step : Step Unit} {r : Rendering} (h : CarriesOut step r) :
    statement step = r.statement := by
  have hfresh := h fresh
  rw [Statement.fresh_append] at hfresh
  rw [statement, hfresh, Rendering.statement, Rendering.ending]
  cases r.fault <;> rfl

/-- The end of a statement is its semicolon. -/
theorem carriesOut_writeEnd : CarriesOut writeEnd (.sql ";") :=
  carriesOut_writeSql ";"

/-- A step that goes on with a result carries out a rendering that does so too. -/
theorem carriesOut_ofResult {α : Type} {result : Except Fault α} {next : α → Step Unit}
    {r : Rendering} (hok : ∀ a, result = .ok a → CarriesOut (next a) r)
    (herror : ∀ fault, result = .error fault → r = .fail fault) :
    CarriesOut (ofResult result >>= next) r := by
  cases result with
  | ok a =>
    rw [ofResult, pure_bind]
    exact hok a rfl
  | error fault =>
    rw [herror fault rfl]
    exact carriesOut_throw fault

/-- Two steps with a separator between them are a first step for those that follow. -/
theorem writeSeparated_cons_cons (separator : String) (step next : Step Unit)
    (steps : List (Step Unit)) :
    writeSeparated separator (step :: next :: steps)
      = writeSeparated separator
        ((step >>= fun _ => writeSql separator >>= fun _ => next) :: steps) := by
  simp only [writeSeparated, List.forM_cons, bind_assoc]

/-- Steps with separators between them carry out their renderings with these separators. -/
theorem carriesOut_writeSeparated {α : Type} (separator : String) {write : α → Step Unit}
    {render : α → Rendering} (h : ∀ a, CarriesOut (write a) (render a)) (items : List α) :
    CarriesOut (writeSeparated separator (items.map write))
      (.separated separator (items.map render)) := by
  cases items with
  | nil => exact carriesOut_nothing
  | cons a items =>
    -- What was written so far is a step like the first one, and so is its rendering.
    have hstart (step : Step Unit) (r : Rendering) (hstep : CarriesOut step r) :
        CarriesOut (writeSeparated separator (step :: items.map write))
          (.separated separator (r :: items.map render)) := by
      induction items generalizing step r with
      | nil =>
        have hlast : writeSeparated separator [step] = step := by
          simp [writeSeparated]
        rw [List.map_nil, hlast]
        exact hstep
      | cons next items ih =>
        rw [List.map_cons, writeSeparated_cons_cons]
        apply ih _ (r ++ .sql separator ++ render next)
        rw [Rendering.append_assoc]
        exact hstep.append ((carriesOut_writeSql separator).append (h next))
    exact hstart (write a) (render a) (h a)

end Compiler

variable {type : RecordType}

/-! ## The four kinds -/

/-- The writing of a SELECT carries out its rendering. -/
theorem Select.carriesOut_write (t : Table type) (s : Select) :
    CarriesOut (s.write t) (s.render t) := by
  have hall := carriesOut_writeSeparated ", "
    (fun info : ColumnInfo type => carriesOut_writeName info.column) t.infos
  have hnamed := carriesOut_writeSeparated ", " (carriesOut_writeProjection t) s.columns
  have hcolumns : CarriesOut (s.writeColumns t) (s.renderColumns t) := by
    unfold writeColumns renderColumns
    split
    · exact hall
    · exact hnamed
  have hsource := carriesOut_writeName (t.nameFor s.table)
  have hend := (carriesOut_writeWhere t s.conditions).append carriesOut_writeEnd
  unfold write render
  simp only [Rendering.append_assoc]
  exact (carriesOut_writeSql _).append
    (hcolumns.append ((carriesOut_writeSql _).append (hsource.append hend)))

namespace Insert

/-- Reading a field and binding its value carries out the rendering of the value. -/
theorem carriesOut_writeValue (t : Table type) (mode : DecodeMode) (record : Record type)
    (i : type.Index) : CarriesOut (writeValue t mode record i) (renderValue t mode record i) := by
  unfold writeValue renderValue
  apply carriesOut_ofResult
  · intro value hvalue
    rw [hvalue]
    exact carriesOut_writeBind value
  · intro fault hfault
    rw [hfault]

/-- The writing of a row carries out its rendering. -/
theorem carriesOut_writeRow (t : Table type) (mode : DecodeMode) (targets : List type.Index)
    (record : Record type) :
    CarriesOut (writeRow t mode targets record) (renderRow t mode targets record) := by
  have hvalues := carriesOut_writeSeparated ", " (carriesOut_writeValue t mode record) targets
  unfold writeRow renderRow
  rw [Rendering.append_assoc]
  exact (carriesOut_writeSql _).append (hvalues.append (carriesOut_writeSql _))

/-- The writing of an INSERT carries out its rendering. -/
theorem carriesOut_write (t : Table type) (mode : DecodeMode) (s : Insert type) :
    CarriesOut (s.write t mode) (s.render t mode) := by
  have hwritten (targets : List type.Index) :
      CarriesOut (s.writeRows t mode targets) (s.renderRows t mode targets) := by
    have hcolumns :=
      carriesOut_writeSeparated ", " (fun i => carriesOut_writeName (t.column i)) targets
    have hrows := carriesOut_writeSeparated ", " (carriesOut_writeRow t mode targets) s.records
    have hend := (carriesOut_writeSql ") VALUES ").append (hrows.append carriesOut_writeEnd)
    unfold writeRows renderRows
    simp only [Rendering.append_assoc]
    exact (carriesOut_writeSql _).append ((carriesOut_writeName _).append
      ((carriesOut_writeSql _).append (hcolumns.append hend)))
  unfold write render
  split
  · exact carriesOut_throw _
  · apply carriesOut_ofResult
    · intro targets htargets
      rw [htargets]
      dsimp only
      cases firstRepeated? [] (targets.map t.column) with
      | some column => exact carriesOut_throw _
      | none => exact hwritten targets
    · intro fault hfault
      rw [hfault]

end Insert

/-- The writing of an UPDATE carries out its rendering. -/
theorem Update.carriesOut_write (t : Table type) (s : Update) :
    CarriesOut (s.write t) (s.render t) := by
  have hassignment (a : String × Value) :
      CarriesOut (writeAssignment t a) (renderAssignment t a) := by
    unfold writeAssignment renderAssignment
    rw [Rendering.append_assoc]
    exact (carriesOut_writeField t a.1).append
      ((carriesOut_writeSql _).append (carriesOut_writeBind a.2))
  have hset := carriesOut_writeSeparated ", " hassignment s.assignments
  have hend := (carriesOut_writeWhere t s.conditions).append carriesOut_writeEnd
  unfold write render
  split
  · exact carriesOut_throw _
  · simp only [Rendering.append_assoc]
    exact (carriesOut_writeSql _).append ((carriesOut_writeName _).append
      ((carriesOut_writeSql _).append (hset.append hend)))

/-- The writing of a DELETE carries out its rendering. -/
theorem Delete.carriesOut_write (t : Table type) (s : Delete) :
    CarriesOut (s.write t) (s.render t) := by
  have hend := (carriesOut_writeWhere t s.conditions).append carriesOut_writeEnd
  unfold write render
  simp only [Rendering.append_assoc]
  exact (carriesOut_writeSql _).append ((carriesOut_writeName _).append hend)

/-! ## Statements -/

namespace Builder

/-- Writes the statement. -/
def write (t : Table type) (mode : DecodeMode) : Builder type → Step Unit
  | .select s => s.write t
  | .insert s => s.write t mode
  | .update s => s.write t
  | .delete s => s.write t

/-- The writing of a statement carries out its rendering. -/
theorem carriesOut_write (t : Table type) (mode : DecodeMode) (b : Builder type) :
    CarriesOut (b.write t mode) (b.render t mode) := by
  cases b with
  | select s => exact s.carriesOut_write t
  | insert s => exact s.carriesOut_write t mode
  | update s => exact s.carriesOut_write t
  | delete s => exact s.carriesOut_write t

/-- What a builder is built to is what its writing leaves on a fresh compiler, in either mode of
reading records, and it fails with the fault of the step that fails. -/
theorem statement_write (t : Table type) (mode : DecodeMode) (b : Builder type) :
    statement (b.write t mode) = b.build t mode := by
  rw [(b.carriesOut_write t mode).statement_eq, build_eq_statement]

end Builder

/-- What an expression compiles to is what its writing leaves on a fresh compiler. -/
theorem Expr.statement_writeExpr (t : Table type) (e : Expr) :
    statement (writeExpr t e) = (e.compile t).statement :=
  (carriesOut_writeOperand t e none).statement_eq

end RecordSql
