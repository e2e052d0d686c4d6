import RecordSql.Expr.Compiler
import RecordSql.Statement.Kind

/-!
# Statements written by a compiler

A statement may be put together as it goes, by a compiler that is told of one piece after another:
the keywords, the names, every value in its place and the clause for the conditions. The first step
that fails ends the writing, and what was written before it is dropped.
-/

set_option autoImplicit false

namespace RecordSql

namespace Compiler

/-- Ends the statement. -/
def writeEnd : Step Unit := modify finish

/-- Goes on with a result, or fails as it does. -/
def ofResult {α : Type} : Except Fault α → Step α
  | .ok a => return a
  | .error fault => throw fault

/-- Takes steps one after the other, with a separator in front of each but the first. -/
def writeSeparated (separator : String) : List (Step Unit) → Step Unit
  | [] => return
  | step :: steps => do
    step
    forM steps fun next => do
      writeSql separator
      next

/-- What a step leaves on a fresh compiler, or the fault that it fails with. -/
def statement (step : Step Unit) : Except Fault Statement :=
  match step.run.run fresh with
  | (.ok (), held) => .ok held
  | (.error fault, _) => .error fault

end Compiler

open Compiler

variable {type : RecordType}

namespace Select

/-- Writes the columns to read. -/
def writeColumns (t : Table type) (s : Select) : Step Unit :=
  if s.columns.isEmpty then writeSeparated ", " (t.infos.map fun info => writeName info.column)
  else writeSeparated ", " (s.columns.map (writeProjection t))

/-- Writes the statement. -/
def write (t : Table type) (s : Select) : Step Unit := do
  writeSql "SELECT "
  s.writeColumns t
  writeSql " FROM "
  writeName (t.nameFor s.table)
  writeWhere t s.conditions
  writeEnd

end Select

namespace Insert

/-- Reads a field of a record as the mode says and binds what was read. -/
def writeValue (t : Table type) (mode : DecodeMode) (record : Record type) (i : type.Index) :
    Step Unit := do
  let value ← ofResult (t.readField mode record (type.field i).ident)
  writeBind value

/-- Writes the row of a record. -/
def writeRow (t : Table type) (mode : DecodeMode) (targets : List type.Index)
    (record : Record type) : Step Unit := do
  writeSql "("
  writeSeparated ", " (targets.map (writeValue t mode record))
  writeSql ")"

/-- Writes the statement for fields that were found to be in order. -/
def writeRows (t : Table type) (mode : DecodeMode) (s : Insert type)
    (targets : List type.Index) : Step Unit := do
  writeSql "INSERT INTO "
  writeName (t.nameFor s.table)
  writeSql " ("
  writeSeparated ", " (targets.map fun i => writeName (t.column i))
  writeSql ") VALUES "
  writeSeparated ", " (s.records.map (writeRow t mode targets))
  writeEnd

/-- Writes the statement if there is a record and the fields are in order. -/
def write (t : Table type) (mode : DecodeMode) (s : Insert type) : Step Unit :=
  if s.records.isEmpty then throw .emptyValues
  else do
    let targets ← ofResult (s.targets t)
    match firstRepeated? [] (targets.map t.column) with
    | some column => throw (.duplicateColumn column)
    | none => s.writeRows t mode targets

end Insert

namespace Update

/-- Writes one assignment. -/
def writeAssignment (t : Table type) (a : String × Value) : Step Unit := do
  writeField t a.1
  writeSql " = "
  writeBind a.2

/-- Writes the statement if there is an assignment. -/
def write (t : Table type) (s : Update) : Step Unit :=
  if s.assignments.isEmpty then throw .emptySet
  else do
    writeSql "UPDATE "
    writeName (t.nameFor s.table)
    writeSql " SET "
    writeSeparated ", " (s.assignments.map (writeAssignment t))
    writeWhere t s.conditions
    writeEnd

end Update

namespace Delete

/-- Writes the statement. -/
def write (t : Table type) (s : Delete) : Step Unit := do
  writeSql "DELETE FROM "
  writeName (t.nameFor s.table)
  writeWhere t s.conditions
  writeEnd

end Delete

end RecordSql
