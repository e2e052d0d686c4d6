import RecordSql.Expr.Rendering
import RecordSql.Row.Decoding

/-!
# SELECT

Reads rows of a table: the columns to read, all of them when none is named, and the conditions
that the rows must meet.
-/

set_option autoImplicit false

namespace RecordSql

/-- A SELECT statement. -/
structure Select where
  /-- The name of the table, if it is not the one of the record type. -/
  table : Option String
  /-- The columns to read, in order. -/
  columns : List Expr
  /-- The conditions, all of which a row must meet. -/
  conditions : List Condition

/-- The name of a statement's table: the one it gives itself, and else that of the type. -/
def Table.nameFor {type : RecordType} (t : Table type) (own : Option String) : String :=
  own.getD t.name

namespace Select

/-- All columns of all rows. -/
def empty : Select := ⟨none, [], []⟩

/-- Reads another table. -/
def fromTable (s : Select) (name : String) : Select := { s with table := some name }

/-- Reads some more columns. -/
def project (s : Select) (columns : List Expr) : Select :=
  { s with columns := s.columns ++ columns }

/-- Reads the columns of some more fields. -/
def projectFields (s : Select) (names : List String) : Select :=
  s.project (names.map Expr.field)

/-- Adds conditions. -/
def filter (s : Select) (conditions : List Condition) : Select :=
  { s with conditions := s.conditions ++ conditions }

variable {type : RecordType}

/-- The columns to read: the ones that are named, or all in the order of the fields. -/
def renderColumns (t : Table type) (s : Select) : Rendering :=
  if s.columns.isEmpty then .separated ", " (t.infos.map fun info => .name info.column)
  else .separated ", " (s.columns.map fun e => e.renderProjection t)

/-- Renders the statement. -/
def render (t : Table type) (s : Select) : Rendering :=
  .sql "SELECT " ++ s.renderColumns t ++ .sql " FROM " ++ .name (t.nameFor s.table)
    ++ t.renderWhere s.conditions ++ .sql ";"

/-- The finished statement, or the first fault in it. No record is read, so the mode does not
matter. -/
def build (t : Table type) (_mode : DecodeMode) (s : Select) : Except Fault Statement :=
  (s.render t).statement

end Select

end RecordSql
