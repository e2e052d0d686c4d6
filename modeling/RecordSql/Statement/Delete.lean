import RecordSql.Statement.Select

/-!
# DELETE

Removes the rows of a table that meet all conditions; without conditions, all rows.
-/

set_option autoImplicit false

namespace RecordSql

/-- A DELETE statement. -/
structure Delete where
  /-- The name of the table, if it is not the one of the record type. -/
  table : Option String
  /-- The conditions, all of which a row must meet. -/
  conditions : List Condition

namespace Delete

/-- All rows. -/
def empty : Delete := ⟨none, []⟩

/-- Removes from another table. -/
def fromTable (s : Delete) (name : String) : Delete := { s with table := some name }

/-- Adds conditions. -/
def filter (s : Delete) (conditions : List Condition) : Delete :=
  { s with conditions := s.conditions ++ conditions }

variable {type : RecordType}

/-- Renders the statement. -/
def render (t : Table type) (s : Delete) : Rendering :=
  .sql "DELETE FROM " ++ .name (t.nameFor s.table) ++ t.renderWhere s.conditions ++ .sql ";"

/-- The finished statement, or the first fault in it. No record is read, so the mode does not
matter. -/
def build (t : Table type) (_mode : DecodeMode) (s : Delete) : Except Fault Statement :=
  (s.render t).statement

end Delete

end RecordSql
