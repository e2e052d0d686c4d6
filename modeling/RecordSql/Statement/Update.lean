import RecordSql.Statement.Select

/-!
# UPDATE

Changes rows of a table: the fields to change with their new values, and the conditions that the
rows must meet. A field that is set again keeps its place and takes the new value.
-/

set_option autoImplicit false

namespace RecordSql

/-- An UPDATE statement. -/
structure Update where
  /-- The name of the table, if it is not the one of the record type. -/
  table : Option String
  /-- The fields to change with their new values, in the order in which they were first set. -/
  assignments : List (String × Value)
  /-- The conditions, all of which a row must meet. -/
  conditions : List Condition

namespace Update

/-- No changes yet, and all rows. -/
def empty : Update := ⟨none, [], []⟩

/-- Changes another table. -/
def ofTable (s : Update) (name : String) : Update := { s with table := some name }

/-- Puts a value in the place of an assignment to the same field, or behind all others. -/
def assign (field : String) (value : Value) : List (String × Value) → List (String × Value)
  | [] => [(field, value)]
  | (other, held) :: rest =>
    if other = field then (field, value) :: rest else (other, held) :: assign field value rest

/-- Sets a field. -/
def set (s : Update) (field : String) (value : Value) : Update :=
  { s with assignments := assign field value s.assignments }

/-- Adds conditions. -/
def filter (s : Update) (conditions : List Condition) : Update :=
  { s with conditions := s.conditions ++ conditions }

variable {type : RecordType}

/-- Renders one assignment. -/
def renderAssignment (t : Table type) (a : String × Value) : Rendering :=
  t.renderField a.1 ++ .sql " = " ++ .bind a.2

/-- Renders the statement. There must be an assignment. -/
def render (t : Table type) (s : Update) : Rendering :=
  if s.assignments.isEmpty then .fail .emptySet
  else
    .sql "UPDATE " ++ .name (t.nameFor s.table) ++ .sql " SET "
      ++ .separated ", " (s.assignments.map (renderAssignment t))
      ++ t.renderWhere s.conditions ++ .sql ";"

/-- The finished statement, or the first fault in it. No record is read, so the mode does not
matter. -/
def build (t : Table type) (_mode : DecodeMode) (s : Update) : Except Fault Statement :=
  (s.render t).statement

end Update

end RecordSql
