import RecordSql.Statement.Select

/-!
# INSERT

Writes records into a table: the fields to write, all of them when none is named, and the
records, one row each.
-/

set_option autoImplicit false

namespace RecordSql

/-- An INSERT statement for records of a type. -/
structure Insert (type : RecordType) where
  /-- The name of the table, if it is not the one of the record type. -/
  table : Option String
  /-- The names of the fields to write, in order. -/
  fields : List String
  /-- The records to write, in order. -/
  records : List (Record type)

namespace Insert

variable {type : RecordType}

/-- No records yet, and all fields. -/
def empty (type : RecordType) : Insert type := ⟨none, [], []⟩

/-- Writes into another table. -/
def intoTable (s : Insert type) (name : String) : Insert type := { s with table := some name }

/-- Writes some more fields. -/
def onlyFields (s : Insert type) (names : List String) : Insert type :=
  { s with fields := s.fields ++ names }

/-- Writes some more records. -/
def values (s : Insert type) (records : List (Record type)) : Insert type :=
  { s with records := s.records ++ records }

/-- Writes one more record. -/
def value (s : Insert type) (record : Record type) : Insert type := s.values [record]

/-- The first name of a list that already stands before it in the list or among `seen`. -/
def firstRepeated? (seen : List String) : List String → Option String
  | [] => none
  | name :: names => if name ∈ seen then some name else firstRepeated? (name :: seen) names

/-- The fields to write: the ones that are named, or all. -/
def targets (t : Table type) (s : Insert type) : Except Fault (List type.Index) :=
  if s.fields.isEmpty then .ok (t.infos.map ColumnInfo.field) else s.fields.mapM t.requireField

/-- Renders a field of a record, which is looked up again by its name and read as the mode says. -/
def renderValue (t : Table type) (mode : DecodeMode) (record : Record type) (i : type.Index) :
    Rendering :=
  match t.readField mode record (type.field i).ident with
  | .ok value => .bind value
  | .error fault => .fail fault

/-- Renders the row of a record. -/
def renderRow (t : Table type) (mode : DecodeMode) (targets : List type.Index)
    (record : Record type) : Rendering :=
  .sql "(" ++ .separated ", " (targets.map (renderValue t mode record)) ++ .sql ")"

/-- Renders the statement for fields that were found to be in order. -/
def renderRows (t : Table type) (mode : DecodeMode) (s : Insert type)
    (targets : List type.Index) : Rendering :=
  .sql "INSERT INTO " ++ .name (t.nameFor s.table) ++ .sql " ("
    ++ .separated ", " (targets.map fun i => .name (t.column i)) ++ .sql ") VALUES "
    ++ .separated ", " (s.records.map (renderRow t mode targets)) ++ .sql ";"

/-- Renders the statement. There must be a record, then every field that is named must exist, and
then none may be named twice. -/
def render (t : Table type) (mode : DecodeMode) (s : Insert type) : Rendering :=
  if s.records.isEmpty then .fail .emptyValues
  else match s.targets t with
    | .error fault => .fail fault
    | .ok targets =>
      match firstRepeated? [] (targets.map t.column) with
      | some column => .fail (.duplicateColumn column)
      | none => s.renderRows t mode targets

/-- The finished statement, or the first fault in it. The fields of the records are read as the
mode says. -/
def build (t : Table type) (mode : DecodeMode) (s : Insert type) : Except Fault Statement :=
  (s.render t mode).statement

end Insert

end RecordSql
