import RecordSql.Statement.Select
import RecordSql.Statement.Insert
import RecordSql.Statement.Update
import RecordSql.Statement.Delete
import RecordSql.Statement.Raw

/-!
# Queries and commands

Statements that answer with rows and statements that change them, each with its kind.
-/

set_option autoImplicit false

namespace RecordSql

/-- The kinds of statements. -/
inductive StatementKind where
  | select | insert | update | delete | raw
deriving DecidableEq

/-- The name of a kind as log events give it. -/
def StatementKind.label : StatementKind → String
  | .select => "Select"
  | .insert => "Insert"
  | .update => "Update"
  | .delete => "Delete"
  | .raw => "Raw"

/-- A statement that answers with rows. -/
inductive Query where
  /-- A SELECT statement. -/
  | select (s : Select)
  /-- A statement written by hand. -/
  | raw (s : Raw)

/-- A statement that changes rows of a record type. -/
inductive Command (type : RecordType) where
  /-- An INSERT statement. -/
  | insert (s : Insert type)
  /-- An UPDATE statement. -/
  | update (s : Update)
  /-- A DELETE statement. -/
  | delete (s : Delete)

variable {type : RecordType}

namespace Query

/-- The kind of a query. -/
def kind : Query → StatementKind
  | .select _ => .select
  | .raw _ => .raw

/-- The finished statement, or the first fault in it. -/
def build (t : Table type) (mode : DecodeMode) : Query → Except Fault Statement
  | .select s => s.build t mode
  | .raw s => s.build

end Query

namespace Command

/-- The kind of a command. -/
def kind : Command type → StatementKind
  | .insert _ => .insert
  | .update _ => .update
  | .delete _ => .delete

/-- The finished statement, or the first fault in it. -/
def build (t : Table type) (mode : DecodeMode) : Command type → Except Fault Statement
  | .insert s => s.build t mode
  | .update s => s.build t mode
  | .delete s => s.build t mode

end Command

end RecordSql
