import RecordSql.Inspect.Value
import RecordSql.Session.Pool

/-!
# Inspection of statements, tables and sessions

How statements under construction, tables, catalogs, settings and sessions show themselves.
-/

set_option autoImplicit false

namespace RecordSql

/-- How the name that a statement gives its table shows itself. -/
def inspectTableName (table : Option String) : String × Inspection :=
  ("table", .option .quoted table)

/-- How the conditions of a statement show themselves. -/
def inspectConditions (conditions : List Condition) : String × Inspection :=
  ("conditions", .list (conditions.map Condition.inspect))

/-- How a SELECT statement shows itself. -/
def Select.inspect (s : Select) : Inspection :=
  .struct "Select" [inspectTableName s.table, ("columns", .list (s.columns.map Expr.inspect)),
    inspectConditions s.conditions] true

/-- How an UPDATE statement shows itself. -/
def Update.inspect (s : Update) : Inspection :=
  .struct "Update" [inspectTableName s.table,
    ("assignments",
      .list (s.assignments.map fun (field, value) => .call "" [.quoted field, value.inspect])),
    inspectConditions s.conditions] true

/-- How a DELETE statement shows itself. -/
def Delete.inspect (s : Delete) : Inspection :=
  .struct "Delete" [inspectTableName s.table, inspectConditions s.conditions] true

/-- How a statement written by hand shows itself. -/
def Raw.inspect (s : Raw) : Inspection :=
  .struct "Raw" [("sql", .quoted s.sql), ("args", .list (s.args.map Value.inspect))] true

namespace Table

variable {type : RecordType}

/-- How the column of a field shows itself. No field has a place in memory here, so none is
shown. -/
def inspectColumn (t : Table type) (i : type.Index) : Inspection :=
  .struct "ColumnInfo" [("field", .quoted (type.field i).ident), ("column", .quoted (t.column i)),
    ("value_type", .atom (type.field i).type.kind.label),
    ("nullable", .bool (type.field i).type.nullable), ("byte_offset", .atom "None")] true

/-- How a table shows itself. -/
def inspect (t : Table type) : Inspection :=
  .struct "TableDescriptor" [("table_name", .quoted t.name),
    ("fields", .list (type.indices.map t.inspectColumn))] true

end Table

/-- How a catalog shows itself. -/
def Catalog.inspect {κ : Type} {ε : κ → Type} [DecidableEq κ] (c : Catalog κ ε) : Inspection :=
  .struct "Registry" [("models", .int c.size)] true

/-- How settings show themselves. -/
def Settings.inspect (s : Settings) : Inspection :=
  .struct "DbConfig" [("decoder", .atom s.mode.label),
    ("query_timeout", .option (fun d => .atom d.render) s.timeout),
    ("slow_query_threshold", .option (fun d => .atom d.render) s.slowThreshold),
    ("log_sql", .bool s.logsStatements),
    ("max_sql_length", .option (fun n => .int n) s.maxSqlLength)] true

/-- How a session shows itself; its back end is left out. -/
def Session.inspect {κ : Type} [DecidableEq κ] {types : κ → RecordType} (s : Session types) :
    Inspection :=
  .struct "Db" [("registry", s.catalog.inspect), ("config", s.settings.inspect)] false

end RecordSql
