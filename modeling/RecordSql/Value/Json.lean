import RecordSql.Value.Basic
import RecordSql.Json.Text
import RecordSql.Sql.Draft

/-!
# Values as JSON

The JSON text in which a value is handed on: NULL as `null`, bytes as a list of numbers, days and
points in time, identifiers and decimals as strings. A statement is handed on as its text and its
arguments.
-/

set_option autoImplicit false

namespace RecordSql

namespace Value

/-- The JSON value that stands for a value. -/
def toJson : Value → Json
  | .null => .null
  | .bool b => .bool b
  | .int n => .integer n.val
  | .uint n => .integer n.val
  | .float x => .float x
  | .text s => .string s
  | .bytes b => .array (b.map fun byte => .integer byte.toNat)
  | .date d => .string d.render
  | .timestamp t => .string t.render
  | .timestamptz t => .string t.renderUtc
  | .uuid u => .string u.render
  | .json j => j
  | .decimal d => .string d.render

end Value

/-- The JSON text of a statement: its text first, its arguments after it. -/
def Statement.renderJson (s : Statement) : String :=
  "\x7b\"sql\":" ++ Json.quote s.sql ++ ",\"args\":"
    ++ Json.bracketed (s.args.map fun v => v.toJson.render) ++ "\x7d"

end RecordSql
