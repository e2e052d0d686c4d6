import RecordSql.Sql.Draft

/-!
# Statements written by hand

A text that the caller wrote, with its arguments, passed on untouched.
-/

set_option autoImplicit false

namespace RecordSql

/-- A statement written by hand. -/
structure Raw where
  /-- The text. -/
  sql : String
  /-- The arguments. -/
  args : List Value

namespace Raw

/-- Adds an argument. -/
def bind (s : Raw) (value : Value) : Raw := { s with args := s.args ++ [value] }

/-- The statement, which must have a text. -/
def build (s : Raw) : Except Fault Statement :=
  if s.sql.isEmpty then .error .emptySql else .ok ⟨s.sql, s.args⟩

end Raw

end RecordSql
