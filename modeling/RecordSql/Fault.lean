import RecordSql.Duration

/-!
# Faults

Everything that can go wrong between describing a record type and reading its rows, each cause
with the text that is shown for it. Some causes arise only while a statement is being built,
before anything is sent.
-/

set_option autoImplicit false

namespace RecordSql

/-- A cause of failure. -/
inductive Fault where
  /-- A type does not describe a record, for the given reason. -/
  | unsupportedType (reason : String)
  /-- No record was given where one is needed. -/
  | missingRecord
  /-- A piece of a field's tag is not of the form `key=value`. -/
  | invalidTag (piece : String)
  /-- Two fields lay claim to one column. -/
  | duplicateColumn (column : String)
  /-- A record type has no such field. -/
  | unknownField (name : String)
  /-- No field of a record type has the column that a row reports. -/
  | unknownColumn (column : String)
  /-- An expression cannot stand where it does, for the given reason. -/
  | unsupportedExpression (reason : String)
  /-- An INSERT without records. -/
  | emptyValues
  /-- An UPDATE without assignments. -/
  | emptySet
  /-- No row where one is needed. -/
  | noRows
  /-- A statement without text. -/
  | emptySql
  /-- The value of a column does not fit its field. -/
  | decode (column message : String)
  /-- The executor failed, with a text of its own. -/
  | executor (text : String)
  /-- No answer came within the limit. -/
  | timeout (limit : Duration)
deriving DecidableEq

namespace Fault

/-- The text that is shown for a fault. -/
def message : Fault → String
  | .unsupportedType reason => "Unsupported model type: " ++ reason
  | .missingRecord => "Unsupported nil input"
  | .invalidTag piece => "Invalid tag syntax: '" ++ piece ++ "'"
  | .duplicateColumn column => "Duplicate column '" ++ column ++ "'"
  | .unknownField name => "Unknown field '" ++ name ++ "'"
  | .unknownColumn column => "Unknown column '" ++ column ++ "'"
  | .unsupportedExpression reason => "Unsupported expression kind: " ++ reason
  | .emptyValues => "INSERT statement has no VALUES clause"
  | .emptySet => "UPDATE statement has no SET clause"
  | .noRows => "No rows in result set"
  | .emptySql => "SQL text must not be empty"
  | .decode column message => "Decode error on column '" ++ column ++ "': " ++ message
  | .executor text => "Executor error: " ++ text
  | .timeout limit => "Query timeout after " ++ limit.render

/-- The text of the failure underneath, which only the executor reports. -/
def source? : Fault → Option String
  | .executor text => some text
  | _ => none

/-- Whether the fault is that of a field that does not exist. -/
def isUnknownField : Fault → Bool
  | .unknownField _ => true
  | _ => false

/-- Whether the fault is that of a missing row. -/
def isNoRows : Fault → Bool
  | .noRows => true
  | _ => false

/-- Whether the fault is that of a missing answer. -/
def isTimeout : Fault → Bool
  | .timeout _ => true
  | _ => false

/-- Whether the fault arises while a statement is built, before anything is sent. -/
def isConstruction : Fault → Bool
  | .unsupportedType _ | .missingRecord | .invalidTag _ | .duplicateColumn _ | .unknownField _
  | .unsupportedExpression _ | .emptyValues | .emptySet | .emptySql => true
  | .unknownColumn _ | .noRows | .decode .. | .executor _ | .timeout _ => false

end Fault

end RecordSql
