import RecordSql.Expr.Rendering

/-!
# Statements put together step by step

A statement can be put together by hand, with one call after another on a compiler, which holds the
text and the arguments so far. A call that fails leaves behind what it had written before the fault,
and the next call goes on from there.
-/

set_option autoImplicit false

namespace RecordSql

namespace Compiler

/-- What a compiler holds before the first call. -/
def fresh : Statement := ⟨"", []⟩

/-- A step of a compiler. It goes on from what the compiler holds, and what it leaves there stays
also if it fails. -/
abbrev Step := ExceptT Fault (StateM Statement)

/-- Writes text as it is. -/
def writeSql (text : String) : Step Unit := modify fun s => { s with sql := s.sql ++ text }

/-- Writes a name between back-ticks. -/
def writeName (ident : String) : Step Unit := do
  writeSql "\x60"
  writeSql ident
  writeSql "\x60"

/-- Writes a placeholder and binds a value to it. -/
def writeBind (value : Value) : Step Unit := do
  writeSql "?"
  modify fun s => { s with args := s.args ++ [value] }

/-- Writes a step between parentheses if asked to. -/
def writeGrouped (inGroup : Bool) (inner : Step Unit) : Step Unit := do
  if inGroup then writeSql "("
  inner
  if inGroup then writeSql ")"

variable {type : RecordType}

/-- The column of the field with a name; there must be one. -/
def columnOf (t : Table type) (name : String) : Step String :=
  match t.requireField name with
  | .ok i => return t.column i
  | .error fault => throw fault

/-- Writes the column of the field with a name. -/
def writeField (t : Table type) (name : String) : Step Unit := do
  let column ← columnOf t name
  writeName column

/-- Writes an expression as an operand of the operator `parent`, or at the top. -/
def writeOperand (t : Table type) (parent : Option Operator) : Expr → Step Unit
  | .field name => writeField t name
  | .literal value => writeBind value
  | .aggregate none name => writeField t name
  | .aggregate (some function) name => do
    let column ← columnOf t name
    writeSql function.sql
    writeSql "("
    writeName column
    writeSql ")"
  | .unary op right =>
    if op = .not then
      writeGrouped (Expr.groupsNegation parent) do
        writeSql op.sql
        writeOperand t (some op) right
    else throw (Expr.missingLeft op)
  | .binary op left right =>
    if op = .not then throw Expr.negationOfTwo
    else
      writeGrouped (op.isComparison || Expr.groupsLogical parent op) do
        writeOperand t (some op) left
        writeSql op.sql
        writeOperand t (some op) right

/-- Writes an expression that stands by itself. -/
def writeExpr (t : Table type) (e : Expr) : Step Unit := writeOperand t none e

/-- Writes a column of a projection: a field or an aggregate, and nothing else. -/
def writeProjection (t : Table type) : Expr → Step Unit
  | .literal _ => throw (.unsupportedExpression "literal in a projection list")
  | .unary .. | .binary .. => throw (.unsupportedExpression "predicate in a projection list")
  | e => writeExpr t e

/-- Writes the clause that restricts a statement to rows that meet all conditions; nothing when
there are none. -/
def writeWhere (t : Table type) (conditions : List Condition) : Step Unit :=
  match Condition.conjunction conditions with
  | none => return
  | some all => do
    writeSql " WHERE "
    writeExpr t all.expr

/-- A call on a compiler. -/
inductive Call where
  /-- Writes text as it is. -/
  | sql (text : String)
  /-- Writes a name between back-ticks. -/
  | name (ident : String)
  /-- Writes a placeholder and binds a value to it. -/
  | bind (value : Value)
  /-- Writes the column of a field. -/
  | field (fieldName : String)
  /-- Writes an expression. -/
  | expr (e : Expr)
  /-- Writes a column of a projection. -/
  | projection (e : Expr)
  /-- Writes the clause for conditions. -/
  | restriction (conditions : List Condition)

/-- The step that a call asks for. -/
def Call.step (t : Table type) : Call → Step Unit
  | .sql text => writeSql text
  | .name ident => writeName ident
  | .bind value => writeBind value
  | .field fieldName => writeField t fieldName
  | .expr e => writeExpr t e
  | .projection e => writeProjection t e
  | .restriction conditions => writeWhere t conditions

/-- How a call ends, and what the compiler holds then. -/
def Call.perform (t : Table type) (call : Call) (s : Statement) : Except Fault Unit × Statement :=
  (call.step t).run.run s

/-- What a compiler holds after some calls, which go on also behind a call that fails. -/
def after (t : Table type) (s : Statement) (calls : List Call) : Statement :=
  calls.foldl (fun s call => (call.perform t s).2) s

/-- Ends the statement that a compiler holds. -/
def finish (s : Statement) : Statement := { s with sql := s.sql ++ ";" }

end Compiler

end RecordSql
