import RecordSql.Expr.Basic
import RecordSql.Sql.Draft
import RecordSql.Schema.Table

/-!
# Rendering of expressions

An expression becomes text against a table: fields become the names of their columns and literals
become placeholders. A comparison always stands in parentheses. A chain of one logical operator
is flat, but under another logical operator, or under `NOT`, it is grouped; `NOT` is grouped only
under a comparison.
-/

set_option autoImplicit false

namespace RecordSql

variable {type : RecordType}

/-- The column of a field between back-ticks. -/
def Table.renderField (t : Table type) (name : String) : Rendering :=
  match t.requireField name with
  | .ok i => .name (t.column i)
  | .error fault => .fail fault

namespace Expr

/-- The fault of an operator that lacks its left operand. -/
def missingLeft (op : Operator) : Fault :=
  .unsupportedExpression (op.symbol ++ " without a left operand")

/-- The fault of a negation with two operands. -/
def negationOfTwo : Fault := .unsupportedExpression "NOT takes a single operand"

/-- Whether a logical operator is grouped under another operator. -/
def groupsLogical (parent : Option Operator) (op : Operator) : Bool :=
  match parent with
  | some outer => outer != op
  | none => false

/-- Whether a negation is grouped under another operator. -/
def groupsNegation (parent : Option Operator) : Bool :=
  match parent with
  | some outer => outer.isComparison
  | none => false

/-- Renders an expression as an operand of the operator `parent`, or at the top. -/
def render (t : Table type) (parent : Option Operator) : Expr → Rendering
  | .field name => t.renderField name
  | .literal value => .bind value
  | .aggregate none name => t.renderField name
  | .aggregate (some function) name =>
    match t.requireField name with
    | .ok i => .sql function.sql ++ .sql "(" ++ .name (t.column i) ++ .sql ")"
    | .error fault => .fail fault
  | .unary op right =>
    if op = .not then .grouped (groupsNegation parent) (.sql op.sql ++ right.render t (some op))
    else .fail (missingLeft op)
  | .binary op left right =>
    if op = .not then .fail negationOfTwo
    else .grouped (op.isComparison || groupsLogical parent op)
      (left.render t (some op) ++ .sql op.sql ++ right.render t (some op))

/-- Renders an expression that stands by itself. -/
def compile (t : Table type) (e : Expr) : Rendering := e.render t none

/-- Renders a column of a projection: a field or an aggregate, and nothing else. -/
def renderProjection (t : Table type) : Expr → Rendering
  | .literal _ => .fail (.unsupportedExpression "literal in a projection list")
  | .unary .. | .binary .. => .fail (.unsupportedExpression "predicate in a projection list")
  | e => e.compile t

end Expr

/-- Renders the clause that restricts a statement to rows that meet all conditions; nothing when
there are none. -/
def Table.renderWhere (t : Table type) (conditions : List Condition) : Rendering :=
  match Condition.conjunction conditions with
  | none => .empty
  | some all => .sql " WHERE " ++ all.expr.compile t

end RecordSql
