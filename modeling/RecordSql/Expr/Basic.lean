import RecordSql.Value.Basic

/-!
# Expressions

The trees that conditions and projections are made of. They name fields, not columns, and they
may be ill-formed: an operator may stand with too few or too many operands until the tree is
rendered against a table.
-/

set_option autoImplicit false

namespace RecordSql

/-- The operators of conditions. -/
inductive Operator where
  | eq | gt | gte | lt | lte | and | or | not
deriving DecidableEq

namespace Operator

/-- The text of an operator with the blanks around it. -/
def sql : Operator → String
  | .eq => " = "
  | .gt => " > "
  | .gte => " >= "
  | .lt => " < "
  | .lte => " <= "
  | .and => " AND "
  | .or => " OR "
  | .not => "NOT "

/-- The text of an operator by itself. -/
def symbol : Operator → String
  | .eq => "="
  | .gt => ">"
  | .gte => ">="
  | .lt => "<"
  | .lte => "<="
  | .and => "AND"
  | .or => "OR"
  | .not => "NOT"

/-- Whether an operator compares two operands. -/
def isComparison : Operator → Bool
  | .eq | .gt | .gte | .lt | .lte => true
  | .and | .or | .not => false

end Operator

/-- The functions over all rows that a projection may apply. -/
inductive Aggregate where
  | avg | max | min | count | sum
deriving DecidableEq

/-- The name of an aggregate function in a statement. -/
def Aggregate.sql : Aggregate → String
  | .avg => "AVG"
  | .max => "MAX"
  | .min => "MIN"
  | .count => "COUNT"
  | .sum => "SUM"

/-- An expression. -/
inductive Expr where
  /-- A field, by its name. -/
  | field (name : String)
  /-- A value that is bound to a placeholder. -/
  | literal (value : Value)
  /-- A field, or a function over all rows applied to it. -/
  | aggregate (function : Option Aggregate) (field : String)
  /-- An operator with an operand on its right only. -/
  | unary (op : Operator) (right : Expr)
  /-- An operator with an operand on either side. -/
  | binary (op : Operator) (left right : Expr)

namespace Expr

/-- Whether an operator stands at the top of an expression. -/
def isOperation : Expr → Bool
  | .unary .. | .binary .. => true
  | .field _ | .literal _ | .aggregate .. => false

/-- Equality of expressions, node by node; literals are compared as values. -/
def equal : Expr → Expr → Bool
  | .field a, .field b => a == b
  | .literal a, .literal b => a.equal b
  | .aggregate f a, .aggregate g b => f == g && a == b
  | .unary p a, .unary q b => p == q && equal a b
  | .binary p a b, .binary q c d => p == q && equal a c && equal b d
  | _, _ => false

end Expr

/-- A condition: an expression with an operator at its top. -/
structure Condition where
  /-- The expression. -/
  expr : Expr
  /-- An operator stands at its top. -/
  isOperation : expr.isOperation = true

namespace Condition

/-- Compares a field with a value. -/
def compare (op : Operator) (field : String) (value : Value) : Condition :=
  ⟨.binary op (.field field) (.literal value), rfl⟩

/-- Both conditions. -/
def and (a b : Condition) : Condition := ⟨.binary .and a.expr b.expr, rfl⟩

/-- At least one of two conditions. -/
def or (a b : Condition) : Condition := ⟨.binary .or a.expr b.expr, rfl⟩

/-- Not the condition. -/
def not (a : Condition) : Condition := ⟨.unary .not a.expr, rfl⟩

/-- All conditions of a list, joined from the left; none when there are none. -/
def conjunction : List Condition → Option Condition
  | [] => none
  | c :: cs => some (cs.foldl and c)

end Condition

end RecordSql
