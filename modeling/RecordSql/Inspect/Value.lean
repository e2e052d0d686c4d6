import RecordSql.Expr.Basic
import RecordSql.Inspect.Tree
import RecordSql.Json.Text

/-!
# Inspection of values and expressions

How values, expressions and conditions show themselves.
-/

set_option autoImplicit false

namespace RecordSql

/-- Numbers stand without an exponent from a ten-thousandth up to sixteen digits before the point,
and only a negative exponent has a sign. -/
def Inspection.numberLayout : FloatLayout where
  tie := .up
  leastPositional := -4
  greatestPositional := 15
  exponentPlus := ""
  missing := "NaN"
  infinite negative := if negative then "-inf" else "inf"

namespace Json

mutual

/-- How a JSON value shows itself. -/
def inspect : Json → String
  | .null => "Null"
  | .bool b => if b then "Bool(true)" else "Bool(false)"
  | .integer n => "Number(" ++ decimalText n ++ ")"
  | .float x => "Number(" ++ numberLayout.render x ++ ")"
  | .string s => "String(" ++ (Inspection.quoted s).render ++ ")"
  | .array items => "Array [" ++ ", ".intercalate (inspectItems items) ++ "]"
  | .object members => "Object \x7b" ++ ", ".intercalate (inspectMembers members) ++ "\x7d"

/-- How the items of a list show themselves. -/
def inspectItems : List Json → List String
  | [] => []
  | item :: items => inspect item :: inspectItems items

/-- How the members of an object show themselves. -/
def inspectMembers : List (String × Json) → List String
  | [] => []
  | (name, value) :: members =>
    ((Inspection.quoted name).render ++ ": " ++ inspect value) :: inspectMembers members

end

end Json

/-- How a value shows itself. -/
def Value.inspect : Value → Inspection
  | .null => .atom "Null"
  | .bool b => .call "Bool" [.bool b]
  | .int n => .call "Int" [.int n.val]
  | .uint n => .call "UInt" [.int n.val]
  | .float x => .call "Float" [.atom (Inspection.numberLayout.render x)]
  | .text s => .call "Text" [.quoted s]
  | .bytes b => .call "Bytes" [.list (b.map fun byte => .int byte.toNat)]
  | .date d => .call "Date" [.atom d.render]
  | .timestamp t => .call "Timestamp" [.atom t.render]
  | .timestamptz t => .call "TimestampTz" [.atom t.renderUtc]
  | .uuid u => .call "Uuid" [.atom u.render]
  | .json j => .call "Json" [.atom j.inspect]
  | .decimal d => .call "Decimal" [.atom d.render]

/-- The name under which an operator shows itself. -/
def Operator.label : Operator → String
  | .eq => "Eq"
  | .gt => "Gt"
  | .gte => "Gte"
  | .lt => "Lt"
  | .lte => "Lte"
  | .and => "And"
  | .or => "Or"
  | .not => "Not"

/-- The name under which an aggregate function shows itself. -/
def Aggregate.label : Aggregate → String
  | .avg => "Avg"
  | .max => "Max"
  | .min => "Min"
  | .count => "Count"
  | .sum => "Sum"

namespace Expr

/-- How an operation shows itself, given how its operands do. -/
def inspectOperation (left : Option Inspection) (op : Operator) (right : Inspection) :
    Inspection :=
  .struct "Predicate" [("left", .option id left), ("op", .atom op.label), ("right", right)] true

/-- How an expression shows itself. -/
def inspect : Expr → Inspection
  | .field name => .call "Field" [.struct "FieldRef" [("name", .quoted name)] true]
  | .literal value => .call "Literal" [value.inspect]
  | .aggregate function name =>
    .call "Aggregate" [.struct "Aggregate" [("field", .quoted name),
      ("func", .option (fun f => .atom f.label) function)] true]
  | .unary op right => .call "Predicate" [inspectOperation none op right.inspect]
  | .binary op left right =>
    .call "Predicate" [inspectOperation (some left.inspect) op right.inspect]

end Expr

/-- How a condition shows itself: as its operation, without the wrapping of an expression. -/
def Condition.inspect (c : Condition) : Inspection :=
  match c.expr with
  | .unary op right => Expr.inspectOperation none op right.inspect
  | .binary op left right => Expr.inspectOperation (some left.inspect) op right.inspect
  | e => e.inspect

end RecordSql
