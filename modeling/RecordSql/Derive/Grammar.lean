import RecordSql.Derive.Path

/-!
# The grammar of types, expressions and items

The parts of the grammar refer to each other: a type may hold an expression, an expression a block
of statements, a statement an item, and an item a type. A `Grammar` holds a reader for every part
that others refer to. The readers of each part are written against a given grammar, and the grammar
that reads to a greater depth is made of the readers over the one that reads to a lesser depth.
-/

set_option autoImplicit false

namespace RecordSql.Derive

/-- What a type is, as far as what may follow it depends on that. -/
inductive TypeKind where
  /-- A single name, which may have arguments in angle brackets. -/
  | name
  /-- Any other path that is not qualified by a type. -/
  | path
  /-- A single bound of an object type. -/
  | bound
  /-- A single bound in parentheses that relaxes what holds otherwise. -/
  | relaxed
  /-- A type in parentheses. -/
  | parenthesized
  /-- Any other type. -/
  | other
deriving DecidableEq

/-- What a bound requires. -/
inductive BoundKind where
  /-- That a lifetime lasts. -/
  | lifetime
  /-- That only certain parameters are captured. -/
  | capture
  /-- That a trait is implemented. -/
  | trait
deriving DecidableEq

/-- What an expression is, as far as what may follow it depends on that. -/
inductive ExpressionKind where
  /-- A range that is not in parentheses. -/
  | range
  /-- A comparison that is not in parentheses. -/
  | comparison
  /-- A block or what ends in one, so that nothing has to end it as a statement. -/
  | block
  /-- A call of generated code with its arguments in braces. -/
  | bracedCall
  /-- Any other expression. -/
  | other
deriving DecidableEq

/-- What a pattern is, as far as what may surround it depends on that. -/
inductive PatternKind where
  /-- A range with one end missing. -/
  | openRange
  /-- Any other range. -/
  | range
  /-- All elements that are not named. -/
  | remainder
  /-- A pattern that is written as it stands. -/
  | kept
  /-- Any other pattern. -/
  | other
deriving DecidableEq

/-- How closely an operator binds, from the least to the most. -/
inductive Precedence where
  | none | assignment | range | disjunction | conjunction | binding | comparison | bitOr | bitXor
  | bitAnd | shift | sum | product | cast
deriving DecidableEq

/-- The place of a precedence among all. -/
def Precedence.rank : Precedence → Nat
  | .none => 0
  | .assignment => 1
  | .range => 2
  | .disjunction => 3
  | .conjunction => 4
  | .binding => 5
  | .comparison => 6
  | .bitOr => 7
  | .bitXor => 8
  | .bitAnd => 9
  | .shift => 10
  | .sum => 11
  | .product => 12
  | .cast => 13

/-- Readers of the parts of the grammar that other parts refer to. -/
structure Grammar where
  /-- Reads a type, given whether bounds may be added to it with plus signs. -/
  type : Bool → Reader TypeKind
  /-- Reads a bound, given whether it may name captured parameters and whether it may be
  constant. -/
  bound : Bool → Bool → Reader BoundKind
  /-- Reads an expression, given whether a brace may begin the fields of a struct in it. -/
  expression : Bool → Reader ExpressionKind
  /-- Reads an operand with the signs before it and the calls behind it. -/
  unary : Bool → Reader ExpressionKind
  /-- Reads the operations that follow an operand and bind as closely as a precedence. -/
  operations : Bool → Precedence → ExpressionKind → Reader ExpressionKind
  /-- Reads an expression as a statement or the body of an arm: one that ends in a block ends
  there. -/
  body : Reader ExpressionKind
  /-- Reads a pattern without alternatives. -/
  pattern : Reader PatternKind
  /-- Reads statements up to the end. -/
  statements : Reader Unit
  /-- Reads an item with its attributes. -/
  item : Reader Unit

namespace Grammar

/-- The grammar that reads nothing. -/
def empty : Grammar where
  type _ := Reader.expect []
  bound _ _ := Reader.expect []
  expression _ := Reader.expect []
  unary _ := Reader.expect []
  operations _ _ _ := Reader.expect []
  body := Reader.expect []
  pattern := Reader.expect []
  statements := Reader.expect []
  item := Reader.expect []

end Grammar

end RecordSql.Derive
