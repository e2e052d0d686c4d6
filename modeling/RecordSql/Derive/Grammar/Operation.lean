import RecordSql.Derive.Grammar.Attribute

/-!
# Operations

How operands and operators are put together: operators by how closely they bind, the ends of
ranges, and what may not follow a cast.
-/

set_option autoImplicit false

namespace RecordSql.Derive

open Reader

/-- The operators between two operands, a longer one before every shorter one that it begins
with. -/
def binaryOperators : List (String × Precedence) :=
  [("+=", .assignment), ("-=", .assignment), ("*=", .assignment), ("/=", .assignment),
    ("%=", .assignment), ("^=", .assignment), ("&=", .assignment), ("|=", .assignment),
    ("<<=", .assignment), (">>=", .assignment), ("&&", .conjunction), ("||", .disjunction),
    ("<<", .shift), (">>", .shift), ("==", .comparison), ("<=", .comparison),
    ("!=", .comparison), (">=", .comparison), ("+", .sum), ("-", .sum), ("*", .product),
    ("/", .product), ("%", .product), ("^", .bitXor), ("&", .bitAnd), ("|", .bitOr),
    ("<", .comparison), (">", .comparison)]

/-- The operator that comes next. -/
def binaryOperator? (tokens : List Token) : Option (String × Precedence) :=
  binaryOperators.find? fun operator => isMark operator.1 tokens

/-- Whether an assignment comes next. -/
def isAssignment (tokens : List Token) : Bool := isMarkBut "=" ["=>"] tokens

/-- How closely what comes next binds the operand before it. -/
def nextPrecedence (tokens : List Token) : Precedence :=
  match binaryOperator? tokens with
  | some operator => operator.2
  | none =>
    if isAssignment tokens then .assignment
    else if isMark ".." tokens then .range
    else if isWord "as" tokens then .cast
    else .none

/-- Whether a range ends without a last value. -/
def endsRange (allowsStruct : Bool) (tokens : List Token) : Bool :=
  tokens.isEmpty || isMarkBut "." [".."] tokens || !allowsStruct && isGroup .braces tokens
    || isWord "as" tokens
    || [",", ";", "?", "=>", "=", "+", "/", "%", "^", ">", "<=", "!=", "-=", "*=", "&=", "|=",
      "<<="].any fun text => isMark text tokens

namespace Grammar

/-- Reads the two dots of a range and tells whether its end belongs to it. -/
def limits : Reader Bool := do
  if ← mark? "..=" then return true
  if ← peek (isMark "...") then expect ["`..=`"]
  mark ".."
  return false

/-- Takes in what binds the operand just read more closely than the operator before it, at most
`limit` times. Assignments associate to the right. -/
def bindOperand (g : Grammar) (allowsStruct : Bool) (precedence : Precedence) :
    Nat → ExpressionKind → Reader Unit
  | 0, _ => return ()
  | limit + 1, kind => do
    let before := (← get).rest
    let next := nextPrecedence before
    if precedence.rank < next.rank || next = precedence && precedence = .assignment then
      let kind ← g.operations allowsStruct next kind
      if (← get).rest.length < before.length then
        g.bindOperand allowsStruct precedence limit kind

/-- Reads the operand behind an operator. -/
def operand (g : Grammar) (allowsStruct : Bool) (precedence : Precedence) : Reader Unit := do
  let kind ← g.unary allowsStruct
  g.bindOperand allowsStruct precedence ((← get).rest.length + 1) kind

/-- Reads a range behind its first value, or a range without one. -/
def rangeEnd (g : Grammar) (allowsStruct : Bool) : Reader Unit := do
  let isClosed ← limits
  if isClosed || !(← peek (endsRange allowsStruct)) then g.operand allowsStruct .range

/-- Refuses what would make the type of a cast a part of something else. -/
def endCast : Reader Unit := do
  let tokens := (← get).rest
  let follows (what : String) : Reader Unit := refuse ("casts cannot be followed by " ++ what)
  if isMarkBut "." [".."] tokens then
    let behind := tokens.drop 2
    if isWord "await" (tokens.drop 1) then follows "`.await`"
    else if isName (tokens.drop 1) && (isGroup .parentheses behind || isMark "::" behind) then
      follows "a method call"
    else follows "a field access"
  else if isMark "?" tokens then follows "`?`"
  else if isGroup .brackets tokens then follows "indexing"
  else if isGroup .parentheses tokens then follows "a function call"

/-- Reads the operations that follow an operand and bind as closely as `base`, `limit` at most. -/
def operationsUpTo (g : Grammar) (allowsStruct : Bool) (base : Precedence) :
    Nat → ExpressionKind → Reader ExpressionKind
  | 0, kind => return kind
  | limit + 1, kind => do
    if kind = .range then return kind
    let tokens := (← get).rest
    match binaryOperator? tokens with
    | some (text, precedence) =>
      if precedence.rank < base.rank then return kind
      let compares := precedence = .comparison
      if compares && kind = .comparison then
        refuse "comparison operators cannot be chained"
      mark text
      g.operand allowsStruct precedence
      g.operationsUpTo allowsStruct base limit (if compares then .comparison else .other)
    | none =>
      if base.rank ≤ Precedence.assignment.rank && isAssignment tokens then
        mark "="
        g.operand allowsStruct .assignment
        g.operationsUpTo allowsStruct base limit .other
      else if base.rank ≤ Precedence.range.rank && isMark ".." tokens then
        g.rangeEnd allowsStruct
        return .range
      else if base.rank ≤ Precedence.cast.rank && isWord "as" tokens then
        keep 1
        let _ ← g.type false
        endCast
        g.operationsUpTo allowsStruct base limit .other
      else return kind

/-- Reads the operations that follow an operand and bind as closely as `base`. -/
def readOperations (g : Grammar) (allowsStruct : Bool) (base : Precedence)
    (kind : ExpressionKind) : Reader ExpressionKind := do
  g.operationsUpTo allowsStruct base ((← get).rest.length + 1) kind

end Grammar

end RecordSql.Derive
