import RecordSql.Derive.Grammar.Expression

/-!
# Operands

What begins an operand decides which form it has. Signs may stand before it, and what ends in a
block may be a statement by itself.
-/

set_option autoImplicit false

namespace RecordSql.Derive

open Reader

namespace Grammar

/-- Reads an arm of a case distinction. A comma ends it, but for a body that ends in a block. -/
def arm (g : Grammar) : Reader Unit := do
  g.attributes
  let _ ← g.alternatives
  if ← word? "if" then g.expr
  mark "=>"
  let kind ← g.body
  if kind = .block || (← atEnd) then discard (mark? ",") else mark ","

/-- Reads the arms of a case distinction. -/
def arms (g : Grammar) : Reader Unit := do
  g.innerAttributes
  repeatWhile do
    if ← atEnd then return false
    g.arm
    return true

/-- Reads an expression that ends in a block, if one comes next. -/
def blockForm? (g : Grammar) : Reader Bool := do
  let tokens := (← get).rest
  let isBraced := isGroup .braces (tokens.drop 1)
  if isWord "if" tokens then g.ifExpression
  else if isWord "while" tokens then g.whileLoop
  else if isWord "for" tokens && !beginsParameters (tokens.drop 1) then g.forLoop
  else if isWord "loop" tokens then g.loop
  else if isWord "match" tokens then
    keep 1
    g.head
    inGroup .braces g.arms
  else if isWord "try" tokens && isBraced then
    keep 1
    g.block
  else if isWord "unsafe" tokens || isWord "const" tokens && isBraced then
    keep 1
    g.attributedBlock
  else if isGroup .braces tokens then g.attributedBlock
  else if isLifetime tokens then g.labeled
  else return false
  return true

/-- Reads an operand without signs before it or anything behind it. -/
def atom (g : Grammar) (allowsStruct : Bool) : Reader ExpressionKind := do
  let tokens := (← get).rest
  if isLiteral tokens then literal
  else if beginsAsyncBlock tokens then
    keep 1
    let _ ← word? "move"
    g.block
  else if ← g.blockForm? then return .block
  else if beginsClosure tokens then g.closure allowsStruct
  else if beginsBuiltin tokens then builtin
  else if beginsValuePath tokens then return ← g.pathExpression allowsStruct
  else if isGroup .parentheses tokens then inGroup .parentheses g.tuple
  else if isWord "break" tokens then g.breakExpression allowsStruct
  else if isWord "continue" tokens then
    keep 1
    if ← peek isLifetime then lifetime
  else if isWord "return" tokens || isWord "yield" tokens then
    keep 1
    g.expr?
  else if isWord "become" tokens then
    keep 1
    g.expr
  else if isGroup .brackets tokens then inGroup .brackets g.array
  else if isWord "let" tokens then g.letExpression allowsStruct
  else if isMark ".." tokens then
    g.rangeEnd allowsStruct
    return .range
  else if isWord "_" tokens then keep 1
  else refuse "expected an expression"
  return .other

/-- Reads an operand with its attributes, the signs before it and what follows it. -/
def readUnary (g : Grammar) (allowsStruct : Bool) : Reader ExpressionKind := verbatimIf do
  let hasAttributes ← peek (isMark "#")
  g.attributes
  let tokens := (← get).rest
  if isMark "&" tokens then
    mark "&"
    let behind := tokens.drop 2
    let isRaw := isWord "raw" (tokens.drop 1) && (isWord "mut" behind || isWord "const" behind)
    if isRaw then keep 2 else discard (word? "mut")
    let _ ← g.unary allowsStruct
    return (.other, false)
  else if isMark "*" tokens || isMark "!" tokens || isMark "-" tokens then
    keep 1
    let _ ← g.unary allowsStruct
    return (.other, false)
  else
    let kind ← g.trailers (← g.atom allowsStruct)
    if hasAttributes && kind = .range then
      refuseRead "attributes are not allowed on range expressions starting with `..`"
    return (kind, beginsKept tokens)

/-- Reads an expression. -/
def readExpression (g : Grammar) (allowsStruct : Bool) : Reader ExpressionKind := do
  let kind ← g.unary allowsStruct
  g.operations allowsStruct .none kind

/-- Writes attributes and the expression behind them. A range needs parentheses, and an operand
that is written as it stands loses the attributes. -/
def writeAttributed (attributes expression : List Token) (kind : ExpressionKind) (isKept : Bool) :
    Reader Unit :=
  writeAll <|
    if kind = .range then attributedRange attributes expression
    else if isKept then expression
    else attributes ++ expression

/-- Reads an expression as a statement or the body of an arm. What ends in a block ends there,
unless a point or a question mark follows. -/
def readBody (g : Grammar) : Reader ExpressionKind := do
  let ((), attributes) ← capture g.attributes
  let isKept ← peek beginsKept
  let (isBlock, block) ← capture g.blockForm?
  if isBlock then
    writeAll (attributes ++ block)
    if ← peek fun tokens => isMarkBut "." [".."] tokens || isMark "?" tokens then
      let kind ← g.trailers .block
      g.operations true .none kind
    else return .block
  else
    let (kind, operand) ← capture (g.unary true)
    writeAttributed attributes operand kind isKept
    g.operations true .none kind

end Grammar

end RecordSql.Derive
