import RecordSql.Derive.Grammar.Bound
import RecordSql.Derive.Grammar.Operation
import RecordSql.Derive.Grammar.Pattern
import RecordSql.Derive.Lexer

/-!
# Expressions

The forms of expressions without operators between them, and what may follow each of them: calls,
members, indices and question marks.
-/

set_option autoImplicit false

namespace RecordSql.Derive

open Reader

/-! ## What comes next -/

/-- Whether a closure comes next. -/
def beginsClosure (tokens : List Token) : Bool :=
  let second := tokens.drop 1
  isMark "|" tokens || isWord "move" tokens
    || isWord "for" tokens && beginsParameters second
    || isWord "const" tokens && !isGroup .braces second
    || isWord "static" tokens
    || isWord "async" tokens && (isMark "|" second || isWord "move" second)

/-- Whether an asynchronous block comes next. -/
def beginsAsyncBlock (tokens : List Token) : Bool :=
  let second := tokens.drop 1
  isWord "async" tokens
    && (isGroup .braces second || isWord "move" second && isGroup .braces (tokens.drop 2))

/-- Whether an expression comes next that begins with a path. -/
def beginsValuePath (tokens : List Token) : Bool :=
  let second := tokens.drop 1
  isName tokens || isRoot tokens || isMark "::" tokens || isMark "<" tokens
    || isWord "try" tokens && (isMark "!" second || isMark "::" second)

/-- Whether an expression may come next. -/
def beginsExpression (tokens : List Token) : Bool :=
  isAnyWord tokens && !isWord "as" tokens || isAnyGroup tokens || isLiteral tokens
    || isMarkBut "!" ["!="] tokens || isMarkBut "-" ["-=", "->"] tokens
    || isMarkBut "*" ["*="] tokens || isMarkBut "|" ["|="] tokens || isMarkBut "&" ["&="] tokens
    || isMark ".." tokens || isMarkBut "<" ["<=", "<<="] tokens || isMark "::" tokens
    || isLifetime tokens || isMark "#" tokens

namespace Grammar

/-- Reads an expression in which a brace may begin the fields of a struct. -/
def expr (g : Grammar) : Reader Unit := discard (g.expression true)

/-- Reads a condition or a subject, behind which a brace begins a block. -/
def head (g : Grammar) : Reader Unit := discard (g.expression false)

/-- Reads an expression if one comes next. -/
def expr? (g : Grammar) : Reader Unit := do
  if ← peek beginsExpression then g.expr

/-! ## Groups -/

/-- Reads what stands in parentheses or in the brackets of a list behind its first item. -/
def furtherItems (g : Grammar) : Reader Unit := repeatWhile do
  if ← atEnd then return false
  mark ","
  if ← atEnd then return false
  g.expr
  return true

/-- Reads what stands in parentheses. -/
def tuple (g : Grammar) : Reader Unit := do
  if ← atEnd then return ()
  g.expr
  g.furtherItems

/-- Reads what stands in brackets: items, or an item and how often it is repeated. -/
def array (g : Grammar) : Reader Unit := do
  if ← atEnd then return ()
  g.expr
  let tokens := (← get).rest
  if tokens.isEmpty || isMark "," tokens then g.furtherItems
  else if isMark ";" tokens then
    mark ";"
    g.expr
  else refuse "expected `,` or `;`"

/-- Reads a field of a struct expression, or the rest of the fields. Tells whether others may
follow. -/
def structField (g : Grammar) : Reader Bool := do
  if ← mark? ".." then
    if !(← atEnd) then g.expr
    return false
  g.attributes
  let isNamed ← member
  if !isNamed || (← peek (isMark ":")) then
    mark ":"
    g.expr
  if ← atEnd then return false
  mark ","
  return true

/-- Reads the fields of a struct expression. -/
def structFields (g : Grammar) : Reader Unit := repeatWhile do
  if ← atEnd then return false
  g.structField

/-! ## What follows an expression -/

/-- The member that the digits before or behind a point stand for. -/
def memberIndex (digits : List Char) : Reader Nat :=
  match lexNumber? digits with
  | some (.whole _ true, _) => refuseRead "expected unsuffixed integer"
  | some (.whole value false, _) =>
    if 0x100000000 ≤ value then refuseRead "number too large to fit in target type"
    else return value
  | _ => refuseRead "expected integer literal"

/-- Reads a number with a point as two members, written in decimal digits. Tells whether the second
one is missing. -/
def memberPair (text : String) : Reader Bool := do
  let cs := text.toList
  let digits := cs.takeWhile (· != '.')
  let furtherDigits := cs.drop (digits.length + 1)
  let first ← memberIndex digits
  skip 1
  writeWhole first
  if digits.length < cs.length then write (.mark '.' false)
  if !furtherDigits.isEmpty then writeWhole (← memberIndex furtherDigits)
  return furtherDigits.isEmpty && digits.length < cs.length

/-- Refuses a number below zero as a member. -/
def refuseNegative (text : String) : Reader Unit :=
  match lexNumber? (text.toList.takeWhile (· != '.')) with
  | some (.whole .., _) => refuseRead "invalid digit found in string"
  | _ => refuseRead "expected integer literal"

/-- Reads arguments in parentheses. -/
def callArguments (g : Grammar) : Reader Unit := inGroup .parentheses (separated g.expr)

/-- Reads what stands behind the point after an expression: a member, or a call of one. -/
def memberAccess (g : Grammar) : Reader Unit := do
  if ← word? "await" then return ()
  let isNamed ← member
  if isNamed then
    let hasColons ← mark? "::"
    if hasColons then discard (inAngles g.argument)
    if hasColons || (← peek (isGroup .parentheses)) then g.callArguments

/-- Whether something comes next that may follow any operand. -/
def beginsTrailer (tokens : List Token) : Bool :=
  isGroup .parentheses tokens || isGroup .brackets tokens || isMarkBut "." [".."] tokens
    || isMark "?" tokens

/-- Whether an operand comes next that is written as it stands, with its attributes. -/
def beginsKept (tokens : List Token) : Bool :=
  isWord "become" tokens || beginsBuiltin tokens && !beginsTrailer (tokens.drop 4)

/-- Reads what follows an expression, `limit` times at most. -/
def trailersUpTo (g : Grammar) : Nat → ExpressionKind → Reader ExpressionKind
  | 0, kind => return kind
  | limit + 1, kind => do
    let tokens := (← get).rest
    if isGroup .parentheses tokens then
      g.callArguments
      g.trailersUpTo limit .other
    else if isMarkBut "." [".."] tokens && kind != .range then
      mark "."
      match tokens.drop 1 with
      | .literal text .fractional :: _ => if ← memberPair text then g.memberAccess
      | .mark '-' _ :: .literal text .fractional :: _ => refuseNegative text
      | _ => g.memberAccess
      g.trailersUpTo limit .other
    else if isGroup .brackets tokens then
      inGroup .brackets g.expr
      g.trailersUpTo limit .other
    else if isMark "?" tokens && kind != .range then
      mark "?"
      g.trailersUpTo limit .other
    else return kind

/-- Reads what follows an expression. -/
def trailers (g : Grammar) (kind : ExpressionKind) : Reader ExpressionKind := do
  g.trailersUpTo ((← get).rest.length + 1) kind

/-! ## Forms that begin with a word -/

/-- Reads a parameter of a closure. Without a type of its own, attributes belong to its pattern;
one that is written as it stands has none. -/
def closureParameter (g : Grammar) : Reader Unit := do
  let ((), attributes) ← capture g.attributes
  let (kind, pattern) ← capture g.pattern
  if ← peek (isMark ":") then
    writeAll (attributes ++ pattern)
    mark ":"
    discard (g.type true)
  else match kind with
    | .range | .openRange => writeAll (attributedRange attributes pattern)
    | .kept => writeAll pattern
    | _ => writeAll (attributes ++ pattern)

/-- Reads a closure. With a type of its result, its body is a block. -/
def closure (g : Grammar) (allowsStruct : Bool) : Reader Unit := do
  let _ ← g.forParameters?
  let _ ← word? "const"
  let _ ← word? "static"
  let _ ← word? "async"
  let _ ← word? "move"
  mark "|"
  repeatWhile do
    if ← peek (isMark "|") then return false
    g.closureParameter
    if ← peek (isMark "|") then return false
    mark ","
    return true
  mark "|"
  if ← mark? "->" then
    let _ ← g.type true
    g.block
  else discard (g.expression allowsStruct)

/-- Reads an expression that begins with a path: a call of generated code, a struct, or the path
by itself. -/
def pathExpression (g : Grammar) (allowsStruct : Bool) : Reader ExpressionKind := do
  let shape ← g.qualifiedPath true
  if shape.isPlain && (← peek (isMarkBut "!" ["!="])) then
    mark "!"
    let isBraced ← peek (isGroup .braces)
    anyGroup
    return if isBraced then .bracedCall else .other
  if allowsStruct && (← peek (isGroup .braces)) then inGroup .braces g.structFields
  return .other

/-- Reads a jump out of a loop or block, with its label and its value. A label of the value needs
parentheses. -/
def breakExpression (g : Grammar) (allowsStruct : Bool) : Reader Unit := do
  word "break"
  if (← peek isLifetime) && (← peekBehind 1 (isMark ":")) then
    g.expr
    refuseRead "parentheses required"
  if ← peek isLifetime then lifetime
  if allowsStruct || !(← peek (isGroup .braces)) then g.expr?

/-- Reads a condition that a pattern is matched in. -/
def letExpression (g : Grammar) (allowsStruct : Bool) : Reader Unit := do
  word "let"
  let _ ← g.alternatives
  mark "="
  let kind ← g.unary allowsStruct
  discard (g.operations allowsStruct .comparison kind)

/-- Reads branches with conditions, `limit` at most. -/
def branches (g : Grammar) : Nat → Reader Unit
  | 0 => return ()
  | limit + 1 => do
    word "if"
    g.head
    g.block
    if ← word? "else" then
      if ← peek (isWord "if") then g.branches limit
      else if ← peek (isGroup .braces) then g.block
      else expect ["`if`", "curly braces"]

/-- Reads branches with conditions. -/
def ifExpression (g : Grammar) : Reader Unit := do
  g.branches ((← get).rest.length + 1)

/-- Reads a loop while a condition holds. -/
def whileLoop (g : Grammar) : Reader Unit := do
  word "while"
  g.head
  g.attributedBlock

/-- Reads a loop over items. -/
def forLoop (g : Grammar) : Reader Unit := do
  word "for"
  let _ ← g.alternatives
  word "in"
  g.head
  g.attributedBlock

/-- Reads a loop without a condition. -/
def loop (g : Grammar) : Reader Unit := do
  word "loop"
  g.attributedBlock

/-- Reads a loop or block behind its label. -/
def labeled (g : Grammar) : Reader Unit := do
  lifetime
  mark ":"
  let tokens := (← get).rest
  if isWord "while" tokens then g.whileLoop
  else if isWord "for" tokens then g.forLoop
  else if isWord "loop" tokens then g.loop
  else if isGroup .braces tokens then g.attributedBlock
  else refuse "expected loop or block expression"

end Grammar

end RecordSql.Derive
