import RecordSql.Derive.Grammar.Item
import RecordSql.Derive.Grammar.Operand

/-!
# Statements

What stands in a block: declarations of variables, items, calls of generated code and expressions.
-/

set_option autoImplicit false

namespace RecordSql.Derive

open Reader

/-- What follows a path of names, if one comes next. -/
def behindPath? (tokens : List Token) : Option (List Token) :=
  match StateT.run path ⟨tokens, [], none⟩ with
  | .ok (_, cursor) => some cursor.rest
  | .error _ => none

/-- Whether an item comes next that a word announces. -/
def beginsItem (tokens : List Token) : Bool :=
  let second := tokens.drop 1
  let third := tokens.drop 2
  let beginsHead (tokens : List Token) : Bool :=
    isWord "unsafe" tokens || isWord "extern" tokens || isWord "fn" tokens
  ["pub", "extern", "use", "fn", "mod", "type", "struct", "enum", "trait", "impl", "macro"].any
      (isWord · tokens)
    || isWord "crate" tokens && !isMark "::" second
    || isWord "static" tokens && (isWord "mut" second || isName second)
    || isWord "const" tokens && !(isGroup .braces second || isWord "static" second
      || isWord "async" second && !beginsHead third || isWord "move" second || isMark "|" second)
    || isWord "unsafe" tokens && !isGroup .braces second
    || isWord "async" tokens && beginsHead second
    || isWord "union" tokens && isName second
    || isWord "auto" tokens && isWord "trait" second
    || isWord "default" tokens && (isWord "unsafe" second || isWord "impl" second)

namespace Grammar

/-- Reads the declaration of a variable. What is to be done when its pattern does not match may
follow a value that does not end in braces. -/
def localDeclaration (g : Grammar) : Reader Unit := do
  word "let"
  let _ ← g.pattern
  if ← mark? ":" then discard (g.type true)
  if ← mark? "=" then
    g.expr
    let endsInBraces := match (← get).written with
      | .group .braces _ :: _ => true
      | _ => false
    if !endsInBraces && (← peek (isWord "else")) then
      keep 1
      g.block
  mark ";"

/-- Reads a statement and tells whether it has to be ended before another. -/
def statement (g : Grammar) : Reader Bool := verbatimIf do
  let ((), attributes) ← capture g.attributes
  let tokens := (← get).rest
  let behind := (behindPath? tokens).getD []
  let isCall := isMark "!" behind
  let second := behind.drop 1
  let third := behind.drop 2
  if isCall && isGroup .braces second && !(isMarkBut "." [".."] third || isMark "?" third) then
    writeAll attributes
    keep (tokens.length - third.length)
    let _ ← mark? ";"
    return (false, false)
  else if isWord "let" tokens then
    writeAll attributes
    g.localDeclaration
    return (false, false)
  else if beginsItem tokens || isCall && (isName second || isWord "try" second) then
    writeAll attributes
    return (false, ← g.restOfItem)
  else
    let (kind, expression) ← capture g.body
    writeAttributed attributes expression kind (beginsKept tokens)
    let isEnded ← mark? ";"
    return (!(isEnded || kind = .block || kind = .bracedCall), false)

/-- Reads statements up to the end. -/
def readStatements (g : Grammar) : Reader Unit := repeatWhile do
  repeatWhile (mark? ";")
  if ← atEnd then return false
  let hasToEnd ← g.statement
  if ← atEnd then return false
  if hasToEnd then refuse "unexpected token, expected `;`"
  return true

/-- The grammar whose parts refer to those of another. -/
def extended (g : Grammar) : Grammar where
  type := g.readType
  bound := g.readBound
  expression := g.readExpression
  unary := g.readUnary
  operations := g.readOperations
  body := g.readBody
  pattern := g.readPattern
  statements := g.readStatements
  item := g.readItem

/-- The grammar that reads parts nested up to a depth. -/
def ofDepth : Nat → Grammar
  | 0 => empty
  | depth + 1 => extended (ofDepth depth)

/-- The grammar that reads a list of tokens. No more than four parts begin at one token, so that
nothing in the list is nested deeper. -/
def reading (tokens : List Token) : Grammar := ofDepth (4 * sizeOfAll tokens + 8)

end Grammar

end RecordSql.Derive
