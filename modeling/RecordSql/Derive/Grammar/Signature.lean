import RecordSql.Derive.Grammar.Generic
import RecordSql.Derive.Grammar.Type

/-!
# Signatures of functions

How a function is declared: what kind of function it is, what it takes and what it results in.
-/

set_option autoImplicit false

namespace RecordSql.Derive

open Reader

/-- What is left of tokens behind a word that may come next. -/
def behindWord (text : String) (tokens : List Token) : List Token :=
  if isWord text tokens then tokens.drop 1 else tokens

/-- What is left of tokens behind what a function of another language is called with. -/
def behindConvention (tokens : List Token) : List Token :=
  if isWord "extern" tokens then
    match tokens.drop 1 with
    | .literal _ (.string _) :: rest => rest
    | rest => rest
  else tokens

/-- Whether the signature of a function comes next, given whether it may be said to be safe. -/
def beginsSignature (mayBeSafe : Bool) (tokens : List Token) : Bool :=
  let tokens := behindWord "async" (behindWord "const" tokens)
  let isSafe := mayBeSafe && isWord "safe" tokens
  let tokens := if isSafe then tokens.drop 1 else behindWord "unsafe" tokens
  isWord "fn" (behindConvention tokens)

/-- What a parameter of a function is. -/
inductive FunctionParameter where
  /-- The value that a method is called on. -/
  | receiver
  /-- A pattern with a type. -/
  | typed
  /-- All further arguments. -/
  | variadic
deriving DecidableEq

namespace Grammar

/-- Reads the word for the value that a method is called on, with the type of that value. -/
def receiver (g : Grammar) : Reader Unit := do
  let isReference ← mark? "&"
  if isReference then
    if ← peek isLifetime then lifetime
  let _ ← word? "mut"
  word "self"
  if !isReference then
    if ← mark? ":" then discard (g.type true)

/-- Reads a parameter of a function. A type with arguments may stand by itself, and a blank is
written before it. -/
def functionParameter (g : Grammar) : Reader FunctionParameter := do
  g.attributes
  if ← mark? "..." then return .variadic
  if (← attempt g.receiver).isSome then return .receiver
  if (← peek isName) && (← peekBehind 1 (isMark "<")) then
    writeAll [.word "_", .mark ':' false]
    let _ ← g.type true
    return .typed
  let _ ← g.pattern
  mark ":"
  if ← mark? "..." then return .variadic
  let _ ← g.type true
  return .typed

/-- Reads the parameters of a function up to the end, `limit` at most, given whether they are the
first ones and whether the value that a method is called on was among those before. -/
def functionParametersUpTo (g : Grammar) : Nat → Bool → Bool → Reader Unit
  | 0, _, _ => return ()
  | limit + 1, areFirst, hasReceiver => do
    if ← atEnd then return ()
    let parameter ← g.functionParameter
    if parameter = .receiver then
      if hasReceiver then refuseRead "unexpected second method receiver"
      if !areFirst then refuseRead "unexpected method receiver"
    if ← atEnd then return ()
    mark ","
    if parameter != .variadic then
      g.functionParametersUpTo limit false (parameter = .receiver || hasReceiver)

/-- Reads the parameters of a function up to the end. -/
def functionParameters (g : Grammar) : Reader Unit := do
  g.functionParametersUpTo ((← get).rest.length + 1) true false

/-- Reads the signature of a function, given whether it may be said to be safe; tells whether it
is. -/
def signature (g : Grammar) (mayBeSafe : Bool) : Reader Bool := do
  let _ ← word? "const"
  let _ ← word? "async"
  let isUnsafe ← word? "unsafe"
  let isSafe ← if mayBeSafe && !isUnsafe then word? "safe" else pure false
  convention
  word "fn"
  name
  g.declaredGenerics
  inGroup .parentheses g.functionParameters
  if ← mark? "->" then discard (g.type true)
  let _ ← g.whereClause
  return isSafe

end Grammar

end RecordSql.Derive
