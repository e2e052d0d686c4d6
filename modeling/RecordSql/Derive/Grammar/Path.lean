import RecordSql.Derive.Grammar.Attribute

/-!
# Paths with arguments

A path to a type or a value, whose segments may have generic arguments. Lifetimes are written
before all other arguments.
-/

set_option autoImplicit false

namespace RecordSql.Derive

open Reader

/-- An entry of a list between angle brackets. -/
structure Entry where
  /-- Whether it is a lifetime. -/
  isLifetime : Bool
  /-- The tokens of the entry. -/
  tokens : List Token
  /-- Whether a comma follows it. -/
  isFollowed : Bool

/-- A comma. -/
def comma : Token := .mark ',' false

/-- The tokens of an entry with its comma. -/
def Entry.all (entry : Entry) : List Token :=
  entry.tokens ++ if entry.isFollowed then [comma] else []

/-- Lifetimes and then all other entries, each with the comma behind it. Where a lifetime has none
and something follows, a comma is put in. -/
def arranged (entries : List Entry) : List Token :=
  let lifetimes := entries.filter Entry.isLifetime
  let others := entries.filter fun entry => !entry.isLifetime
  let endsOpen := lifetimes.getLast?.any fun entry => !entry.isFollowed
  lifetimes.flatMap Entry.all ++ (if endsOpen && !others.isEmpty then [comma] else [])
    ++ others.flatMap Entry.all

/-- Reads entries with commas between them up to a closing angle bracket, `limit` at most. The
reader of an entry tells whether it is a lifetime. -/
def readEntries (entry : Reader Bool) : Nat → Reader (List Entry)
  | 0 => return []
  | limit + 1 => do
    if ← peek (isMark ">") then return []
    let (isLifetime, tokens) ← capture entry
    if ← peek (isMark ">") then return [⟨isLifetime, tokens, false⟩]
    let _ ← capture (mark ",")
    return ⟨isLifetime, tokens, true⟩ :: (← readEntries entry limit)

/-- Reads entries between angle brackets and tells how many there are. -/
def inAngles (entry : Reader Bool) : Reader Nat := do
  mark "<"
  let entries ← readEntries entry ((← get).rest.length + 1)
  writeAll (arranged entries)
  mark ">"
  return entries.length

/-- The arguments of a segment of a path. -/
inductive Arguments where
  /-- No arguments. -/
  | missing
  /-- An empty list of arguments, written with some tokens. -/
  | empty (width : Nat)
  /-- Arguments. -/
  | present
deriving DecidableEq

/-- What a path is made of. -/
structure PathShape where
  /-- Whether a type in angle brackets qualifies the path. -/
  isQualified : Bool
  /-- Whether the path is a single segment. -/
  isSingle : Bool
  /-- Whether no segment has arguments. -/
  isPlain : Bool
  /-- The arguments of the last segment. -/
  last : Arguments

/-- A path with a further segment. -/
def PathShape.extended (shape : PathShape) (arguments : Arguments) : PathShape :=
  { shape with
    isSingle := false
    isPlain := shape.isPlain && arguments = .missing
    last := arguments }

namespace Grammar

/-- Reads a constant argument: a literal, a name, or a block. -/
def constant (g : Grammar) : Reader Unit := do
  if ← peek isLiteral then literal
  else if ← peek isName then name
  else if ← peek (isGroup .braces) then g.attributedBlock
  else expect []

/-- Reads the type of a result, if an arrow announces one. -/
def result (g : Grammar) : Reader Unit := do
  if ← mark? "->" then discard (g.type false)

/-- Reads bounds with plus signs between them up to where they stop. -/
def boundsUntil (g : Grammar) (stops : List Token → Bool) : Reader Unit := repeatWhile do
  if ← peek stops then return false
  let _ ← g.bound false true
  mark? "+"

/-- Whether a constant argument comes next that is no name. -/
def isConstant (tokens : List Token) : Bool := isLiteral tokens || isGroup .braces tokens

/-- Reads a generic argument and tells whether it is a lifetime. A name may be given a type, a
constant or bounds. -/
def argument (g : Grammar) : Reader Bool := do
  if (← peek isLifetime) && !(← peekBehind 1 (isMark "+")) then
    lifetime
    return true
  if ← peek isConstant then g.constant
  else if (← g.type true) = .name then
    if ← mark? "=" then
      if ← peek isConstant then g.constant else discard (g.type true)
    else if ← mark? ":" then
      g.boundsUntil fun tokens => isMark "," tokens || isMark ">" tokens
  return false

/-- Reads a segment of a path. In an expression, arguments need a double colon before them. -/
def segment (g : Grammar) (inExpression : Bool) : Reader Arguments := do
  if ← peek fun tokens => (nextWord? tokens).any ["super", "self", "crate", "try"].contains then
    keep 1
    return .missing
  if ← peek (isWord "Self") then keep 1 else name
  let tokens := (← get).rest
  if !inExpression && isMarkBut "<" ["<=", "<<="] tokens
      || isMark "::" tokens && isMark "<" (tokens.drop 2) then
    let hasColons ← mark? "::"
    let count ← inAngles g.argument
    return if count = 0 then .empty (if hasColons then 4 else 2) else .present
  else return .missing

/-- Reads the segments of a path behind others, `limit` at most. -/
def furtherSegments (g : Grammar) (inExpression : Bool) : Nat → PathShape → Reader PathShape
  | 0, shape => return shape
  | limit + 1, shape => do
    let tokens := (← get).rest
    if isMark "::" tokens && !(isGroup .parentheses (tokens.drop 2)) then
      mark "::"
      let arguments ← g.segment inExpression
      g.furtherSegments inExpression limit (shape.extended arguments)
    else return shape

/-- Reads the segments of a path behind others. -/
def restOfPath (g : Grammar) (inExpression : Bool) (shape : PathShape) : Reader PathShape := do
  g.furtherSegments inExpression (← get).rest.length shape

/-- Reads a path. -/
def path (g : Grammar) (inExpression : Bool) : Reader PathShape := do
  let isGlobal ← mark? "::"
  let arguments ← g.segment inExpression
  g.restOfPath inExpression ⟨false, !isGlobal, arguments = .missing, arguments⟩

/-- Reads the segments behind a qualifying type, `limit` at most. -/
def qualifiedSegments (g : Grammar) (inExpression : Bool) : Nat → Reader PathShape
  | 0 => expect []
  | limit + 1 => do
    let arguments ← g.segment inExpression
    if ← mark? "::" then g.qualifiedSegments inExpression limit
    else return ⟨true, false, false, arguments⟩

/-- Reads a path that a type in angle brackets may qualify. -/
def qualifiedPath (g : Grammar) (inExpression : Bool) : Reader PathShape := do
  if ← mark? "<" then
    let _ ← g.type true
    if ← word? "as" then discard (g.path false)
    mark ">"
    mark "::"
    g.qualifiedSegments inExpression ((← get).rest.length + 1)
  else g.path inExpression

/-- Reads arguments in parentheses and the type of a result, if they follow a path whose last
segment has no arguments. A double colon or an empty list of arguments before them is not
written. -/
def callArguments? (g : Grammar) (shape : PathShape) : Reader Unit := do
  let tokens := (← get).rest
  let hasColons := isMark "::" tokens
  let isCall := isGroup .parentheses (if hasColons then tokens.drop 2 else tokens)
  if isCall && shape.last != .present then
    match shape.last with
    | .empty width => unwrite width
    | _ => pure ()
    if hasColons then skip 2
    inGroup .parentheses (separated (discard (g.type true)))
    g.result

end Grammar

end RecordSql.Derive
