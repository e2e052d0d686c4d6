import RecordSql.Derive.Grammar.Bound

/-!
# Types

The grammar of types, whose first token decides which form of type is read.
-/

set_option autoImplicit false

namespace RecordSql.Derive

open Reader

namespace Grammar

/-- Reads what a function of another language is called with. -/
def convention : Reader Unit := do
  if ← word? "extern" then
    match (← get).rest with
    | .literal _ (.string _) :: _ => keep 1
    | _ => return ()

/-- Whether a parameter without a type of its own comes next, which stands for all further
arguments. -/
def isVariadic (tokens : List Token) : Bool :=
  isMark "..." tokens
    || (isName tokens || isWord "_" tokens) && isMark ":" (tokens.drop 1)
      && isMark "..." (tokens.drop 2)

/-- Reads a parameter of a function type, given whether it is the first. Tells whether others may
follow. -/
def parameter (g : Grammar) (isFirst : Bool) : Reader Bool := do
  g.attributes
  if ← peek isVariadic then
    if !(← mark? "...") then keep 5
    let _ ← mark? ","
    return false
  g.attributes
  if isFirst && (← peek (isWord "mut")) && (← peekBehind 1 (isWord "self")) then
    verbatim do
      keep 2
      if ← peek (isMarkBut ":" ["::"]) then
        mark ":"
        let _ ← g.type true
  else
    let tokens := (← get).rest
    if (isName tokens || isWord "_" tokens || isFirst && isWord "self" tokens)
        && isMarkBut ":" ["::"] (tokens.drop 1) then keep 2
    let _ ← g.type true
  if ← atEnd then return false
  mark ","
  return true

/-- Reads the parameters of a function type. -/
def parameters (g : Grammar) : Reader Unit := do
  if ← atEnd then return ()
  if ← g.parameter true then repeatWhile do
    if ← atEnd then return false
    g.parameter false

/-- Reads a function type. -/
def functionType (g : Grammar) : Reader Unit := do
  let _ ← word? "unsafe"
  convention
  word "fn"
  inGroup .parentheses g.parameters
  g.result

/-- Whether the word, the mark or the name that begins a path comes next. -/
def beginsPath (tokens : List Token) : Bool :=
  isName tokens || isRoot tokens || isMark "::" tokens || isMark "<" tokens

/-- Whether a function type comes next. -/
def beginsFunction (tokens : List Token) : Bool :=
  isWord "fn" tokens || isWord "unsafe" tokens || isWord "extern" tokens

/-- The kind of a type that is a path. -/
def pathKind (shape : PathShape) : TypeKind :=
  if shape.isQualified then .other else if shape.isSingle then .name else .path

/-- Reads a type that begins with a path, given whether generic parameters stand before it. -/
def namedType (g : Grammar) (plus hasParameters : Bool) : Reader TypeKind := do
  let shape ← g.qualifiedPath false
  if shape.isQualified then return .other
  if shape.isPlain && (← peek (isMarkBut "!" ["!="])) then
    mark "!"
    anyGroup
    return .other
  if plus && (← peek (isMark "+")) then
    mark "+"
    if ← peek (beginsBound false) then
      let _ ← g.bound false false
      repeatWhile do
        if ← mark? "+" then
          if ← peek (beginsBound false) then
            let _ ← g.bound false false
            return true
        return false
    return .other
  return if hasParameters then .bound else pathKind shape

/-- Reads what stands in the parentheses that begin a type, and tells what the whole is. -/
def parenthesizedType (g : Grammar) : Reader (Option TypeKind) := do
  if ← atEnd then return none
  if ← peek isLifetime then
    g.objectBounds true
    return some .other
  let first ← g.type true
  if ← peek (isMark ",") then
    repeatWhile do
      if ← atEnd then return false
      mark ","
      if ← atEnd then return false
      let _ ← g.type true
      return true
    return none
  return some first

/-- Reads a type that begins with parentheses. What stands in them may be the first of several
bounds; such a bound is written without parentheses of its own. -/
def tupleType (g : Grammar) (plus : Bool) : Reader TypeKind := do
  match (← get).rest with
  | .group _ inside :: _ =>
    if isMark "?" inside then
      inGroup .parentheses (discard (g.traitBound false))
      let isSingle := !(← peek (isMark "+"))
      g.addedBounds
      return if isSingle then .relaxed else .other
    let (first?, group) ← capture (inGroup .parentheses g.parenthesizedType)
    match first? with
    | none =>
      writeAll group
      return .other
    | some first =>
      if plus && [.name, .path, .bound, .relaxed].contains first && (← peek (isMark "+")) then
        match first, group with
        | .relaxed, [.group _ bound] => writeAll bound
        | _, _ => writeAll group
        g.addedBounds
        return .other
      else
        writeAll group
        return .parenthesized
  | _ => expect ["parentheses"]

/-- Reads what stands in the brackets of an array or a slice. -/
def arrayType (g : Grammar) : Reader Unit := do
  let _ ← g.type true
  if ← mark? ";" then discard (g.expression true)

/-- Reads a pointer. -/
def pointerType (g : Grammar) : Reader Unit := do
  mark "*"
  if ← peek fun tokens => isWord "const" tokens || isWord "mut" tokens then keep 1
  else expect ["`const`", "`mut`"]
  let _ ← g.type false

/-- Reads a reference. -/
def referenceType (g : Grammar) : Reader Unit := do
  mark "&"
  if ← peek isLifetime then keep 1
  let _ ← word? "mut"
  let _ ← g.type false

/-- Reads a type behind the word that makes it an object type. A star behind the word makes the
whole be written as it stands. -/
def objectType (g : Grammar) (plus : Bool) : Reader Unit := do
  if ← peekBehind 1 (isMark "*") then
    verbatim do
      keep 2
      g.objectBounds plus
  else
    keep 1
    g.objectBounds plus

/-- What may begin a type. -/
def typeParts : List String :=
  ["`for`", "parentheses", "`fn`", "`unsafe`", "`extern`", "identifier", "`::`", "`<`", "`dyn`",
    "square brackets", "`*`", "`&`", "`!`", "`impl`", "`_`", "lifetime"]

/-- What may follow the generic parameters that begin a type. -/
def partsBehindParameters : List String :=
  ["identifier", "`fn`", "`unsafe`", "`extern`", "`super`", "`self`", "`Self`", "`crate`"]

/-- Reads a type, given whether bounds may be added to it with plus signs. -/
def readType (g : Grammar) (plus : Bool) : Reader TypeKind := do
  let hasParameters ← g.forParameters?
  let tokens := (← get).rest
  if hasParameters && !(isName tokens || beginsFunction tokens || isRoot tokens) then
    expect partsBehindParameters
  if isGroup .parentheses tokens then g.tupleType plus
  else if beginsFunction tokens then
    g.functionType
    return .other
  else if beginsBuiltin tokens then
    verbatim builtin
    return .other
  else if beginsPath tokens then g.namedType plus hasParameters
  else if isWord "dyn" tokens then
    g.objectType plus
    return .other
  else if isGroup .brackets tokens then
    inGroup .brackets g.arrayType
    return .other
  else if isMark "*" tokens then
    g.pointerType
    return .other
  else if isMark "&" tokens then
    g.referenceType
    return .other
  else if isMark "!" tokens then
    mark "!"
    return .other
  else if isWord "impl" tokens then
    keep 1
    g.traitBounds plus true true "at least one trait must be specified"
    return .other
  else if isWord "_" tokens then
    keep 1
    return .other
  else if isLifetime tokens then
    g.objectBounds true
    return .other
  else expect typeParts

end Grammar

end RecordSql.Derive
