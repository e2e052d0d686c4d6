import RecordSql.Derive.Grammar.Path

/-!
# Patterns

What the arms of a case distinction, the parameters of a closure and the left sides of
declarations are made of.
-/

set_option autoImplicit false

namespace RecordSql.Derive

open Reader

namespace Grammar

/-- Reads a member of a structure and tells whether it has a name. A member without one is written
in decimal digits. -/
def member : Reader Bool := do
  match (← get).rest with
  | .literal _ (.whole value hasSuffix) :: _ =>
    if hasSuffix then refuseRead "expected unsuffixed integer"
    else if 0x100000000 ≤ value then refuseRead "number too large to fit in target type"
    else
      skip 1
      writeWhole value
      return false
  | .mark '-' _ :: .literal _ (.whole _ hasSuffix) :: _ =>
    refuseRead (if hasSuffix then "expected unsuffixed integer"
      else "invalid digit found in string")
  | tokens =>
    if isName tokens then
      keep 1
      return true
    else refuse "expected identifier or integer"

/-- Reads the dots of a range and tells whether its end belongs to it. Three dots are written as
two with an equals sign. -/
def rangeDots : Reader Bool := do
  if ← mark? "..=" then return true
  if ← peek (isMark "...") then
    skip 3
    writeAll [.mark '.' true, .mark '.' true, .mark '=' false]
    return true
  mark ".."
  return false

/-- Whether no end of a range pattern comes next. -/
def endsPattern (tokens : List Token) : Bool :=
  tokens.isEmpty || isMark "|" tokens || isMark "=" tokens || isMarkBut ":" ["::"] tokens
    || isMark "," tokens || isMark ";" tokens || isWord "if" tokens

/-- Reads an end of a range pattern and tells whether there is one. -/
def patternBound (g : Grammar) : Reader Bool := do
  let tokens := (← get).rest
  if endsPattern tokens then return false
  if isLiteral tokens then literal
  else if isName tokens || isRoot tokens || isMark "::" tokens || isMark "<" tokens then
    discard (g.qualifiedPath true)
  else if isWord "const" tokens then
    keep 1
    g.attributedBlock
  else expect ["literal", "identifier", "`::`", "`<`", "`self`", "`Self`", "`super`", "`crate`",
    "`const`"]
  return true

/-- Reads the dots and the end of a range pattern behind its beginning. -/
def patternRange (g : Grammar) : Reader PatternKind := do
  let isClosed ← rangeDots
  let hasEnd ← g.patternBound
  if isClosed && !hasEnd then refuse "expected range upper bound"
  return if hasEnd then .range else .openRange

/-- Reads a range pattern without a beginning, or the dots that stand for all other elements. -/
def patternUpTo (g : Grammar) : Reader PatternKind := do
  let isClosed ← rangeDots
  let hasEnd ← g.patternBound
  if isClosed && !hasEnd then refuse "expected range upper bound"
  return if hasEnd then .openRange else .remainder

/-- Reads patterns separated by bars, a bar before the first allowed. -/
def alternatives (g : Grammar) : Reader PatternKind := do
  let hasBar ← mark? "|"
  let first ← g.pattern
  let isBar := isMarkBut "|" ["||", "|="]
  if hasBar || (← peek isBar) then
    repeatWhile do
      if ← peek isBar then
        mark "|"
        let _ ← g.pattern
        return true
      else return false
    return .other
  else return first

/-- Reads a field of a struct pattern. Tells whether others may follow. -/
def patternField (g : Grammar) : Reader Bool := do
  g.attributes
  if ← mark? ".." then return false
  let isBoxed ← word? "box"
  let isReference ← word? "ref"
  let isMutable ← word? "mut"
  if isBoxed || isReference || isMutable then name
  else
    let isNamed ← member
    if !isNamed || (← peek (isMark ":")) then
      mark ":"
      let _ ← g.alternatives
  if ← atEnd then return false
  mark ","
  return true

/-- Reads the fields of a struct pattern. -/
def patternFields (g : Grammar) : Reader Unit := repeatWhile do
  if ← atEnd then return false
  g.patternField

/-- Reads a pattern that begins with a path. -/
def patternPath (g : Grammar) : Reader PatternKind := do
  let shape ← g.qualifiedPath true
  let tokens := (← get).rest
  if shape.isPlain && isMarkBut "!" ["!="] tokens then
    mark "!"
    anyGroup
    return .other
  else if isGroup .braces tokens then
    inGroup .braces g.patternFields
    return .other
  else if isGroup .parentheses tokens then
    inGroup .parentheses (separated (discard g.alternatives))
    return .other
  else if isMark ".." tokens then g.patternRange
  else return .other

/-- Reads a name that is bound, and the pattern that it has to match. -/
def patternName (g : Grammar) : Reader Unit := do
  let _ ← word? "ref"
  let _ ← word? "mut"
  if ← peek (isWord "self") then keep 1 else name
  if ← mark? "@" then discard g.pattern

/-- Reads an element of a slice pattern. -/
def patternElement (g : Grammar) : Reader Unit := do
  if (← g.alternatives) = .openRange then
    refuseRead "range pattern is not allowed unparenthesized inside slice pattern"

/-- Whether a pattern that begins with a path comes next. -/
def beginsPatternPath (tokens : List Token) : Bool :=
  let rest := tokens.drop 1
  isName tokens && (isMark "::" rest || isMark "!" rest || isGroup .braces rest
      || isGroup .parentheses rest || isMark ".." rest)
    || isWord "self" tokens && isMark "::" rest
    || isMark "::" tokens || isMark "<" tokens
    || (nextWord? tokens).any ["Self", "super", "crate"].contains

/-- What may begin a pattern, given what comes next: where three dots do, two are not named. -/
def patternParts (tokens : List Token) : List String :=
  ["identifier", "`::`", "`<`", "`_`", "literal", "`const`", "`ref`", "`mut`", "`&`",
    "parentheses", "square brackets"] ++ (if isMark ".." tokens then [] else ["`..`"])
    ++ ["`const`"]

/-- Reads a pattern without alternatives. -/
def readPattern (g : Grammar) : Reader PatternKind := do
  let tokens := (← get).rest
  if beginsPatternPath tokens then g.patternPath
  else if isWord "_" tokens then
    keep 1
    return .other
  else if isWord "box" tokens then
    verbatim do
      keep 1
      let _ ← g.pattern
    return .kept
  else if isMark "-" tokens || isLiteral tokens || isWord "const" tokens then
    let _ ← g.patternBound
    if ← peek (isMark "..") then g.patternRange else return .other
  else if (nextWord? tokens).any ["ref", "mut", "self"].contains || isName tokens then
    g.patternName
    return .other
  else if isMark "&" tokens then
    mark "&"
    let _ ← word? "mut"
    let _ ← g.pattern
    return .other
  else if isGroup .parentheses tokens then
    inGroup .parentheses (separated (discard g.alternatives))
    return .other
  else if isGroup .brackets tokens then
    inGroup .brackets (separated g.patternElement)
    return .other
  else if isMarkBut ".." ["..."] tokens then g.patternUpTo
  else expect (patternParts tokens)

end Grammar

end RecordSql.Derive
