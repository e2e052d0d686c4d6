import RecordSql.Derive.Grammar.Signature
import RecordSql.Derive.Grammar.Structure

/-!
# Members of traits, implementations and foreign blocks

The functions, types and constants that belong to something else. What goes beyond the usual form
of a member is written as it stands.
-/

set_option autoImplicit false

namespace RecordSql.Derive

open Reader

/-- Whether a call of generated code may come next that stands for declarations. -/
def beginsMacroItem (tokens : List Token) : Bool :=
  isName tokens || (nextWord? tokens).any ["self", "super", "crate"].contains || isMark "::" tokens

/-- What may begin a call of generated code that stands for declarations. -/
def macroItemParts : List String := ["identifier", "`self`", "`super`", "`crate`", "`::`"]

/-- Whether the bounds of a declared type end. -/
def endsTypeBounds (tokens : List Token) : Bool :=
  isWord "where" tokens || isMark "=" tokens || isMark ";" tokens

/-- Reads a call of generated code that stands for declarations. -/
def macroItem : Reader Unit := do
  let _ ← path
  mark "!"
  let isBraced ← peek (isGroup .braces)
  anyGroup
  if !isBraced then mark ";"

/-- What is said of a declared type or constant. -/
structure Declared where
  /-- Whether it is restricted more than usual: a type by bounds, a constant by parameters or
  conditions. -/
  isRestricted : Bool
  /-- Whether it is given. -/
  isGiven : Bool

namespace Grammar

/-- Reads the declaration of a type, given whether a where clause may stand before its definition
and whether one may stand behind. -/
def typeItem (g : Grammar) (whereBefore whereBehind : Bool) : Reader Declared := do
  word "type"
  name
  g.declaredGenerics
  let isRestricted ← afterColon? (g.boundsUpTo true endsTypeBounds)
  let hasCondition ← if whereBefore then g.whereClause else pure false
  let isGiven ← mark? "="
  if isGiven then discard (g.type true)
  if whereBehind && !hasCondition then discard g.whereClause
  mark ";"
  return ⟨isRestricted, isGiven⟩

/-- Reads the declaration of a constant. -/
def constantItem (g : Grammar) : Reader Declared := do
  word "const"
  if ← peek fun tokens => isName tokens || isWord "_" tokens then keep 1
  else expect ["identifier", "`_`"]
  let isGeneric ← peek (isMark "<")
  g.declaredGenerics
  mark ":"
  let _ ← g.type true
  let isGiven ← mark? "="
  if isGiven then g.expr
  let hasCondition ← g.whereClause
  mark ";"
  return ⟨isGeneric || hasCondition, isGiven⟩

/-- Reads a member of an implementation. A member without a value, a type with bounds and a
constant with parameters are written as they stand. -/
def implMember (g : Grammar) : Reader Unit := verbatimIf do
  g.attributes
  let isPublic ← visibility
  let saysDefault ← peek (isWord "default")
  let isDefault := saysDefault && !(← peekBehind 1 (isMark "!"))
  if isDefault then keep 1
  let tokens := (← get).rest
  let mayBeMacro := !isPublic && !isDefault
  if beginsSignature false tokens then
    let _ ← g.signature false
    if ← mark? ";" then return ((), true)
    g.attributedBlock
    return ((), false)
  else if isWord "const" tokens then
    let constant ← g.constantItem
    return ((), constant.isRestricted || !constant.isGiven)
  else if isWord "type" tokens then
    let type ← g.typeItem false true
    return ((), type.isRestricted || !type.isGiven)
  else if mayBeMacro && beginsMacroItem tokens then
    macroItem
    return ((), false)
  else expect ((if saysDefault then [] else ["`default`"]) ++ ["`fn`", "`const`", "`type`"]
    ++ if mayBeMacro then macroItemParts else [])

/-- Reads a member of a trait. A constant with parameters is written as it stands, and so is a
member of which it is said who may use it or that it is a default. -/
def traitMember (g : Grammar) : Reader Unit := verbatimIf do
  g.attributes
  let isPublic ← visibility
  let isDefault ← word? "default"
  let tokens := (← get).rest
  let behind := tokens.drop 1
  let isSpecial := isPublic || isDefault
  let isFunction := ["async", "unsafe", "extern", "fn"].any (isWord · behind)
  if beginsSignature false tokens || isWord "const" tokens && isFunction then
    let _ ← g.signature false
    if ← peek (isGroup .braces) then g.attributedBlock
    else if ← peek (isMark ";") then mark ";"
    else expect ["curly braces", "`;`"]
    return ((), isSpecial)
  else if isWord "const" tokens then
    if !(isName behind || isWord "_" behind) then
      keep 1
      expect ["identifier", "`_`", "`async`", "`unsafe`", "`extern`", "`fn`"]
    let constant ← g.constantItem
    return ((), isSpecial || constant.isRestricted)
  else if isWord "type" tokens then
    let _ ← g.typeItem false true
    return ((), isSpecial)
  else if !isSpecial && beginsMacroItem tokens then
    macroItem
    return ((), false)
  else expect (["`fn`", "`const`", "`type`"] ++ if isSpecial then [] else macroItemParts)

/-- Reads a variable of a foreign block behind what is said of its safety, and tells whether it has
a value. -/
def foreignStatic (g : Grammar) : Reader Bool := do
  word "static"
  let _ ← word? "mut"
  name
  mark ":"
  let _ ← g.type true
  let hasValue ← mark? "="
  if hasValue then g.expr
  mark ";"
  return hasValue

/-- Reads a member of a foreign block. A function with a body, a variable or a type that is given,
and what is said to be safe or unsafe without need are written as they stand. -/
def foreignMember (g : Grammar) : Reader Unit := verbatimIf do
  g.attributes
  let isPublic ← visibility
  let tokens := (← get).rest
  let isMarked := (isWord "unsafe" tokens || isWord "safe" tokens)
    && isWord "static" (tokens.drop 1)
  if beginsSignature true tokens then
    let isSafe ← g.signature true
    let hasBody ← peek (isGroup .braces)
    if hasBody then g.attributedBlock else mark ";"
    return ((), isSafe || hasBody)
  else if isWord "static" tokens || isMarked then
    if isMarked then keep 1
    let hasValue ← g.foreignStatic
    return ((), isMarked || hasValue)
  else if isWord "type" tokens then
    let type ← g.typeItem true true
    return ((), type.isRestricted || type.isGiven)
  else if !isPublic && beginsMacroItem tokens then
    macroItem
    return ((), false)
  else expect (["`fn`", "`static`", "`type`"] ++ if isPublic then [] else macroItemParts)

/-- Reads members between braces, behind attributes of the whole. -/
def members (g : Grammar) (member : Reader Unit) : Reader Unit := inGroup .braces do
  g.innerAttributes
  repeatWhile do
    if ← atEnd then return false
    member
    return true

end Grammar

end RecordSql.Derive
