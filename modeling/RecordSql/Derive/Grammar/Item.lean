import RecordSql.Derive.Grammar.Member

/-!
# Items

What a block or a module declares: functions, types, constants, traits, implementations, modules
and what is used from elsewhere. A reader of an item tells whether it is written as it stands,
which is so where its form is not one of the usual ones.
-/

set_option autoImplicit false

namespace RecordSql.Derive

open Reader

/-- What may begin an item behind who may use it, given whether that is said. -/
def itemParts (isPublic : Bool) (tokens : List Token) : List String :=
  let words := ["fn", "extern", "use", "static", "const", "unsafe", "mod", "type", "struct", "enum",
    "union", "trait", "auto", "impl", "default", "macro"]
  (words.filter fun text => !isWord text tokens).map quoted
    ++ if isPublic then [] else macroItemParts

/-! ## What is used from elsewhere -/

/-- Reads parts of what is used from elsewhere, with commas between them, `limit` at most. How a
part is read depends on whether a double colon may begin it; tells whether one begins any part. -/
def useTreesWith (tree : Bool → Reader Bool) (mayBeGlobal : Bool) : Nat → Reader Bool
  | 0 => return false
  | limit + 1 => do
    if ← atEnd then return false
    let isGlobal ← if mayBeGlobal then mark? "::" else pure false
    let hasGlobal ← tree (mayBeGlobal && !isGlobal)
    if ← atEnd then return isGlobal || hasGlobal
    mark ","
    let othersAre ← useTreesWith tree mayBeGlobal limit
    return isGlobal || hasGlobal || othersAre

/-- Reads what is used from elsewhere, nested up to a depth, given whether a double colon may begin
a part of it. Tells whether one does. -/
def useTree : Nat → Bool → Reader Bool
  | 0, _ => expect []
  | depth + 1, mayBeGlobal => do
    let tokens := (← get).rest
    if isName tokens || (nextWord? tokens).any ["self", "super", "crate", "try"].contains then
      keep 1
      if ← mark? "::" then useTree depth false
      else
        if ← word? "as" then
          if ← peek fun tokens => isName tokens || isWord "_" tokens then keep 1
          else refuse "expected identifier or underscore"
        return false
    else if isMark "*" tokens then
      mark "*"
      return false
    else if isGroup .braces tokens then
      inGroup .braces do
        useTreesWith (useTree depth) mayBeGlobal ((← get).rest.length + 1)
    else expect ["identifier", "`self`", "`super`", "`crate`", "`try`", "`*`", "curly braces"]

/-- Reads a declaration of what is used from elsewhere. -/
def useItem : Reader Bool := do
  word "use"
  let isGlobal ← mark? "::"
  let isVerbatim ← useTree (sizeOfAll (← get).rest + 1) !isGlobal
  mark ";"
  return isVerbatim

/-- Reads a declaration that another library is used. -/
def libraryItem : Reader Unit := do
  word "extern"
  word "crate"
  if ← peek (isWord "self") then keep 1 else name
  if ← word? "as" then
    if ← peek (isWord "_") then keep 1 else name
  mark ";"

/-! ## Generated code -/

/-- Reads a call of generated code that stands for items, with a name that it may declare. -/
def namedMacroItem : Reader Unit := do
  let _ ← path
  mark "!"
  if ← peek fun tokens => isName tokens || isWord "try" tokens then keep 1
  let isBraced ← peek (isGroup .braces)
  anyGroup
  if !isBraced then mark ";"

/-- Reads a declaration of how code is generated. -/
def macroDefinition : Reader Unit := do
  word "macro"
  name
  let hasArguments ← peek (isGroup .parentheses)
  if hasArguments then keep 1
  if ← peek (isGroup .braces) then keep 1
  else expect ((if hasArguments then [] else ["parentheses"]) ++ ["curly braces"])

namespace Grammar

/-! ## Functions and variables -/

/-- Reads a function. One without a body is written as it stands. -/
def functionItem (g : Grammar) : Reader Bool := do
  let _ ← g.signature false
  if ← mark? ";" then return true
  g.attributedBlock
  return false

/-- Reads a variable. One without a type or a value is written as it stands. -/
def staticItem (g : Grammar) : Reader Bool := do
  word "static"
  let _ ← word? "mut"
  name
  let hasType := !(← peek (isMark "="))
  if hasType then
    mark ":"
    let _ ← g.type true
    if ← mark? ";" then return true
  mark "="
  g.expr
  mark ";"
  return !hasType

/-! ## Traits and implementations -/

/-- Reads a trait behind its parameters. -/
def restOfTrait (g : Grammar) : Reader Unit := do
  let ends (tokens : List Token) : Bool := isWord "where" tokens || isGroup .braces tokens
  discard (afterColon? (g.boundsUpTo true ends))
  let _ ← g.whereClause
  g.members g.traitMember

/-- Reads a trait that may be unsafe or automatic. -/
def markedTrait (g : Grammar) : Reader Unit := do
  let _ ← word? "unsafe"
  let _ ← word? "auto"
  word "trait"
  name
  g.declaredGenerics
  g.restOfTrait

/-- Reads a trait, or another name for bounds. -/
def traitItem (g : Grammar) : Reader Unit := do
  word "trait"
  name
  g.declaredGenerics
  let tokens := (← get).rest
  if isGroup .braces tokens || isMark ":" tokens || isWord "where" tokens then g.restOfTrait
  else if isMark "=" tokens then
    mark "="
    g.boundsUpTo false fun tokens => isWord "where" tokens || isMark ";" tokens
    let _ ← g.whereClause
    mark ";"
  else expect ["curly braces", "`:`", "`where`", "`=`"]

/-- Reads what is implemented, and what for. Tells whether the implementation is written as it
stands because what is implemented is no path. A type that is denied is written as it stands. -/
def implementedType (g : Grammar) : Reader Bool := do
  let isPath ← verbatimIf do
    let isDenied := (← peek (isMark "!")) && !(← peekBehind 1 (isGroup .braces))
    if isDenied then mark "!"
    let kind ← g.type true
    let isFor ← peek (isWord "for")
    return ([.name, .path].contains kind, isDenied && !isFor)
  if ← word? "for" then
    let _ ← g.type true
    return !isPath
  else return false

/-- Reads an implementation. A constant one is written as it stands. -/
def implItem (g : Grammar) : Reader Bool := do
  let _ ← word? "default"
  let _ ← word? "unsafe"
  word "impl"
  if ← peek beginsParameters then g.declaredGenerics
  let tokens := (← get).rest
  let isConstant := isWord "const" tokens || isMark "?" tokens && isWord "const" (tokens.drop 1)
  if isConstant then
    let _ ← mark? "?"
    word "const"
  let isUnusual ← g.implementedType
  let _ ← g.whereClause
  g.members g.implMember
  return isConstant || isUnusual

/-! ## Modules and foreign blocks -/

/-- Reads a module. -/
def moduleItem (g : Grammar) : Reader Unit := do
  let _ ← word? "unsafe"
  word "mod"
  if ← peek (isWord "try") then keep 1 else name
  if ← peek (isMark ";") then mark ";"
  else if ← peek (isGroup .braces) then g.members g.item
  else expect ["`;`", "curly braces"]

/-- Reads a block of declarations from another language. It may not be said who may use it. -/
def foreignItem (g : Grammar) (isPublic : Bool) : Reader Unit := do
  if isPublic then throw (.expected [quoted "extern"] false)
  let _ ← word? "unsafe"
  convention
  g.members g.foreignMember

/-- Reads an item that begins with the word for another language but declares no function, given
whether it is said who may use it. -/
def externItem (g : Grammar) (isPublic : Bool) : Reader Unit := do
  let tokens := (← get).rest
  if isWord "crate" (tokens.drop 1) then libraryItem
  else if isGroup .braces (behindConvention tokens) then g.foreignItem isPublic
  else
    let ((), read) ← capture convention
    expect (if read.length = 1 then ["`crate`", "curly braces", "string literal"]
      else ["curly braces"])

/-- Reads an item that is said to be unsafe but declares no function, given whether it is said who
may use it. Tells whether it is written as it stands. -/
def unsafeItem (g : Grammar) (isPublic : Bool) : Reader Bool := do
  let second := (← get).rest.drop 1
  if isWord "trait" second || isWord "auto" second && isWord "trait" (second.drop 1) then
    g.markedTrait
    return false
  else if isWord "impl" second then return isPublic || (← g.implItem)
  else if isWord "extern" second then
    g.foreignItem isPublic
    return false
  else if isWord "mod" second then
    g.moduleItem
    return false
  else
    keep 1
    let words := ["trait", "auto", "impl", "extern", "mod"]
    expect ((words.filter fun text => !isWord text second).map quoted)

/-! ## All items -/

/-- Reads a structure, a trait or a module, if one comes next. -/
def usualItem? (g : Grammar) : Reader Bool := do
  let tokens := (← get).rest
  let second := tokens.drop 1
  if isWord "mod" tokens then g.moduleItem
  else if isWord "struct" tokens then g.structItem
  else if isWord "enum" tokens then g.enumItem
  else if isWord "union" tokens && isName second then g.unionItem
  else if isWord "trait" tokens then g.traitItem
  else if isWord "auto" tokens && isWord "trait" second then g.markedTrait
  else return false
  return true

/-- Reads an item behind its attributes, and tells whether it is written as it stands. -/
def restOfItem (g : Grammar) : Reader Bool := do
  let isPublic ← visibility
  let tokens := (← get).rest
  let second := tokens.drop 1
  if beginsSignature false tokens then g.functionItem
  else if isWord "extern" tokens then
    g.externItem isPublic
    return false
  else if isWord "use" tokens then useItem
  else if isWord "static" tokens then g.staticItem
  else if isWord "const" tokens then
    let constant ← g.constantItem
    return constant.isRestricted || !constant.isGiven
  else if isWord "unsafe" tokens then g.unsafeItem isPublic
  else if isWord "type" tokens then
    let type ← g.typeItem true false
    return type.isRestricted || !type.isGiven
  else if ← g.usualItem? then return false
  else if isWord "impl" tokens || isWord "default" tokens && !isMark "!" second then
    return isPublic || (← g.implItem)
  else if isWord "macro" tokens then
    macroDefinition
    return true
  else if !isPublic && beginsMacroItem tokens then
    namedMacroItem
    return false
  else expect (itemParts isPublic tokens)

/-- Reads an item with its attributes. -/
def readItem (g : Grammar) : Reader Unit := verbatimIf do
  g.attributes
  return ((), ← g.restOfItem)

end Grammar

end RecordSql.Derive
