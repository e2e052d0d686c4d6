import RecordSql.Derive.Grammar

/-!
# Attributes and blocks

What may stand before or inside many parts of the grammar: attributes, statements between braces,
and what the language itself provides.
-/

set_option autoImplicit false

namespace RecordSql.Derive

open Reader

/-- Attributes and the range that they belong to, which they put in parentheses. -/
def attributedRange (attributes range : List Token) : List Token :=
  if attributes.isEmpty then range else attributes ++ [.group .parentheses range]

/-- Whether something comes next that the language itself provides. -/
def beginsBuiltin (tokens : List Token) : Bool :=
  isWord "builtin" tokens && isMark "#" (tokens.drop 1)

namespace Grammar

/-- Reads what the language itself provides: a type or a value by its name, with arguments. -/
def builtin : Reader Unit := do
  word "builtin"
  mark "#"
  name
  if ← peek (isGroup .parentheses) then keep 1 else expect ["parentheses"]

/-- Reads the value of an attribute from its equals sign on. A single literal is a value; nothing
else may begin with an attribute. -/
def attributeValue (g : Grammar) : Reader Unit := do
  mark "="
  let tokens := (← get).rest
  if literalWidth? tokens == some tokens.length then keep tokens.length
  else if isMark "#" tokens && isGroup .brackets (tokens.drop 1) then
    refuse "unexpected attribute inside of attribute"
  else discard (g.expression true)

/-- Reads what stands between the brackets of an attribute. -/
def attributeContents (g : Grammar) : Reader Unit := do
  let _ ← attributePath
  if ← peek isAnyGroup then keep 1
  else if ← peek (isMarkBut "=" ["==", "=>"]) then g.attributeValue

/-- Reads the attributes of what follows. -/
def attributes (g : Grammar) : Reader Unit := repeatWhile do
  if ← mark? "#" then
    inGroup .brackets g.attributeContents
    return true
  else return false

/-- Reads the attributes of what surrounds them. -/
def innerAttributes (g : Grammar) : Reader Unit := repeatWhile do
  if (← peek (isMark "#")) && (← peekBehind 1 (isMark "!")) then
    keep 2
    inGroup .brackets g.attributeContents
    return true
  else return false

/-- Reads statements between braces. -/
def block (g : Grammar) : Reader Unit := inGroup .braces g.statements

/-- Reads statements between braces, attributes of the whole allowed before them. -/
def attributedBlock (g : Grammar) : Reader Unit := inGroup .braces do
  g.innerAttributes
  g.statements

end Grammar

end RecordSql.Derive
