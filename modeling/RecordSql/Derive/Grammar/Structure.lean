import RecordSql.Derive.Grammar.Expression
import RecordSql.Derive.Grammar.Generic

/-!
# Structures

What a declared structure holds: its fields, or the variants that it is one of. Who may use a
variant is not written.
-/

set_option autoImplicit false

namespace RecordSql.Derive

open Reader

/-- Reads who may use a declaration, and tells whether that is said. -/
def visibility : Reader Bool := do
  if ← word? "pub" then
    match (← get).rest with
    | .group .parentheses (.word "in" :: _) :: _ =>
      inGroup .parentheses do
        word "in"
        discard path
    | .group .parentheses [.word place] :: _ =>
      if ["crate", "self", "super"].contains place then keep 1
    | _ => pure ()
    return true
  else return false

namespace Grammar

/-- Reads the type of a field, given whether the field has no name and how fields between braces
are read: a field without a name may hold fields of its own, which are written as they stand. -/
def fieldTypeWith (g : Grammar) (isBlank : Bool) (fields : Reader Unit) : Reader Unit := do
  let tokens := (← get).rest
  if isBlank
      && (isWord "struct" tokens || isWord "union" tokens && isGroup .braces (tokens.drop 1)) then
    verbatim do
      keep 1
      fields
  else discard (g.type true)

/-- Reads fields with names between braces, nested up to a depth. -/
def namedFieldsUpTo (g : Grammar) : Nat → Reader Unit
  | 0 => expect []
  | depth + 1 => inGroup .braces <| separated do
    g.attributes
    let _ ← visibility
    let isBlank ← word? "_"
    if !isBlank then name
    mark ":"
    g.fieldTypeWith isBlank (g.namedFieldsUpTo depth)

/-- Reads fields with names between braces. -/
def namedFields (g : Grammar) : Reader Unit := do
  g.namedFieldsUpTo (sizeOfAll (← get).rest + 1)

/-- Reads the type of a field, given whether the field has no name. -/
def fieldType (g : Grammar) (isBlank : Bool) : Reader Unit := g.fieldTypeWith isBlank g.namedFields

/-- Reads fields without names between parentheses. -/
def unnamedFields (g : Grammar) : Reader Unit := inGroup .parentheses <| separated do
  g.attributes
  let _ ← visibility
  let _ ← g.type true

/-- Reads a variant with its fields and its number. -/
def variant (g : Grammar) : Reader Unit := do
  g.attributes
  let _ ← capture visibility
  name
  if ← peek (isGroup .braces) then g.namedFields
  else if ← peek (isGroup .parentheses) then g.unnamedFields
  if ← mark? "=" then g.expr

/-- Reads what follows the fields of a struct without names. -/
def endOfTuple (g : Grammar) : Reader Unit := do
  let hasCondition ← g.whereClause
  if ← peek (isMark ";") then mark ";"
  else expect (if hasCondition then ["`;`"] else ["`where`", "`;`"])

/-- Reads a struct of any form. -/
def structItem (g : Grammar) : Reader Unit := do
  word "struct"
  name
  g.declaredGenerics
  let hasCondition ← g.whereClause
  let tokens := (← get).rest
  if !hasCondition && isGroup .parentheses tokens then
    g.unnamedFields
    g.endOfTuple
  else if isGroup .braces tokens then g.namedFields
  else if isMark ";" tokens then mark ";"
  else expect ((if hasCondition then [] else ["`where`", "parentheses"]) ++ ["curly braces", "`;`"])

/-- Reads an enumeration. -/
def enumItem (g : Grammar) : Reader Unit := do
  word "enum"
  name
  g.declaredGenerics
  let _ ← g.whereClause
  inGroup .braces (separated g.variant)

/-- Reads a union. -/
def unionItem (g : Grammar) : Reader Unit := do
  word "union"
  name
  g.declaredGenerics
  let _ ← g.whereClause
  g.namedFields

end Grammar

end RecordSql.Derive
