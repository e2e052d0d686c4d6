import RecordSql.Derive.Attribute
import RecordSql.Derive.Generics

/-!
# Declarations

The declaration of a type and how it is read from its text. Fields, generic parameters and a where
clause count only for a struct with named fields; of other forms nothing but the form is looked
at.
-/

set_option autoImplicit false

namespace RecordSql.Derive

/-- The forms of declarations. -/
inductive Form where
  | struct | tuple | unit | enumeration | union
deriving DecidableEq

/-- A field of a declared type. -/
structure Field where
  /-- The name, with the mark of a raw name if it has one. -/
  ident : String
  /-- The type, without blanks. -/
  type : String
  /-- The attributes. -/
  attributes : List Attribute

/-- A declared type. -/
structure Declaration where
  /-- The form of the declaration. -/
  form : Form
  /-- The name, with the mark of a raw name if it has one. -/
  name : String
  /-- The attributes. -/
  attributes : List Attribute
  /-- The generic parameters, each with whether a comma follows it. -/
  parameters : List (Parameter × Bool)
  /-- The where clause, without blanks, if it restricts anything. -/
  whereClause : Option String
  /-- The fields in order. -/
  fields : List Field

open Reader

namespace Grammar

/-- Reads a name and gives it. -/
def declaredName : Reader String := do
  let text? := nextWord? (← get).rest
  name
  return text?.getD ""

/-- Reads a field. -/
def field (g : Grammar) : Reader Field := do
  let attributes ← Reader.attributes
  let _ ← visibility
  let isBlank ← word? "_"
  let ident ← if isBlank then pure "_" else declaredName
  mark ":"
  let ((), type) ← capture (g.fieldType isBlank)
  return ⟨ident, joined type, attributes⟩

/-- Reads fields with commas between them up to the end, `limit` at most. -/
def fields (g : Grammar) : Nat → Reader (List Field)
  | 0 => return []
  | limit + 1 => do
    if ← atEnd then return []
    let first ← g.field
    if ← atEnd then return [first]
    mark ","
    return first :: (← g.fields limit)

/-- Reads what is left of a declaration of which only the form counts. -/
def formOnly (form : Form) (name : String) (attributes : List Attribute) :
    Reader Declaration := do
  keep (← get).rest.length
  return ⟨form, name, attributes, [], none, []⟩

/-- Reads the declaration of a struct behind its attributes and the word for its form. -/
def structDeclaration (g : Grammar) (attributes : List Attribute) : Reader Declaration := do
  let name ← declaredName
  let parameters ← g.generics
  let condition ← g.whereText?
  let tokens := (← get).rest
  if isGroup .braces tokens then
    let fields ← inGroup .braces do g.fields ((← get).rest.length + 1)
    return ⟨.struct, name, attributes, parameters, condition, fields⟩
  else if isGroup .parentheses tokens then formOnly .tuple name attributes
  else formOnly .unit name attributes

/-- Reads a declaration. -/
def declaration (g : Grammar) : Reader Declaration := do
  let attributes ← Reader.attributes
  let _ ← visibility
  if ← word? "struct" then g.structDeclaration attributes
  else if ← word? "enum" then formOnly .enumeration (← declaredName) attributes
  else
    word "union"
    formOnly .union (← declaredName) attributes

end Grammar

/-- The declaration that a text is. -/
def Declaration.read? (text : String) : Option Declaration := do
  let tokens ← tokens? text
  match Reader.run (Grammar.reading tokens).declaration tokens with
  | .ok (declared, _) => some declared
  | .error _ => none

end RecordSql.Derive
