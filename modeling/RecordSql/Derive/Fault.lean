import RecordSql.Derive.Token

/-!
# Faults of a declaration

What can be wrong with the declaration of a type: its form, the place or the form of an attribute,
or the grammar inside an attribute. Each cause has the text that is shown for it.
-/

set_option autoImplicit false

namespace RecordSql.Derive

/-- A breach of the grammar. `atEnd` tells whether nothing was left to read where it happened. -/
inductive GrammarFault where
  /-- None of some parts is there. -/
  | expected (parts : List String) (atEnd : Bool)
  /-- A keyword stands where a name is expected. -/
  | keyword (text : String)
  /-- What was read is not allowed for a reason. -/
  | refused (reason : String) (atEnd : Bool)
  /-- Something is left over, in brackets or outside of them. -/
  | leftover (inside : Option Delimiter)
deriving DecidableEq

/-- What a message says of parts of which one is expected. -/
def expectation : List String → String
  | [] => "unexpected token"
  | [part] => "expected " ++ part
  | [part, other] => "expected " ++ part ++ " or " ++ other
  | parts => "expected one of: " ++ ", ".intercalate parts

/-- A message for a place in the text. -/
def located (atEnd : Bool) (message : String) : String :=
  if atEnd then "unexpected end of input, " ++ message else message

/-- The text that is shown for a breach of the grammar. -/
def GrammarFault.message : GrammarFault → String
  | .expected [] true => "unexpected end of input"
  | .expected parts atEnd => located atEnd (expectation parts)
  | .keyword text => "expected identifier, found keyword `" ++ text ++ "`"
  | .refused reason atEnd => located atEnd reason
  | .leftover none => "unexpected token"
  | .leftover (some delimiter) =>
    "unexpected token, expected `" ++ String.ofList [delimiter.closing] ++ "`"

/-- A cause for which a declaration is refused. -/
inductive Fault where
  /-- The declaration is no struct. -/
  | notStruct
  /-- The fields of the struct have no names. -/
  | unnamedFields
  /-- An attribute of ours stands by itself. -/
  | bareAttribute
  /-- An attribute of ours has a value where its arguments belong. -/
  | valueForArguments
  /-- The attribute of a type is read and names no table. -/
  | noTable
  /-- The attribute of a field is no single string. -/
  | noTag
  /-- A field has a second attribute of ours. -/
  | repeatedTag
  /-- The arguments of the attribute of a type breach the grammar. -/
  | grammar (fault : GrammarFault)
deriving DecidableEq

/-- The text that is shown for a fault. -/
def Fault.message : Fault → String
  | .notStruct => "Model can only be derived for structs"
  | .unnamedFields => "Model can only be derived for structs with named fields"
  | .bareAttribute => "expected attribute arguments in parentheses: #[orm(...)]"
  | .valueForArguments => "expected parentheses: #[orm(...)]"
  | .noTable => "expected #[orm(table = \"...\")]"
  | .noTag => "expected a tag string, e.g. #[orm(\"column=name\")]"
  | .repeatedTag => "duplicate #[orm(...)] attribute"
  | .grammar fault => fault.message

end RecordSql.Derive
