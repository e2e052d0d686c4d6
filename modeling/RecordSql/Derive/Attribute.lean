import RecordSql.Derive.Grammar.Statement

/-!
# Attributes of a declaration

The attributes of a declared type and of its fields that say where records are stored: on the
type `orm(table = "name")`, on a field `orm("settings")`. Attributes of any other path are none
of ours.
-/

set_option autoImplicit false

namespace RecordSql.Derive

open Reader

/-- What follows the path of an attribute. -/
inductive AttributeBody where
  /-- Nothing. -/
  | nothing
  /-- An equals sign and a value. -/
  | value
  /-- Arguments between brackets of some kind. -/
  | arguments (tokens : List Token)

/-- An attribute of a declaration. -/
structure Attribute where
  /-- The path. -/
  path : Path
  /-- What follows the path. -/
  body : AttributeBody

namespace Reader

/-- Reads an attribute between its brackets. Its value or its arguments are kept as they stand. -/
def attributeContents : Reader Attribute := do
  let path ← attributePath
  match (← get).rest with
  | .group _ tokens :: _ =>
    keep 1
    return ⟨path, .arguments tokens⟩
  | .mark '=' _ :: rest =>
    keep (rest.length + 1)
    return ⟨path, .value⟩
  | _ => return ⟨path, .nothing⟩

/-- Reads attributes, `limit` at most. -/
def attributesUpTo : Nat → Reader (List Attribute)
  | 0 => return []
  | limit + 1 => do
    if ← mark? "#" then
      let first ← inGroup .brackets attributeContents
      return first :: (← attributesUpTo limit)
    else return []

/-- Reads the attributes of what follows. -/
def attributes : Reader (List Attribute) := do attributesUpTo ((← get).rest.length + 1)

end Reader

/-- The body of an attribute that is ours. -/
def Attribute.ourBody? (a : Attribute) : Option AttributeBody :=
  if a.path.isName "orm" then some a.body else none

/-- Reads a path and a value for it. -/
def Grammar.namedValue (g : Grammar) : Reader Unit := do
  let _ ← attributePath
  g.attributeValue

/-- What is wrong with arguments that are not a string for the name of a table. -/
def argumentsFault (arguments : List Token) : Fault :=
  match Reader.run (Grammar.reading arguments).namedValue arguments with
  | .error fault => .grammar fault
  | .ok _ => .noTable

/-- The name of a table that the arguments of an attribute give. -/
def readTable : List Token → Except Fault String
  | [.word "table", .mark '=' _, .literal _ (.string value)] => .ok value
  | arguments => .error (argumentsFault arguments)

/-- The name of a table that a type gives. Only the first attribute that is ours counts. -/
def tableOf : List Attribute → Except Fault (Option String)
  | [] => .ok none
  | a :: attributes =>
    match a.ourBody? with
    | none => tableOf attributes
    | some .nothing => .error .bareAttribute
    | some .value => .error .valueForArguments
    | some (.arguments tokens) => (readTable tokens).map some

/-- The settings that the attribute of a field gives: its only argument, a string. -/
def readTag : AttributeBody → Except Fault String
  | .arguments [.literal _ (.string value)] => .ok value
  | _ => .error .noTag

/-- The settings of a field, given those that an attribute before gave. A second attribute that is
ours is refused before it is read. -/
def tagOf (found : Option String) : List Attribute → Except Fault (Option String)
  | [] => .ok found
  | a :: attributes =>
    match a.ourBody? with
    | none => tagOf found attributes
    | some body =>
      if found.isSome then .error .repeatedTag
      else match readTag body with
        | .error fault => .error fault
        | .ok tag => tagOf (some tag) attributes

end RecordSql.Derive
