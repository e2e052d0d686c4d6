import RecordSql.Fault

/-!
# Tags

The tag of a field is a list of settings: pieces joined by commas, each a key and a value joined
by one equals sign. Nothing is trimmed, and an empty piece is no setting.
-/

set_option autoImplicit false

namespace RecordSql

/-- The pieces of a text between the occurrences of a separator; at least one. -/
def pieces (separator : Char) : List Char → List (List Char)
  | [] => [[]]
  | c :: cs =>
    if c = separator then [] :: pieces separator cs
    else match pieces separator cs with
      | [] => [[c]]
      | first :: others => (c :: first) :: others

/-- A key and its value. -/
abbrev Setting := String × String

namespace Tag

/-- The setting that a piece of a tag spells. -/
def setting (piece : List Char) : Except Fault Setting :=
  match pieces '=' piece with
  | [key, value] => .ok (String.ofList key, String.ofList value)
  | _ => .error (.invalidTag (String.ofList piece))

/-- The settings of a tag in order, or the first piece that is none. -/
def parse (tag : String) : Except Fault (List Setting) :=
  (pieces ',' tag.toList).mapM setting

/-- The last value that a key is given. -/
def last? (key : String) (settings : List Setting) : Option String :=
  (settings.filter (·.1 == key)).getLast?.map (·.2)

/-- The key whose value names a column. -/
def columnKey : String := "column"

end Tag

end RecordSql
