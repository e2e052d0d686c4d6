import RecordSql.Text.Digits
import RecordSql.Text.Quoted

/-!
# Inspection trees

The text in which a structure shows its parts: `Name { part: text, part: text }` for named parts,
`Name(text, text)` for unnamed ones, and `[text, text]` for lists.
-/

set_option autoImplicit false

namespace RecordSql

/-- A structure as it shows itself. -/
inductive Inspection where
  /-- Text without parts. -/
  | atom (text : String)
  /-- A list. -/
  | list (items : List Inspection)
  /-- A name with unnamed parts; the name may be empty. -/
  | call (name : String) (items : List Inspection)
  /-- A name with named parts; `complete` tells whether all parts are shown. -/
  | struct (name : String) (parts : List (String × Inspection)) (complete : Bool)

namespace Inspection

/-- A text between quotes. -/
def quoted (s : String) : Inspection := .atom (quotedText s)

/-- A truth value. -/
def bool (b : Bool) : Inspection := .atom (if b then "true" else "false")

/-- A whole number. -/
def int (n : Int) : Inspection := .atom (decimalText n)

/-- What may be absent. -/
def option {α : Type} (inspect : α → Inspection) : Option α → Inspection
  | none => .atom "None"
  | some a => .call "Some" [inspect a]

mutual

/-- The text of a tree. -/
def render : Inspection → String
  | .atom text => text
  | .list items => "[" ++ ", ".intercalate (renderItems items) ++ "]"
  | .call name items => name ++ "(" ++ ", ".intercalate (renderItems items) ++ ")"
  | .struct name parts complete =>
    name ++ " \x7b " ++ ", ".intercalate (renderParts parts ++ if complete then [] else [".."])
      ++ " \x7d"

/-- The texts of a list of trees. -/
def renderItems : List Inspection → List String
  | [] => []
  | item :: items => render item :: renderItems items

/-- The texts of named parts. -/
def renderParts : List (String × Inspection) → List String
  | [] => []
  | (name, part) :: parts => (name ++ ": " ++ render part) :: renderParts parts

end

end Inspection

end RecordSql
