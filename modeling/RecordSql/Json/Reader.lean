import RecordSql.Json.Token

/-!
# Reading JSON

A reader that takes one token at a time. Its state holds the containers that are still open,
innermost first, so that the depth of nesting is the length of a list and reading a text is one
fold over its tokens.
-/

set_option autoImplicit false

namespace RecordSql.Json

/-- A container that is still open. -/
inductive Container where
  /-- A list with the items read so far, last first. -/
  | array (items : List Json)
  /-- An object with the members read so far and the name of the one being read. -/
  | object (members : List (String × Json)) (name : String)

/-- What a reader waits for. -/
inductive Reader where
  /-- A value; right after an opening bracket the list may also end. -/
  | value (mayEnd : Bool) (opened : List Container)
  /-- The name of a member; right after an opening brace the object may also end. -/
  | name (mayEnd : Bool) (members : List (String × Json)) (opened : List Container)
  /-- The colon after a name. -/
  | colon (members : List (String × Json)) (name : String) (opened : List Container)
  /-- A comma or the end of the list with these items. -/
  | afterItem (items : List Json) (opened : List Container)
  /-- A comma or the end of the object with these members. -/
  | afterMember (members : List (String × Json)) (opened : List Container)
  /-- Nothing more. -/
  | finished (value : Json)

/-- How many containers may be open at once. -/
def depthLimit : Nat := 127

namespace Reader

/-- The reader after a complete value. -/
def complete (value : Json) : List Container → Reader
  | [] => .finished value
  | .array items :: opened => .afterItem (value :: items) opened
  | .object members key :: opened => .afterMember (insertMember key value members) opened

/-- The reader after one more token, if the token may stand here. -/
def step : Reader → Token → Option Reader
  | .value _ opened, .scalar v => some (complete v opened)
  | .value _ opened, .string s => some (complete (.string s) opened)
  | .value _ opened, .arrayStart =>
    if opened.length < depthLimit then some (.value true (.array [] :: opened)) else none
  | .value _ opened, .objectStart =>
    if opened.length < depthLimit then some (.name true [] opened) else none
  | .value true (.array [] :: opened), .arrayEnd => some (complete (.array []) opened)
  | .name _ members opened, .string s => some (.colon members s opened)
  | .name true members opened, .objectEnd => some (complete (.object members) opened)
  | .colon members key opened, .colon =>
    some (.value false (.object members key :: opened))
  | .afterItem items opened, .comma => some (.value false (.array items :: opened))
  | .afterItem items opened, .arrayEnd => some (complete (.array items.reverse) opened)
  | .afterMember members opened, .comma => some (.name false members opened)
  | .afterMember members opened, .objectEnd => some (complete (.object members) opened)
  | _, _ => none

/-- The value of a reader that waits for nothing more. -/
def value? : Reader → Option Json
  | .finished v => some v
  | _ => none

end Reader

/-- The value that a text stands for, if it is JSON. -/
def read? (text : String) : Option Json := do
  let tokens ← tokens? text
  let reader ← tokens.foldlM Reader.step (.value false [])
  reader.value?

end RecordSql.Json
