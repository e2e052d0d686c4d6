import RecordSql.Value.Basic
import RecordSql.Fault

/-!
# Drafts of statements

A statement is put together from pieces: fixed text, names between back-ticks, and placeholders
that carry the value bound to them. Text and arguments are two views of one list of pieces, so a
placeholder and its argument cannot come apart. A `Rendering` is what one step of the work
produced, up to the fault that stopped it.
-/

set_option autoImplicit false

namespace RecordSql

/-- A part of a statement. -/
inductive Piece where
  /-- Text that is taken as it is. -/
  | sql (text : String)
  /-- The name of a table or column, between back-ticks. -/
  | name (ident : String)
  /-- A placeholder with the value bound to it. -/
  | bind (value : Value)

namespace Piece

/-- The characters of a piece. -/
def chars : Piece → List Char
  | .sql text => text.toList
  | .name ident => '\x60' :: (ident.toList ++ ['\x60'])
  | .bind _ => ['?']

/-- The argument of a piece. -/
def arg? : Piece → Option Value
  | .bind value => some value
  | _ => none

end Piece

/-- The text of a statement and the arguments of its placeholders in their order. -/
structure Statement where
  /-- The text. -/
  sql : String
  /-- The arguments. -/
  args : List Value

/-- The pieces of a statement so far. -/
abbrev Draft := List Piece

namespace Draft

/-- The characters of a draft. -/
def chars (draft : Draft) : List Char := draft.flatMap Piece.chars

/-- The text of a draft. -/
def sql (draft : Draft) : String := String.ofList draft.chars

/-- The arguments of a draft. -/
def args (draft : Draft) : List Value := draft.filterMap Piece.arg?

/-- The statement that a draft amounts to. -/
def statement (draft : Draft) : Statement := ⟨draft.sql, draft.args⟩

end Draft

/-- What a step produced: pieces, and the fault that stopped it, if one did. -/
structure Rendering where
  /-- The pieces produced before the step ended. -/
  draft : Draft
  /-- What stopped the step. -/
  fault : Option Fault

namespace Rendering

/-- Nothing, successfully. -/
def empty : Rendering := ⟨[], none⟩

/-- One piece. -/
def piece (p : Piece) : Rendering := ⟨[p], none⟩

/-- Text that is taken as it is. -/
def sql (text : String) : Rendering := piece (.sql text)

/-- A name between back-ticks. -/
def name (ident : String) : Rendering := piece (.name ident)

/-- A placeholder with its value. -/
def bind (value : Value) : Rendering := piece (.bind value)

/-- Stops with a fault. -/
def fail (fault : Fault) : Rendering := ⟨[], some fault⟩

/-- One step after another; nothing comes after a fault. -/
def append (a b : Rendering) : Rendering :=
  match a.fault with
  | some fault => ⟨a.draft, some fault⟩
  | none => ⟨a.draft ++ b.draft, b.fault⟩

instance : Append Rendering := ⟨append⟩

/-- Steps in order with a text between them. -/
def separated (separator : String) : List Rendering → Rendering
  | [] => empty
  | r :: rs => rs.foldl (fun done next => done ++ sql separator ++ next) r

/-- Puts a step in parentheses if asked to. -/
def grouped (inGroup : Bool) (r : Rendering) : Rendering :=
  if inGroup then sql "(" ++ r ++ sql ")" else r

/-- The statement of a rendering that was not stopped. -/
def statement (r : Rendering) : Except Fault Statement :=
  match r.fault with
  | some fault => .error fault
  | none => .ok r.draft.statement

end Rendering

end RecordSql
