import RecordSql.Row.Decoding

/-!
# Settings

How a session decodes rows, how long it waits for an answer, when it calls an answer slow, and
how much of a statement it shows in its log.
-/

set_option autoImplicit false

namespace RecordSql

/-- The settings of a session. -/
structure Settings where
  /-- How rows are decoded. -/
  mode : DecodeMode
  /-- How long to wait for an answer; without a limit, as long as it takes. -/
  timeout : Option Duration
  /-- From when on an answer is called slow; without a threshold, never. -/
  slowThreshold : Option Duration
  /-- Whether statements are reported before they are sent. -/
  logsStatements : Bool
  /-- How many bytes of a statement are shown; without a limit, all. -/
  maxSqlLength : Option Nat
deriving DecidableEq

/-- Whether a place in a text, in bytes, is one between two characters or at an end. -/
def IsBorder (text : String) (place : Nat) : Prop := String.Pos.Raw.IsValid text ⟨place⟩

instance (text : String) (place : Nat) : Decidable (IsBorder text place) :=
  inferInstanceAs (Decidable (String.Pos.Raw.IsValid text ⟨place⟩))

namespace Settings

/-- The settings of a session that is given none. -/
def standard : Settings := ⟨.standard, none, none, true, some 1000⟩

/-- The longest beginning of a text that takes at most a number of bytes. -/
def takeBytes : Nat → List Char → List Char
  | _, [] => []
  | budget, c :: cs =>
    if c.utf8Size ≤ budget then c :: takeBytes (budget - c.utf8Size) cs else []

/-- A statement's text as the log shows it: text beyond the limit is cut off in front of the
character that crosses it, and three points stand in its place. -/
def shorten (settings : Settings) (sql : String) : String :=
  match settings.maxSqlLength with
  | none => sql
  | some limit =>
    if sql.utf8ByteSize ≤ limit then sql
    else String.ofList (takeBytes limit sql.toList ++ ['.', '.', '.'])

/-- The last border of a text that is not behind a place, looked for from there backwards; none if
the search were to pass the beginning. -/
def lastBorder? (text : String) (place : Nat) : Option Nat :=
  if IsBorder text place then some place
  else match place with
    | 0 => none
    | place + 1 => lastBorder? text place

/-- The text in front of a place; none if the place lies inside a character or behind the end. -/
def front? (text : String) (place : Nat) : Option String :=
  if h : String.Pos.Raw.IsValid text ⟨place⟩ then some (text.sliceTo ⟨⟨place⟩, h⟩).copy else none

/-- A statement's text as the log shows it, cut at the place that is found byte by byte; none if the
search passes the beginning, or ends inside a character. -/
def cut? (settings : Settings) (sql : String) : Option String :=
  match settings.maxSqlLength with
  | none => some sql
  | some limit =>
    if limit < sql.utf8ByteSize then do
      let place ← lastBorder? sql limit
      let front ← front? sql place
      return front ++ "..."
    else some sql

end Settings

end RecordSql
