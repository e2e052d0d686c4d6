import RecordSql.Value.Basic
import RecordSql.Fault
import RecordSql.Text.Digits

/-!
# Result sets

The rows that answer a query, held in memory, with a cursor that stands before the first row, on
a row, or behind the last. Scanning moves the values of the current row out of it, one to each
target; what was moved leaves NULL behind.
-/

set_option autoImplicit false

namespace RecordSql

/-- The rows of an answer under the names of their columns. -/
structure ResultSet where
  /-- The names of the columns. -/
  columns : List String
  /-- The rows, whose widths nothing guarantees. -/
  rows : List (List Value)
  /-- The number of the current row; none before the first. -/
  cursor : Option Nat

/-- Where a scanned value goes: a target takes the value into a state, or refuses it. -/
abbrev Target (σ : Type) : Type := Value → σ → Except Fault σ

namespace ResultSet

/-- A result set before its first row. -/
def ofRows (columns : List String) (rows : List (List Value)) : ResultSet := ⟨columns, rows, none⟩

/-- Adds a row behind all others. -/
def pushRow (set : ResultSet) (row : List Value) : ResultSet :=
  { set with rows := set.rows ++ [row] }

/-- The number of the row that comes next. -/
def nextRow (set : ResultSet) : Nat :=
  match set.cursor with
  | none => 0
  | some row => row + 1

/-- Moves on to the next row, but not beyond the place behind the last; tells whether there is
a row. -/
def next (set : ResultSet) : Bool × ResultSet :=
  (decide (set.nextRow < set.rows.length),
    { set with cursor := some (min set.nextRow set.rows.length) })

/-- The number of the current row and its cells. -/
def current (set : ResultSet) : Except Fault (Nat × List Value) :=
  match set.cursor with
  | none => .error (.executor "scan called before next")
  | some i =>
    match set.rows[i]? with
    | none => .error (.executor "scan called after the last row")
    | some row => .ok (i, row)

/-- The fault of a row whose width is not that of the columns. -/
def wrongWidth (cells columns : Nat) : Fault :=
  .executor ("row has " ++ decimalText cells ++ " values for " ++ decimalText columns ++ " columns")

/-- The fault of a scan with another number of targets than columns. -/
def wrongTargets (columns targets : Nat) : Fault :=
  .executor ("expected " ++ decimalText columns ++ " scan destinations, got "
    ++ decimalText targets)

/-- Gives cells to targets in order until one refuses; the cells given become NULL, that of the
refusing target included. -/
def deliver {σ : Type} : List (Target σ) → List Value → σ → Except Fault σ × List Value
  | target :: targets, cell :: cells, state =>
    match target cell state with
    | .error fault => (.error fault, .null :: cells)
    | .ok state =>
      let (result, rest) := deliver targets cells state
      (result, .null :: rest)
  | _, cells, state => (.ok state, cells)

/-- Moves the cells of the current row into targets, one for each column. -/
def scan {σ : Type} (set : ResultSet) (targets : List (Target σ)) (state : σ) :
    Except Fault σ × ResultSet :=
  match set.current with
  | .error fault => (.error fault, set)
  | .ok (i, row) =>
    if row.length ≠ set.columns.length then
      (.error (wrongWidth row.length set.columns.length), set)
    else if targets.length ≠ set.columns.length then
      (.error (wrongTargets set.columns.length targets.length), set)
    else
      let (result, cells) := deliver targets row state
      (result, { set with rows := set.rows.set i cells })

end ResultSet

end RecordSql
