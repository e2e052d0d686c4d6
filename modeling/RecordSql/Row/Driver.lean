import RecordSql.Row.Decoding

/-!
# Rows of any driver

A driver may deliver a row as it likes: it offers values to the targets of the columns in any order,
any number of times or not at all, is told of every value whether its target took it, and ends with
a result of its own. Its rows are known by what they report and by what the driver does when they
are scanned, and decoding them does what it does with the rows of a result set.
-/

set_option autoImplicit false

namespace RecordSql

/-- What a driver does with the targets of a row until it ends. -/
inductive Scanning (width : Nat) where
  /-- It ends, with a fault of its own if there is one. -/
  | ends (result : Except Fault Unit)
  /-- It offers a value to a target and goes on according to what the target says. -/
  | offers (place : Fin width) (value : Value) (next : Except Fault Unit → Scanning width)

/-- Offers the values of a scan to targets. A target that refuses a value changes nothing, and
whether that is the end of it is for the driver to say. -/
def Scanning.run {width : Nat} {σ : Type} (targets : Fin width → Target σ) :
    Scanning width → σ → Except Fault σ
  | .ends (.ok ()), state => .ok state
  | .ends (.error fault), _ => .error fault
  | .offers place value next, state =>
    match targets place value state with
    | .ok state => (next (.ok ())).run targets state
    | .error fault => (next (.error fault)).run targets state

/-- A row as a driver delivers it. -/
structure DrivenRow where
  /-- The names of the columns. -/
  columns : List String
  /-- What the driver does with a number of targets. -/
  scan : (width : Nat) → Scanning width

/-- The rows of a driver that come next. -/
structure DrivenRows where
  /-- The rows. -/
  rows : List DrivenRow
  /-- The fault that asking for one more row ends in, if it is not just the end of the rows. -/
  loss : Option Fault

namespace Table

variable {type : RecordType}

/-- Decodes a row into a new record. -/
def decodeDriven (t : Table type) (mode : DecodeMode) (row : DrivenRow) :
    Except Fault (Record type) :=
  match t.resolve row.columns with
  | .error fault => .error fault
  | .ok fields =>
    let targets := fun place : Fin fields.length => t.target mode (fields.get place) place
    match (row.scan fields.length).run targets
      ⟨Record.initial type, fields.map fun _ => none⟩ with
    | .error fault => .error fault
    | .ok scanned => t.assignSlots mode fields scanned.slots scanned.record

/-- Decodes rows until one fails, and then asks for one more. -/
def decodeEachDriven (t : Table type) (mode : DecodeMode) (loss : Option Fault) :
    List DrivenRow → Except Fault (List (Record type))
  | [] =>
    match loss with
    | some fault => .error fault
    | none => .ok []
  | row :: rows =>
    match t.decodeDriven mode row with
    | .error fault => .error fault
    | .ok record => (decodeEachDriven t mode loss rows).map (record :: ·)

/-- Decodes the first row, if one comes. -/
def decodeFirstDriven (t : Table type) (mode : DecodeMode) (rows : DrivenRows) :
    Except Fault (Option (Record type)) :=
  match rows.rows, rows.loss with
  | row :: _, _ => (t.decodeDriven mode row).map some
  | [], some fault => .error fault
  | [], none => .ok none

end Table

end RecordSql
