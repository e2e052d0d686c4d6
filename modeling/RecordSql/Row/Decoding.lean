import RecordSql.Row.Feed
import RecordSql.Schema.Table

/-!
# Decoding of rows

A row becomes a record: the columns that are reported say which fields are written, each cell is
converted into the kind of its field's column and then into the content of the field. A field is
either written in place, as soon as its cell is scanned, or its value waits in a slot until the
whole row was scanned. The two modes of decoding differ in which fields are written in place. They
also say how a field of a record is read again: in place, or by its getter.
-/

set_option autoImplicit false

namespace RecordSql

/-- How rows are decoded. -/
inductive DecodeMode where
  /-- No field is written in place. -/
  | safe
  /-- The fields that have a layout are written in place. -/
  | offset
deriving DecidableEq

/-- The mode of whoever asks for none. -/
def DecodeMode.standard : DecodeMode := .safe

/-- The name of a mode as settings give it. -/
def DecodeMode.label : DecodeMode → String
  | .safe => "Safe"
  | .offset => "Offset"

/-- Whether a mode writes and reads a field in place. -/
def DecodeMode.inPlace (mode : DecodeMode) (decl : FieldDecl) : Bool :=
  match mode with
  | .safe => false
  | .offset => decl.hasLayout

/-- A row while it is scanned: the record with the fields written in place so far, and for every
column the value that waits in its slot. -/
structure Scanned (type : RecordType) where
  /-- The record so far. -/
  record : Record type
  /-- The slots of the columns. -/
  slots : List (Option Value)

namespace Table

variable {type : RecordType}

/-- The fault of a value that does not fit a field. -/
def misfit (t : Table type) (i : type.Index) (m : Mismatch) : Fault :=
  .decode (t.column i) m.message

/-- The fault of a column that was reported and not delivered. -/
def notScanned (t : Table type) (i : type.Index) : Fault :=
  .decode (t.column i) "column was not scanned"

/-- Converts a cell into the kind of its field's column. -/
def convertCell (t : Table type) (i : type.Index) (cell : Value) : Except Fault Value :=
  match (type.field i).type.convert cell with
  | .ok value => .ok value
  | .error m => .error (t.misfit i m)

/-- Writes a converted value into a field. -/
def assign (t : Table type) (record : Record type) (i : type.Index) (value : Value) :
    Except Fault (Record type) :=
  match (type.field i).type.ofValue value with
  | .ok content => .ok (record.set i content)
  | .error m => .error (t.misfit i m)

/-- The target of the column number `place`, which belongs to the field `i`. -/
def target (t : Table type) (mode : DecodeMode) (i : type.Index) (place : Nat) :
    Target (Scanned type) :=
  fun cell scanned =>
    match t.convertCell i cell with
    | .error fault => .error fault
    | .ok value =>
      if mode.inPlace (type.field i) then
        match t.assign scanned.record i value with
        | .error fault => .error fault
        | .ok record => .ok { scanned with record := record }
      else .ok { scanned with slots := scanned.slots.set place (some value) }

/-- Writes the values that waited in slots into their fields, in the order of the columns. -/
def assignSlots (t : Table type) (mode : DecodeMode) :
    List type.Index → List (Option Value) → Record type → Except Fault (Record type)
  | i :: is, slot :: slots, record =>
    if mode.inPlace (type.field i) then assignSlots t mode is slots record
    else match slot with
      | none => .error (t.notScanned i)
      | some value =>
        match t.assign record i value with
        | .error fault => .error fault
        | .ok record => assignSlots t mode is slots record
  | _, _, record => .ok record

/-- The fields that reported columns belong to, or the first column that belongs to none. -/
def resolve (t : Table type) (columns : List String) : Except Fault (List type.Index) :=
  columns.mapM t.requireColumn

/-- Decodes the current row into a new record. -/
def decodeRow (t : Table type) (mode : DecodeMode) (feed : RowFeed) :
    Except Fault (Record type) × RowFeed :=
  match t.resolve feed.set.columns with
  | .error fault => (.error fault, feed)
  | .ok fields =>
    let targets := fields.zipIdx.map fun (i, place) => t.target mode i place
    let (scanned, feed) :=
      feed.scan targets ⟨Record.initial type, fields.map fun _ => none⟩
    match scanned with
    | .error fault => (.error fault, feed)
    | .ok scanned => (t.assignSlots mode fields scanned.slots scanned.record, feed)

/-- Decodes at most `limit` of the rows that come next. -/
def decodeUpTo (t : Table type) (mode : DecodeMode) :
    Nat → RowFeed → Except Fault (List (Record type)) × RowFeed
  | 0, feed => (.ok [], feed)
  | limit + 1, feed =>
    match feed.next with
    | (.error fault, feed) => (.error fault, feed)
    | (.ok false, feed) => (.ok [], feed)
    | (.ok true, feed) =>
      match t.decodeRow mode feed with
      | (.error fault, feed) => (.error fault, feed)
      | (.ok record, feed) =>
        match decodeUpTo t mode limit feed with
        | (.error fault, feed) => (.error fault, feed)
        | (.ok records, feed) => (.ok (record :: records), feed)

/-- Decodes all rows that come next. There are no more of them than rows, and one call beyond
them finds the end. -/
def decodeAll (t : Table type) (mode : DecodeMode) (feed : RowFeed) :
    Except Fault (List (Record type)) × RowFeed :=
  t.decodeUpTo mode (feed.set.rows.length + 1) feed

/-- The record that named cells make up, decoded from one row without writing in place. -/
def recordOfCells (t : Table type) (cells : List (String × Value)) : Except Fault (Record type) :=
  let set := ResultSet.ofRows (cells.map (·.1)) [cells.map (·.2)]
  (t.decodeRow .safe (.ofSet set.next.2)).1

/-- The value of the field with a name; there must be one. -/
def readField (t : Table type) (mode : DecodeMode) (record : Record type) (name : String) :
    Except Fault Value :=
  match t.requireField name with
  | .error fault => .error fault
  | .ok i =>
    if mode.inPlace (type.field i) then .ok (record.valueInPlace i) else .ok (record.value i)

end Table

end RecordSql
