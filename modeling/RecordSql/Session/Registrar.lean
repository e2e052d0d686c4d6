import RecordSql.Schema.Catalog
import RecordSql.Session.LogEvent

/-!
# Registrars

A registrar answers for record types whose declarations may change: a type that was registered
keeps the table it was registered with, and one that is asked for later gets the table of its
newest declaration. It counts how often the declaration of each type was read.
-/

set_option autoImplicit false

namespace RecordSql

/-- A record type together with its table. -/
structure TypedTable where
  /-- The record type. -/
  type : RecordType
  /-- Its table. -/
  table : Table type

/-- Whether finding the table of a type reads its fields: those of any other form are not. -/
def RecordType.readsFields (type : RecordType) : Bool := decide (type.shape = .record)

/-- A catalog of tables with the declarations they are made from. -/
structure Registrar (κ : Type) where
  /-- The tables. -/
  catalog : Catalog κ fun _ => TypedTable
  /-- The newest declarations. -/
  types : κ → RecordType
  /-- How often the fields of each type were read. -/
  reads : κ → Nat
  /-- How many other catalogs were made. -/
  others : Nat

/-- What one question to a registrar comes to. -/
structure Registrar.Turn (κ α : Type) where
  /-- The result. -/
  result : Except Fault α
  /-- The registrar afterwards. -/
  registrar : Registrar κ
  /-- What was logged. -/
  events : List LogEvent

namespace Registrar

variable {κ : Type} [DecidableEq κ]

/-- A registrar that was asked nothing yet. -/
def start (types : κ → RecordType) : Registrar κ := ⟨.empty 0, types, fun _ => 0, 0⟩

/-- The table of a declaration. -/
def typedTable (type : RecordType) : Except Fault TypedTable :=
  (Table.ofType type).map fun table => ⟨type, table⟩

/-- Counts the reading of a type's fields, which happens unless its table was found. -/
def count {α : Type} (r : Registrar κ) (key : κ) (access : Access α) : Registrar κ :=
  match access with
  | .found _ => r
  | .added _ | .refused _ =>
    if (r.types key).readsFields then
      { r with reads := fun k => if k = key then r.reads k + 1 else r.reads k }
    else r

/-- The events of an access. -/
def eventsOf : Access TypedTable → List LogEvent
  | .added held =>
    [.registered held.item.type.name held.item.table.name held.item.type.fields.length]
  | .found _ | .refused _ => []

/-- Asks for the table of a type. -/
def get (r : Registrar κ) (key : κ) : Turn κ (Held TypedTable) :=
  let (access, catalog) := r.catalog.get key (typedTable (r.types key))
  ⟨access.result, { r.count key access with catalog := catalog }, eventsOf access⟩

/-- Asks for the table of the type of a record, which must be there. -/
def describe (r : Registrar κ) (key : κ) (isPresent : Bool) : Turn κ (Held TypedTable) :=
  if isPresent then r.get key else ⟨.error .missingRecord, r, []⟩

/-- Whether two tables are one and the same. -/
def isSame (a b : Held TypedTable) : Bool := a.stamp == b.stamp && a.place == b.place

/-- Asks twice for the table of a type, and tells whether it was one and the same. -/
def getTwice (r : Registrar κ) (key : κ) : Turn κ Bool :=
  let first := r.get key
  match first.result with
  | .error fault => ⟨.error fault, first.registrar, first.events⟩
  | .ok a =>
    let second := first.registrar.get key
    ⟨second.result.map (isSame a), second.registrar, first.events ++ second.events⟩

/-- Asks for the table of a type, and then for the one that a new catalog has of it. -/
def getFresh (r : Registrar κ) (key : κ) : Turn κ (Held TypedTable × Held TypedTable) :=
  let here := r.get key
  match here.result with
  | .error fault => ⟨.error fault, here.registrar, here.events⟩
  | .ok a =>
    let r := here.registrar
    let other : Catalog κ fun _ => TypedTable := .empty (r.others + 1)
    let (access, _) := other.get key (typedTable (r.types key))
    ⟨access.result.map fun b => (a, b), { r.count key access with others := r.others + 1 },
      here.events ++ eventsOf access⟩

/-- Lets a number of callers ask for the table of a type, and gives what they were told. The
callers' steps may mix in any order; the answers are those of asking one after another. -/
def getMany (r : Registrar κ) (key : κ) : Nat → Turn κ (List (Held TypedTable))
  | 0 => ⟨.ok [], r, []⟩
  | callers + 1 =>
    let first := r.get key
    let others := first.registrar.getMany key callers
    let result := match first.result, others.result with
      | .error fault, _ => .error fault
      | .ok _, .error fault => .error fault
      | .ok a, .ok held => .ok (a :: held)
    ⟨result, others.registrar, first.events ++ others.events⟩

/-- Whether all callers were told one and the same table. -/
def allSame : List (Held TypedTable) → Bool
  | [] => true
  | a :: held => held.all (isSame a)

/-- Declares a type anew. -/
def redefine (r : Registrar κ) (key : κ) (type : RecordType) : Registrar κ :=
  { r with types := fun k => if k = key then type else r.types k }

end Registrar

end RecordSql
