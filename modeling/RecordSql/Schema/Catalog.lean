import RecordSql.Fault

/-!
# Catalogs

A catalog holds what was found out about each of a family of types, so that a type is looked into
at most once. Asking for a type takes two steps, which other askers may come between: a look-up,
and, when that finds nothing, a registration that looks again before it adds anything. What was
refused is not held.
-/

set_option autoImplicit false

namespace RecordSql

/-- What a catalog holds of one type. -/
structure CatalogEntry (κ : Type) (ε : κ → Type) where
  /-- The type. -/
  key : κ
  /-- What was found out about it. -/
  item : ε key

/-- A catalog; entries are only ever added at the end. -/
structure Catalog (κ : Type) (ε : κ → Type) where
  /-- Tells this catalog from others. -/
  stamp : Nat
  /-- The entries in the order in which they were added. -/
  entries : List (CatalogEntry κ ε)

/-- An item as a catalog holds it. Two of the same stamp and place are one and the same. -/
structure Held (α : Type) where
  /-- The catalog that holds it. -/
  stamp : Nat
  /-- Its place in that catalog. -/
  place : Nat
  /-- The item. -/
  item : α

/-- How a registration ended. -/
inductive Access (α : Type) where
  /-- The catalog held the item before. -/
  | found (held : Held α)
  /-- The item was added. -/
  | added (held : Held α)
  /-- Looking into the type failed. -/
  | refused (fault : Fault)

/-- The item of an access that did not fail. -/
def Access.result {α : Type} : Access α → Except Fault (Held α)
  | .found held => .ok held
  | .added held => .ok held
  | .refused fault => .error fault

namespace Catalog

variable {κ : Type} {ε : κ → Type} [DecidableEq κ]

/-- A catalog without entries. -/
def empty (stamp : Nat) : Catalog κ ε := ⟨stamp, []⟩

/-- How many types a catalog holds. -/
def size (c : Catalog κ ε) : Nat := c.entries.length

/-- The first entry of a type among entries, of which the first has the number `place`. -/
def findEntry (stamp : Nat) (key : κ) : Nat → List (CatalogEntry κ ε) → Option (Held (ε key))
  | _, [] => none
  | place, entry :: entries =>
    if h : entry.key = key then some ⟨stamp, place, h ▸ entry.item⟩
    else findEntry stamp key (place + 1) entries

/-- What the catalog holds of a type. -/
def lookup (c : Catalog κ ε) (key : κ) : Option (Held (ε key)) :=
  findEntry c.stamp key 0 c.entries

/-- Adds what was found out about a type, unless the catalog holds the type by now. -/
def register (c : Catalog κ ε) (key : κ) (found : Except Fault (ε key)) :
    Access (ε key) × Catalog κ ε :=
  match c.lookup key with
  | some held => (.found held, c)
  | none =>
    match found with
    | .error fault => (.refused fault, c)
    | .ok item =>
      (.added ⟨c.stamp, c.entries.length, item⟩, { c with entries := c.entries ++ [⟨key, item⟩] })

/-- What the catalog holds of a type, after adding it if need be. -/
def get (c : Catalog κ ε) (key : κ) (found : Except Fault (ε key)) :
    Access (ε key) × Catalog κ ε :=
  match c.lookup key with
  | some held => (.found held, c)
  | none => c.register key found

end Catalog

end RecordSql
