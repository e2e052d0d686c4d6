import RecordSql.Session.Session

/-!
# Pools of handles

Several handles may work over one back end and one catalog. A pool keeps the back ends and
catalogs that its handles share, and runs an operation on the session that a handle stands for.
-/

set_option autoImplicit false

namespace RecordSql

/-- A handle: its settings and the back end and catalog it works over, by number. -/
structure Handle where
  /-- The settings. -/
  settings : Settings
  /-- The number of the back end. -/
  backend : Nat
  /-- The number of the catalog. -/
  catalog : Nat

/-- Handles with the back ends and catalogs they share. -/
structure Pool {κ : Type} (types : κ → RecordType) where
  /-- The settings that new handles start with. -/
  settings : Settings
  /-- The back ends. -/
  backends : List Backend
  /-- The catalogs: that of the first handle, and the one that adopted handles share. -/
  catalogs : List (TableCatalog types)
  /-- The handles. -/
  handles : List Handle

/-- What an operation on a handle comes to. -/
structure PoolTurn {κ : Type} (types : κ → RecordType) (α : Type) where
  /-- The result. -/
  result : α
  /-- The pool afterwards. -/
  pool : Pool types
  /-- The statements that reached the handle's back end. -/
  sent : List Statement
  /-- What was logged. -/
  events : List LogEvent

namespace Pool

variable {κ : Type} {types : κ → RecordType}

/-- The number of the catalog that adopted handles share. -/
def sharedCatalog : Nat := 1

/-- A pool with one handle over a back end with the given replies. -/
def start (types : κ → RecordType) (settings : Settings) (replies : List Reply) : Pool types :=
  { settings := settings
    backends := [.ofReplies replies]
    catalogs := [.empty 0, .empty sharedCatalog]
    handles := [⟨settings, 0, 0⟩] }

/-- The session that a handle stands for. -/
def session? (p : Pool types) (handle : Nat) : Option (Session types) := do
  let h ← p.handles[handle]?
  let backend ← p.backends[h.backend]?
  let catalog ← p.catalogs[h.catalog]?
  some ⟨h.settings, catalog, backend⟩

/-- The pool after an operation left a handle's session as given. -/
def store (p : Pool types) (handle : Nat) (s : Session types) : Pool types :=
  match p.handles[handle]? with
  | none => p
  | some h =>
    { p with
      backends := p.backends.set h.backend s.backend
      catalogs := p.catalogs.set h.catalog s.catalog }

/-- Runs an operation on a handle; none when there is no such handle. -/
def run? {α : Type} (p : Pool types) (handle : Nat) (operation : Session types → Turn types α) :
    Option (PoolTurn types α) := do
  let s ← p.session? handle
  let turn := operation s
  some
    { result := turn.result
      pool := p.store handle turn.session
      sent := turn.session.backend.sent.drop s.backend.sent.length
      events := turn.events }

/-- Adds a handle over the back end and catalog of another, with its settings. -/
def clone (p : Pool types) (handle : Nat) : Pool types :=
  { p with handles := p.handles ++ (p.handles[handle]?).toList }

/-- Adds a handle over a back end of its own and the catalog that adopted handles share. -/
def adopt (p : Pool types) : Pool types :=
  { p with
    backends := p.backends ++ [.ofReplies []]
    handles := p.handles ++ [⟨p.settings, p.backends.length, sharedCatalog⟩] }

/-- Puts one more reply into the store of a handle's back end. -/
def addReply (p : Pool types) (handle : Nat) (reply : Reply) : Pool types :=
  match p.session? handle with
  | none => p
  | some s => p.store handle { s with backend := s.backend.addReply reply }

end Pool

end RecordSql
