import RecordSql.Row.ResultSet

/-!
# Row feeds

The rows as a driver delivers them: a result set whose driver may lose its connection at some
call, and may leave out some of the columns when it delivers a row.
-/

set_option autoImplicit false

namespace RecordSql

/-- Rows with the failings of the driver that delivers them. -/
structure RowFeed where
  /-- The rows. -/
  set : ResultSet
  /-- The call for the next row at which the connection is lost, counted from one. -/
  failNextAt : Option Nat
  /-- The columns that are never delivered. -/
  skipped : List Nat
  /-- How often the next row was asked for. -/
  nextCalls : Nat

namespace RowFeed

/-- The feed of a driver without failings. -/
def ofSet (set : ResultSet) : RowFeed := ⟨set, none, [], 0⟩

/-- Moves on to the next row, unless the connection is lost at this call. -/
def next (feed : RowFeed) : Except Fault Bool × RowFeed :=
  let feed := { feed with nextCalls := feed.nextCalls + 1 }
  if feed.failNextAt = some feed.nextCalls then (.error (.executor "connection lost"), feed)
  else
    let (found, set) := feed.set.next
    (.ok found, { feed with set := set })

/-- A target that keeps every value it is given. -/
def keep : Target (List Value) := fun value kept => .ok (kept ++ [value])

/-- Gives values to the targets that are not left out, in order; `place` is the number of the
first target. -/
def deliverRest {σ : Type} (skipped : List Nat) :
    Nat → List (Target σ) → List Value → σ → Except Fault σ
  | place, target :: targets, value :: values, state =>
    if place ∈ skipped then deliverRest skipped (place + 1) targets values state
    else match target value state with
      | .error fault => .error fault
      | .ok state => deliverRest skipped (place + 1) targets values state
  | _, _, _, state => .ok state

/-- Moves the cells of the current row into targets. A driver that leaves columns out takes all
cells first and then gives them to the targets that are not left out. -/
def scan {σ : Type} (feed : RowFeed) (targets : List (Target σ)) (state : σ) :
    Except Fault σ × RowFeed :=
  if feed.skipped.isEmpty then
    let (result, set) := feed.set.scan targets state
    (result, { feed with set := set })
  else
    let (taken, set) := feed.set.scan (targets.map fun _ => keep) []
    let feed := { feed with set := set }
    match taken with
    | .error fault => (.error fault, feed)
    | .ok values => (deliverRest feed.skipped 0 targets values state, feed)

end RowFeed

end RecordSql
