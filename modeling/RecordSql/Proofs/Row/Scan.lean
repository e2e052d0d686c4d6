import RecordSql.Proofs.Row.Refusal
import Mathlib.Data.List.OfFn

/-!
# What a scan hands over

A scan of the current row offers every cell to the target at its place, one after another and each
once, until a target refuses. The cells that were offered are used up, the refused one with them,
and everything else stays as it was. A scan that cannot begin offers nothing and changes nothing.

What a scan offers is read off the `Scanning` of the result set, which is all that a scan does with
its targets (`RowFeed.scan_eq_run`): the log of a run also holds the offer that was refused.
-/

set_option autoImplicit false

namespace RecordSql

/-! ## Offers one after another -/

namespace Scanning

variable {width : Nat} {σ : Type}

/-- The offers of a scan to targets, in order, the refused ones with the others. -/
def log (targets : Fin width → Target σ) : Scanning width → σ → List (Fin width × Value)
  | .ends _, _ => []
  | .offers place value next, state =>
    (place, value) :: match targets place value state with
      | .ok state => (next (.ok ())).log targets state
      | .error fault => (next (.error fault)).log targets state

/-- What targets come to that are offered values one after another until one refuses. -/
def offerAll (targets : Fin width → Target σ) (offers : List (Fin width × Value)) (state : σ) :
    Except Fault σ :=
  offers.foldlM (fun state offer => targets offer.1 offer.2 state) state

variable {targets : Fin width → Target σ} {offers : List (Fin width × Value)}
  {place : Fin width} {value : Value} {state final : σ}

/-- Offers are all taken if the first is and then the others are. -/
theorem offerAll_cons_eq_ok_iff :
    offerAll targets ((place, value) :: offers) state = .ok final
      ↔ ∃ next, targets place value state = .ok next
        ∧ offerAll targets offers next = .ok final := by
  unfold offerAll
  rw [List.foldlM_cons]
  cases targets place value state with
  | error fault => simp [bind, Except.bind]
  | ok next => simp [bind, Except.bind]

/-- Either all offers are taken, or one is the first to be refused. -/
theorem offerAll_cases (targets : Fin width → Target σ) (offers : List (Fin width × Value))
    (state : σ) :
    (∃ final, offerAll targets offers state = .ok final)
      ∨ ∃ before place value after reached fault, offers = before ++ (place, value) :: after
        ∧ offerAll targets before state = .ok reached
        ∧ targets place value reached = .error fault := by
  induction offers generalizing state with
  | nil => exact .inl ⟨state, rfl⟩
  | cons offer offers ih =>
    obtain ⟨place, value⟩ := offer
    cases htarget : targets place value state with
    | error fault => exact .inr ⟨[], place, value, offers, state, fault, rfl, rfl, htarget⟩
    | ok next =>
      obtain ⟨final, hfinal⟩ | ⟨before, other, cell, after, reached, fault, rfl, hbefore,
        hrefused⟩ := ih next
      · exact .inl ⟨final, offerAll_cons_eq_ok_iff.2 ⟨next, htarget, hfinal⟩⟩
      · exact .inr ⟨(place, value) :: before, other, cell, after, reached, fault, rfl,
          offerAll_cons_eq_ok_iff.2 ⟨next, htarget, hbefore⟩, hrefused⟩

end Scanning

/-! ## Cells of a row -/

/-- The cells of a row from a place on, each with its place. -/
def cellsFrom (width place : Nat) (cells : List Value) : List (Fin width × Value) :=
  ((List.finRange width).drop place).zip cells

/-- No cells are offered nothing. -/
theorem cellsFrom_nil (width place : Nat) : cellsFrom width place [] = [] := List.zip_nil_right

/-- The first cell is for the place, and the others are for the places behind it. -/
theorem cellsFrom_cons {width place : Nat} (h : place < width) (cell : Value) (cells : List Value) :
    cellsFrom width place (cell :: cells)
      = (⟨place, h⟩, cell) :: cellsFrom width (place + 1) cells := by
  unfold cellsFrom
  rw [List.drop_eq_getElem_cons (by simpa using h), List.zip_cons_cons, List.getElem_finRange]
  rfl

section Cells

open Scanning

variable {width place : Nat} {σ : Type} {targets : Fin width → Target σ} {cells : List Value}
  {state final : σ}

/-- The targets from a place on begin with the one for that place. -/
theorem drop_ofFn (targets : Fin width → Target σ) (h : place < width) :
    (List.ofFn targets).drop place
      = targets ⟨place, h⟩ :: (List.ofFn targets).drop (place + 1) := by
  rw [List.drop_eq_getElem_cons (by simpa using h), List.getElem_ofFn]

/-- Cells that are all taken are all offered, and they are used up. -/
theorem offerCells_of_taken (hfits : place + cells.length = width)
    (htaken : offerAll targets (cellsFrom width place cells) state = .ok final) :
    (RowFeed.offerCells [] place cells).log targets state = cellsFrom width place cells
      ∧ ResultSet.deliver ((List.ofFn targets).drop place) cells state
        = (.ok final, clearedCells cells.length cells) := by
  induction cells generalizing place state with
  | nil =>
    rw [cellsFrom_nil] at htaken ⊢
    cases htaken
    refine ⟨rfl, ?_⟩
    rw [List.drop_eq_nil_of_le (by simp at hfits ⊢; omega)]
    rfl
  | cons cell cells ih =>
    rw [List.length_cons] at hfits
    have hplace : place < width := by omega
    rw [cellsFrom_cons hplace] at htaken ⊢
    obtain ⟨next, htarget, hrest⟩ := offerAll_cons_eq_ok_iff.1 htaken
    obtain ⟨hlog, hdeliver⟩ := ih (by omega) hrest
    constructor
    · simp only [RowFeed.offerCells, dif_pos hplace, List.not_mem_nil, if_false, log, htarget, hlog]
    · rw [drop_ofFn targets hplace, ResultSet.deliver]
      simp only [htarget, hdeliver]
      rfl

/-- The first cell that is refused is the last one that is offered, and it and the cells before it
are used up. -/
theorem offerCells_of_refused (hfits : place + cells.length = width)
    {before after : List (Fin width × Value)} {refusing : Fin width} {value : Value} {reached : σ}
    {fault : Fault} (hcells : cellsFrom width place cells = before ++ (refusing, value) :: after)
    (htaken : offerAll targets before state = .ok reached)
    (hrefused : targets refusing value reached = .error fault) :
    (RowFeed.offerCells [] place cells).log targets state = before ++ [(refusing, value)]
      ∧ ResultSet.deliver ((List.ofFn targets).drop place) cells state
        = (.error fault, clearedCells (before.length + 1) cells) := by
  induction before generalizing place cells state with
  | nil =>
    cases htaken
    cases cells with
    | nil => simp [cellsFrom_nil] at hcells
    | cons cell cells =>
      rw [List.length_cons] at hfits
      have hplace : place < width := by omega
      rw [cellsFrom_cons hplace] at hcells
      obtain ⟨hoffer, -⟩ := List.cons.inj hcells
      cases hoffer
      constructor
      · simp only [RowFeed.offerCells, dif_pos hplace, List.not_mem_nil, if_false, log, hrefused,
          List.nil_append]
      · rw [drop_ofFn targets hplace, ResultSet.deliver]
        simp only [hrefused]
        rfl
  | cons offer before ih =>
    cases cells with
    | nil => simp [cellsFrom_nil] at hcells
    | cons cell cells =>
      rw [List.length_cons] at hfits
      have hplace : place < width := by omega
      rw [cellsFrom_cons hplace] at hcells
      obtain ⟨rfl, hrest⟩ := List.cons.inj hcells
      obtain ⟨next, htarget, hbefore⟩ := offerAll_cons_eq_ok_iff.1 htaken
      obtain ⟨hlog, hdeliver⟩ := ih (by omega) hrest hbefore
      constructor
      · simp only [RowFeed.offerCells, dif_pos hplace, List.not_mem_nil, if_false, log, htarget,
          hlog, List.cons_append]
      · rw [drop_ofFn targets hplace, ResultSet.deliver]
        simp only [htarget, hdeliver]
        rfl

end Cells

namespace ResultSet

/-! ## The current row -/

/-- Why the current row cannot be scanned into a number of targets. -/
inductive Unscannable (set : ResultSet) (count : Nat) : Fault → Prop where
  /-- The next row was not asked for yet. -/
  | beforeFirst (cursor : set.cursor = none) :
      Unscannable set count (.executor "scan called before next")
  /-- The cursor stands behind the rows. -/
  | behindLast {place : Nat} (cursor : set.cursor = some place)
      (behind : set.rows.length ≤ place) :
      Unscannable set count (.executor "scan called after the last row")
  /-- The row has another width than the columns. -/
  | width {place : Nat} {row : List Value} (cursor : set.cursor = some place)
      (found : set.rows[place]? = some row) (width : row.length ≠ set.columns.length) :
      Unscannable set count (wrongWidth row.length set.columns.length)
  /-- There are more targets than columns, or fewer. -/
  | targets {place : Nat} {row : List Value} (cursor : set.cursor = some place)
      (found : set.rows[place]? = some row) (width : row.length = set.columns.length)
      (targets : count ≠ set.columns.length) :
      Unscannable set count (wrongTargets set.columns.length count)

/-- What becomes of a row whose cells are offered to targets: each to the target at its place, in
order, until one is refused. -/
inductive HandsOver {σ : Type} (set : ResultSet) (targets : List (Target σ)) (state : σ)
    (place : Nat) (row : List Value) : Prop where
  /-- Every target takes its cell, and the row is used up. -/
  | all {final : σ}
      (taken : Scanning.offerAll targets.get ((List.finRange targets.length).zip row) state
        = .ok final)
      (log : ((RowFeed.ofSet set).scanning targets.length).log targets.get state
        = (List.finRange targets.length).zip row)
      (scan : set.scan targets state = (.ok final, set.cleared place row.length row))
  /-- The targets of the first cells take them and the next one refuses. Its cell is the last one
  that is offered and the last one that is used up, and its fault is the result. -/
  | untilRefused {before after : List (Fin targets.length × Value)} {refusing : Fin targets.length}
      {value : Value} {reached : σ} {fault : Fault}
      (cells : (List.finRange targets.length).zip row = before ++ (refusing, value) :: after)
      (taken : Scanning.offerAll targets.get before state = .ok reached)
      (refused : targets.get refusing value reached = .error fault)
      (log : ((RowFeed.ofSet set).scanning targets.length).log targets.get state
        = before ++ [(refusing, value)])
      (scan : set.scan targets state = (.error fault, set.cleared place (before.length + 1) row))

variable {σ : Type} {set : ResultSet} {targets : List (Target σ)} {state : σ}

/-- A scan that cannot begin fails with a fault of the executor. -/
theorem Unscannable.exists_text {count : Nat} {fault : Fault} (h : set.Unscannable count fault) :
    ∃ text, fault = .executor text := by
  cases h with
  | beforeFirst cursor => exact ⟨_, rfl⟩
  | behindLast cursor behind => exact ⟨_, rfl⟩
  | width cursor found width => exact ⟨_, rfl⟩
  | targets cursor found width targets => exact ⟨_, rfl⟩

/-- What a scan does if it cannot begin: it offers nothing and leaves all as it was. -/
theorem Unscannable.scan_eq {fault : Fault} (h : set.Unscannable targets.length fault) :
    (RowFeed.ofSet set).scanning targets.length = .ends (.error fault)
      ∧ set.scan targets state = (.error fault, set) := by
  unfold RowFeed.scanning scan
  cases h with
  | beforeFirst cursor => simp [RowFeed.ofSet, current, cursor]
  | behindLast cursor behind =>
    simp [RowFeed.ofSet, current, cursor, List.getElem?_eq_none behind]
  | width cursor found width =>
    have hcurrent := current_eq_ok_iff.2 ⟨cursor, found⟩
    simp [RowFeed.ofSet, hcurrent, width]
  | targets cursor found width targets =>
    have hcurrent := current_eq_ok_iff.2 ⟨cursor, found⟩
    simp [RowFeed.ofSet, hcurrent, width, targets]

/-- A scan that can begin has a row under the cursor that is as wide as the columns, and a target
for each of them. -/
theorem exists_current_of_scannable {count : Nat} (h : ∀ fault, ¬ set.Unscannable count fault) :
    ∃ place row, set.current = .ok (place, row) ∧ row.length = set.columns.length
      ∧ count = set.columns.length := by
  cases hcursor : set.cursor with
  | none => exact absurd (.beforeFirst hcursor) (h _)
  | some place =>
    cases hrow : set.rows[place]? with
    | none => exact absurd (.behindLast hcursor (List.getElem?_eq_none_iff.1 hrow)) (h _)
    | some row =>
      have hwidth : row.length = set.columns.length :=
        not_not.1 fun hwidth => h _ (.width hcursor hrow hwidth)
      have hcount : count = set.columns.length :=
        not_not.1 fun hcount => h _ (.targets hcursor hrow hwidth hcount)
      exact ⟨place, row, current_eq_ok_iff.2 ⟨hcursor, hrow⟩, hwidth, hcount⟩

/-- A scan that can begin hands the cells of the row over. -/
theorem handsOver_of_current {place : Nat} {row : List Value}
    (hcurrent : set.current = .ok (place, row)) (hwidth : row.length = set.columns.length)
    (htargets : targets.length = set.columns.length) :
    set.HandsOver targets state place row := by
  have hfits : 0 + row.length = targets.length := by omega
  have hscanning : (RowFeed.ofSet set).scanning targets.length = RowFeed.offerCells [] 0 row := by
    simp [RowFeed.scanning, RowFeed.ofSet, hcurrent, hwidth, htargets]
  have hscan := scan_of_current hcurrent hwidth htargets state
  have hofFn : (List.ofFn targets.get).drop 0 = targets := List.ofFn_get targets
  have hcells : cellsFrom targets.length 0 row = (List.finRange targets.length).zip row := rfl
  obtain ⟨final, htaken⟩ | ⟨before, refusing, value, after, reached, fault, hsplit, htaken,
      hrefused⟩
    := Scanning.offerAll_cases targets.get (cellsFrom targets.length 0 row) state
  · obtain ⟨hlog, hdeliver⟩ := offerCells_of_taken hfits htaken
    rw [hofFn] at hdeliver
    rw [hdeliver] at hscan
    exact .all htaken (by rw [hscanning, hlog, hcells]) hscan
  · obtain ⟨hlog, hdeliver⟩ := offerCells_of_refused hfits hsplit htaken hrefused
    rw [hofFn] at hdeliver
    rw [hdeliver] at hscan
    exact .untilRefused hsplit htaken hrefused (by rw [hscanning, hlog]) hscan

/-- A scan hands over the cells of the current row, each once and to the target at its place, up to
the first one that is refused, and uses up just these. If it cannot begin, it says why, offers
nothing and changes nothing. -/
theorem scan_hands_over (set : ResultSet) (targets : List (Target σ)) (state : σ) :
    (set.scan targets state).1
        = ((RowFeed.ofSet set).scanning targets.length).run targets.get state
      ∧ (∀ fault, set.Unscannable targets.length fault →
        (∃ text, fault = .executor text)
          ∧ (RowFeed.ofSet set).scanning targets.length = .ends (.error fault)
          ∧ set.scan targets state = (.error fault, set))
      ∧ ((∀ fault, ¬ set.Unscannable targets.length fault) →
        ∃ place row, set.current = .ok (place, row) ∧ row.length = targets.length
          ∧ set.HandsOver targets state place row) := by
  refine ⟨?run, ?unscannable, ?scannable⟩
  case run =>
    have hrun := (RowFeed.ofSet set).scan_eq_run targets.get state
    rw [List.ofFn_get] at hrun
    exact hrun
  case unscannable =>
    intro fault h
    exact ⟨h.exists_text, h.scan_eq⟩
  case scannable =>
    intro h
    obtain ⟨place, row, hcurrent, hwidth, htargets⟩ := exists_current_of_scannable h
    exact ⟨place, row, hcurrent, by rw [hwidth, htargets],
      handsOver_of_current hcurrent hwidth htargets⟩

/-- A target that refuses every value. -/
def refuse {σ : Type} : Target σ := fun _ _ => .error (.executor "full")

/-- The second of three targets refuses: the first cell was taken by then, and the third is still
there. Two targets for the same row get nothing. -/
theorem scan_hands_over_refused :
    (∃ place row, (⟨["a", "b", "c"], [[.null], [.bool true, .bool false, .text "x"]], some 1⟩ :
          ResultSet).current = .ok (place, row) ∧ row.length = 3
        ∧ (⟨["a", "b", "c"], [[.null], [.bool true, .bool false, .text "x"]], some 1⟩ :
          ResultSet).HandsOver [RowFeed.keep, refuse, RowFeed.keep] [] place row)
      ∧ (⟨["a", "b", "c"], [[.null], [.bool true, .bool false, .text "x"]], some 1⟩ :
          ResultSet).scan [RowFeed.keep, refuse, RowFeed.keep] []
        = (.error (.executor "full"),
          ⟨["a", "b", "c"], [[.null], [.null, .null, .text "x"]], some 1⟩)
      ∧ (⟨["a", "b", "c"], [[.null], [.bool true, .bool false, .text "x"]], some 1⟩ :
          ResultSet).scan [RowFeed.keep, RowFeed.keep] []
        = (.error (wrongTargets 3 2),
          ⟨["a", "b", "c"], [[.null], [.bool true, .bool false, .text "x"]], some 1⟩) := by
  refine ⟨(scan_hands_over _ [RowFeed.keep, refuse, RowFeed.keep] []).2.2 ?_, rfl,
    ((scan_hands_over _ [RowFeed.keep, RowFeed.keep] []).2.1 _
      (.targets rfl rfl rfl (by decide))).2.2⟩
  intro fault h
  cases h with
  | beforeFirst cursor => cases cursor
  | behindLast cursor behind =>
    cases cursor
    exact absurd behind (by decide)
  | width cursor found width =>
    cases cursor
    cases found
    exact absurd rfl width
  | targets cursor found width targets => exact absurd rfl targets

end ResultSet

end RecordSql
