import RecordSql.Row.Feed

/-!
# Rows under the cursor

Calls on a new result set in any order: rows are pushed, the next row is asked for, the current row
is scanned. Where the cursor stands follows from what a caller learned from its calls. A call that
finds a row makes the first row current that was neither found nor passed over before, with the
cells it was pushed with, and a call finds none only if there is no such row.

A row is passed over if it is pushed right after a call that found none. The cursor then stands
behind the last row, and there the row is put: it is current though no call found it, and the next
call moves on behind it. The statements count these rows; where there are none, every row is found
once, in order.
-/

set_option autoImplicit false

namespace RecordSql

namespace ResultSet

/-- The current row is the one under the cursor. -/
theorem current_eq_ok_iff {set : ResultSet} {place : Nat} {row : List Value} :
    set.current = .ok (place, row) ↔ set.cursor = some place ∧ set.rows[place]? = some row := by
  unfold current
  cases set.cursor with
  | none => simp
  | some found =>
    cases hrow : set.rows[found]? with
    | none =>
      simp only [hrow, reduceCtorEq, Option.some.injEq, false_iff, not_and]
      rintro rfl
      simp [hrow]
    | some cells =>
      simp only [hrow, Except.ok.injEq, Prod.mk.injEq, Option.some.injEq]
      constructor
      · rintro ⟨rfl, rfl⟩
        exact ⟨rfl, hrow⟩
      · rintro ⟨rfl, hfound⟩
        rw [hrow] at hfound
        exact ⟨rfl, Option.some.inj hfound⟩

/-- A scan changes nothing but cells of the current row. -/
theorem scan_frame {σ : Type} (set : ResultSet) (targets : List (Target σ)) (state : σ) :
    (set.scan targets state).2.cursor = set.cursor
      ∧ (set.scan targets state).2.rows.length = set.rows.length
      ∧ (set.scan targets state).2.rows.drop set.nextRow = set.rows.drop set.nextRow := by
  unfold scan
  cases hcurrent : set.current with
  | error fault => exact ⟨rfl, rfl, rfl⟩
  | ok found =>
    obtain ⟨place, row⟩ := found
    have hnext : place < set.nextRow := by
      unfold nextRow
      rw [(current_eq_ok_iff.1 hcurrent).1]
      exact Nat.lt_succ_self place
    simp only
    split
    · exact ⟨rfl, rfl, rfl⟩
    · split
      · exact ⟨rfl, rfl, rfl⟩
      · exact ⟨rfl, List.length_set, List.drop_set_of_lt hnext⟩

/-- A call on a result set. -/
inductive Call where
  /-- Adds a row behind all others. -/
  | push (row : List Value)
  /-- Asks for the next row. -/
  | next
  /-- Moves the cells of the current row into targets. -/
  | scan {σ : Type} (targets : List (Target σ)) (state : σ)

/-- What the last call for the next row said, and whether a row was pushed since if it found
none. -/
inductive Standing where
  /-- The next row was not asked for yet. -/
  | before
  /-- A row was found. -/
  | onRow
  /-- No row was found, and none was pushed since. -/
  | atEnd
  /-- No row was found, but one was pushed since. -/
  | onPassed

/-- What a caller knows from the calls it made. -/
structure History where
  /-- The rows it pushed, in order. -/
  pushed : List (List Value)
  /-- How many calls for the next row found one. -/
  found : Nat
  /-- How many rows it pushed right after a call that found none. -/
  passed : Nat
  /-- What the last call for the next row said. -/
  standing : Standing

namespace History

/-- No calls. -/
def empty : History := ⟨[], 0, 0, .before⟩

/-- A row was pushed. -/
def push (h : History) (row : List Value) : History :=
  let h := { h with pushed := h.pushed ++ [row] }
  match h.standing with
  | .atEnd => { h with passed := h.passed + 1, standing := .onPassed }
  | .before | .onRow | .onPassed => h

/-- The next row was asked for. -/
def ask (h : History) : (isRow : Bool) → History
  | true => { h with found := h.found + 1, standing := .onRow }
  | false => { h with standing := .atEnd }

end History

/-- A result set with the history of the calls on it. -/
structure Run where
  /-- The result set. -/
  set : ResultSet
  /-- The history. -/
  history : History

namespace Run

/-- A new result set. -/
def start (columns : List String) : Run := ⟨.ofRows columns [], .empty⟩

/-- One more call. -/
def call (r : Run) : Call → Run
  | .push row => ⟨r.set.pushRow row, r.history.push row⟩
  | .next => ⟨r.set.next.2, r.history.ask r.set.next.1⟩
  | .scan targets state => ⟨(r.set.scan targets state).2, r.history⟩

/-- A new result set after calls one after another. -/
def after (columns : List String) (calls : List Call) : Run := calls.foldl call (start columns)

/-- Where the cursor stands by the history of a result set. -/
def Stands (r : Run) : Prop :=
  match r.history.standing with
  | .before => r.set.cursor = none ∧ r.history.found + r.history.passed = 0
  | .onRow =>
    ∃ row < r.set.rows.length, r.set.cursor = some row
      ∧ r.history.found + r.history.passed = row + 1
  | .atEnd =>
    r.set.cursor = some r.set.rows.length
      ∧ r.history.found + r.history.passed = r.set.rows.length
  | .onPassed =>
    ∃ row < r.set.rows.length, r.set.cursor = some row
      ∧ r.history.found + r.history.passed = row + 1 ∧ 0 < r.history.passed

/-- The history tells where the cursor stands, and the rows behind it are as they were pushed. -/
structure Sound (r : Run) : Prop where
  /-- All rows are there. -/
  count : r.set.rows.length = r.history.pushed.length
  /-- The rows that come next are as they were pushed. -/
  ahead : r.set.rows.drop r.set.nextRow = r.history.pushed.drop r.set.nextRow
  /-- The cursor stands where the history says. -/
  stands : r.Stands

/-- Either the next row is the first one that was neither found nor passed over, or all were and the
cursor stands behind them. -/
theorem Sound.next_cases {r : Run} (h : r.Sound) :
    r.set.nextRow = r.history.found + r.history.passed
        ∧ r.history.found + r.history.passed ≤ r.set.rows.length ∧ r.history.standing ≠ .atEnd
      ∨ r.set.nextRow = r.set.rows.length + 1
        ∧ r.history.found + r.history.passed = r.set.rows.length ∧ r.history.standing = .atEnd := by
  have hstands := h.stands
  unfold Stands at hstands
  unfold nextRow
  cases hstanding : r.history.standing with
  | before =>
    simp only [hstanding] at hstands
    obtain ⟨hcursor, hnone⟩ := hstands
    exact .inl ⟨by rw [hcursor, hnone], by omega, by simp⟩
  | onRow =>
    simp only [hstanding] at hstands
    obtain ⟨row, hrow, hcursor, hreached⟩ := hstands
    exact .inl ⟨by rw [hcursor, hreached], by omega, by simp⟩
  | atEnd =>
    simp only [hstanding] at hstands
    obtain ⟨hcursor, hall⟩ := hstands
    exact .inr ⟨by rw [hcursor], hall, rfl⟩
  | onPassed =>
    simp only [hstanding] at hstands
    obtain ⟨row, hrow, hcursor, hreached, -⟩ := hstands
    exact .inl ⟨by rw [hcursor, hreached], by omega, by simp⟩

/-- There is a next row exactly if there is one that was neither found nor passed over. -/
theorem Sound.next_eq_true_iff {r : Run} (h : r.Sound) :
    r.set.next.1 = true ↔ r.history.found + r.history.passed < r.set.rows.length := by
  unfold ResultSet.next
  rw [decide_eq_true_iff]
  obtain ⟨hnext, -, -⟩ | ⟨hnext, hall, -⟩ := h.next_cases
  · rw [hnext]
  · omega

/-! ## One call -/

/-- At the start nothing was found or passed over. -/
theorem sound_start (columns : List String) : (start columns).Sound := ⟨rfl, rfl, rfl, rfl⟩

/-- A row that is pushed is not found by that. -/
theorem Sound.push {r : Run} (h : r.Sound) (row : List Value) : (r.call (.push row)).Sound := by
  have hpushed : (r.call (.push row)).history.pushed = r.history.pushed ++ [row] := by
    unfold call History.push
    cases r.history.standing <;> rfl
  have hlength : (r.set.pushRow row).rows.length = r.set.rows.length + 1 := by simp [pushRow]
  refine ⟨?_, ?_, ?_⟩
  · rw [hpushed, List.length_append, ← h.count]
    exact hlength
  · rw [hpushed]
    show (r.set.rows ++ [row]).drop r.set.nextRow = (r.history.pushed ++ [row]).drop r.set.nextRow
    rw [List.drop_append, List.drop_append, h.ahead, h.count]
  · have hstands := h.stands
    unfold Stands at hstands ⊢
    unfold call History.push
    cases hstanding : r.history.standing with
    | before =>
      simp only [hstanding] at hstands ⊢
      exact hstands
    | onRow =>
      simp only [hstanding] at hstands ⊢
      obtain ⟨place, hplace, hcursor, hreached⟩ := hstands
      exact ⟨place, by omega, hcursor, hreached⟩
    | atEnd =>
      -- The row is put where the cursor stands.
      simp only [hstanding] at hstands ⊢
      obtain ⟨hcursor, hall⟩ := hstands
      exact ⟨r.set.rows.length, by omega, hcursor, by omega, by omega⟩
    | onPassed =>
      simp only [hstanding] at hstands ⊢
      obtain ⟨place, hplace, hcursor, hreached, hpassed⟩ := hstands
      exact ⟨place, by omega, hcursor, hreached, hpassed⟩

/-- The next row is found, or the rest is passed over. -/
theorem Sound.next {r : Run} (h : r.Sound) : (r.call .next).Sound := by
  have hnext : (r.call .next).set.nextRow = min r.set.nextRow r.set.rows.length + 1 := rfl
  have hpushed : (r.call .next).history.pushed = r.history.pushed := by
    unfold call History.ask
    cases r.set.next.1 <;> rfl
  have hahead (n : Nat) : r.set.rows.drop (r.set.nextRow + n)
      = r.history.pushed.drop (r.set.nextRow + n) := by
    rw [← List.drop_drop, ← List.drop_drop, h.ahead]
  refine ⟨?_, ?_, ?_⟩
  · rw [hpushed]
    exact h.count
  · rw [hpushed, hnext]
    obtain ⟨hplace, hbound, -⟩ | ⟨hplace, -, -⟩ := h.next_cases
    · rw [Nat.min_eq_left (by omega)]
      exact hahead 1
    · rw [Nat.min_eq_right (by omega), ← hplace]
      exact hahead 0
  · unfold Stands call
    by_cases hrow : r.set.next.1 = true
    · have hfound := h.next_eq_true_iff.1 hrow
      have hplace : r.set.nextRow = r.history.found + r.history.passed := by
        obtain ⟨hplace, -⟩ | ⟨-, hall, -⟩ := h.next_cases
        · exact hplace
        · omega
      rw [hrow]
      refine ⟨r.set.nextRow, by rw [hplace]; exact hfound, ?_, ?_⟩
      · exact congrArg some (Nat.min_eq_left (by omega))
      · simp only [History.ask]
        omega
    · have hnone := mt h.next_eq_true_iff.2 hrow
      rw [Bool.not_eq_true] at hrow
      rw [hrow]
      have hall : r.history.found + r.history.passed = r.set.rows.length := by
        obtain ⟨-, hbound, -⟩ | ⟨-, hall, -⟩ := h.next_cases <;> omega
      have hend : r.set.rows.length ≤ r.set.nextRow := by
        obtain ⟨hplace, -⟩ | ⟨hplace, -⟩ := h.next_cases <;> omega
      exact ⟨congrArg some (Nat.min_eq_right hend), hall⟩

/-- Reading the current row moves nothing. -/
theorem Sound.scan {r : Run} (h : r.Sound) {σ : Type} (targets : List (Target σ)) (state : σ) :
    (r.call (.scan targets state)).Sound := by
  obtain ⟨hcursor, hlength, hahead⟩ := r.set.scan_frame targets state
  have hnext : (r.set.scan targets state).2.nextRow = r.set.nextRow := by
    unfold nextRow
    rw [hcursor]
  refine ⟨?_, ?_, ?_⟩
  · exact hlength.trans h.count
  · show (r.set.scan targets state).2.rows.drop (r.set.scan targets state).2.nextRow
      = r.history.pushed.drop (r.set.scan targets state).2.nextRow
    rw [hnext, hahead, h.ahead]
  · have hstands := h.stands
    unfold Stands call at *
    rw [hcursor, hlength]
    exact hstands

/-! ## Any calls -/

/-- What was found and passed over is right after any calls. -/
theorem sound_after (columns : List String) (calls : List Call) : (after columns calls).Sound := by
  have hstep (r : Run) (h : r.Sound) (c : Call) : (r.call c).Sound := by
    cases c with
    | push row => exact h.push row
    | next => exact h.next
    | scan targets state => exact h.scan targets state
  have hcalls (r : Run) (h : r.Sound) : (calls.foldl call r).Sound := by
    induction calls generalizing r with
    | nil => exact h
    | cons c calls ih => exact ih (r.call c) (hstep r h c)
  exact hcalls _ (sound_start columns)

/-- The row that a call finds is current then, with the cells it was pushed with. -/
theorem Sound.current_next {r : Run} (h : r.Sound) (hrow : r.set.next.1 = true) :
    ∃ row, r.history.pushed[r.history.found + r.history.passed]? = some row
      ∧ r.set.next.2.current = .ok (r.history.found + r.history.passed, row) := by
  have hfound := h.next_eq_true_iff.1 hrow
  have hplace : r.set.nextRow = r.history.found + r.history.passed := by
    obtain ⟨hplace, -⟩ | ⟨-, hall, -⟩ := h.next_cases
    · exact hplace
    · omega
  have hsame : r.set.rows[r.set.nextRow]? = r.history.pushed[r.set.nextRow]? := by
    rw [← List.head?_drop, h.ahead, List.head?_drop]
  rw [← hplace] at hfound ⊢
  refine ⟨r.set.rows[r.set.nextRow], ?_, ?_⟩
  · rw [← hsame]
    exact List.getElem?_eq_getElem hfound
  · rw [current_eq_ok_iff]
    exact ⟨congrArg some (Nat.min_eq_left (by omega)), List.getElem?_eq_getElem hfound⟩

/-- A row is current after a call that found one, and after one that found none if a row was pushed
since. -/
theorem Sound.standing_of_current {r : Run} (h : r.Sound) {place : Nat} {row : List Value}
    (hcurrent : r.set.current = .ok (place, row)) :
    r.history.standing = .onRow ∨ r.history.standing = .onPassed ∧ 0 < r.history.passed := by
  obtain ⟨hcursor, hrow⟩ := current_eq_ok_iff.1 hcurrent
  have hstands := h.stands
  unfold Stands at hstands
  cases hstanding : r.history.standing with
  | before =>
    simp only [hstanding] at hstands
    rw [hstands.1] at hcursor
    cases hcursor
  | onRow => exact .inl rfl
  | atEnd =>
    simp only [hstanding] at hstands
    rw [hstands.1] at hcursor
    cases hcursor
    simp at hrow
  | onPassed =>
    simp only [hstanding] at hstands
    obtain ⟨found, -, -, -, hpassed⟩ := hstands
    exact .inr ⟨rfl, hpassed⟩

end Run

/-- A scan that succeeds reads the current row. -/
theorem exists_current_of_scan {σ : Type} {set : ResultSet} {targets : List (Target σ)}
    {state final : σ} (h : (set.scan targets state).1 = .ok final) :
    ∃ place row, set.current = .ok (place, row) := by
  unfold scan at h
  cases hcurrent : set.current with
  | error fault =>
    rw [hcurrent] at h
    cases h
  | ok found => exact ⟨found.1, found.2, rfl⟩

namespace Run

/-- Rows come in the order in which they were pushed, but for those that are passed over. -/
structure InOrder (r : Run) : Prop where
  /-- A call that finds a row makes the first one current that was neither found nor passed over,
  with the cells it was pushed with. -/
  found : r.set.next.1 = true →
    ∃ row, r.history.pushed[r.history.found + r.history.passed]? = some row
      ∧ r.set.next.2.current = .ok (r.history.found + r.history.passed, row)
  /-- A call finds no row only if every row was found or passed over. -/
  ended : r.set.next.1 = false →
    r.history.found + r.history.passed = r.history.pushed.length
  /-- A scan reads a row only after a call that found one, or else the row that was passed over. -/
  scanned : ∀ {σ : Type} (targets : List (Target σ)) (state final : σ),
    (r.set.scan targets state).1 = .ok final →
      r.history.standing = .onRow ∨ r.history.standing = .onPassed ∧ 0 < r.history.passed

end Run

/-- Whatever calls are made on a new result set, its rows come in order. If no row was pushed right
after a call that found none, then none is passed over: the row that a call finds is the first one
that was not found yet, a call finds none only if all were found, and a scan succeeds only after a
call that found a row. -/
theorem inOrder_after_calls (columns : List String) (calls : List Call) :
    (Run.after columns calls).InOrder := by
  have hsound := Run.sound_after columns calls
  refine ⟨hsound.current_next, ?_, ?_⟩
  · intro hnone
    have hmore := mt hsound.next_eq_true_iff.2 (by simp [hnone])
    have hbound : (Run.after columns calls).history.found + (Run.after columns calls).history.passed
        ≤ (Run.after columns calls).set.rows.length := by
      obtain ⟨-, hbound, -⟩ | ⟨-, hall, -⟩ := hsound.next_cases <;> omega
    rw [← hsound.count]
    omega
  · intro σ targets state final hscan
    obtain ⟨place, row, hcurrent⟩ := exists_current_of_scan hscan
    exact hsound.standing_of_current hcurrent

/-- Two rows are pushed behind the end of an empty result set. The first call that finds a row finds
the second one, and no call finds the first. That one was current before any call had found a
row. -/
theorem passes_over_pushed_row :
    (Run.after ["id"] [.next, .push [.bool false], .push [.bool true]]).history.pushed
        = [[.bool false], [.bool true]]
      ∧ (Run.after ["id"] [.next, .push [.bool false], .push [.bool true]]).history.found = 0
      ∧ (Run.after ["id"] [.next, .push [.bool false], .push [.bool true]]).set.next.1 = true
      ∧ (Run.after ["id"] [.next, .push [.bool false], .push [.bool true], .next]).set.current
        = .ok (1, [.bool true])
      ∧ (Run.after ["id"] [.next, .push [.bool false], .push [.bool true], .next]).set.next.1
        = false
      ∧ (Run.after ["id"] [.next]).set.next.1 = false
      ∧ ((Run.after ["id"] [.next, .push [.bool false]]).set.scan [RowFeed.keep] []).1
        = .ok [.bool false] :=
  ⟨rfl, rfl, rfl, rfl, rfl, rfl, rfl⟩

end ResultSet

end RecordSql
