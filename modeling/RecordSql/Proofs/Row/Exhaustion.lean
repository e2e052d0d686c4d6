import RecordSql.Proofs.Row.Refusal

/-!
# All rows or none

Decoding all rows that come next gives their records if every one of them is decoded, and else the
fault of the first that is not. What happens to a row depends on the row and the columns alone, so
the loop over the cursor is a recursion on the rows ahead (`decodeRows`): the rows that are decoded
are used up, the one that is not stays under the cursor as decoding left it, and the rows behind it
and in front of the old cursor are not touched.
-/

set_option autoImplicit false

namespace RecordSql

variable {type : RecordType}

/-- A result set with the cursor on a row. -/
def ResultSet.atRow (set : ResultSet) (place : Nat) : ResultSet := { set with cursor := some place }

/-- The feed of a driver without failings that was asked for rows before. -/
def RowFeed.asked (set : ResultSet) (calls : Nat) : RowFeed :=
  { RowFeed.ofSet set with nextCalls := calls }

namespace Table

/-! ## One row by itself -/

/-- What decoding a row under some columns comes to, and what is left of its cells. -/
def decodeCells (t : Table type) (mode : DecodeMode) (columns : List String) (row : List Value) :
    Except Fault (Record type) × List Value :=
  match t.resolve columns with
  | .error fault => (.error fault, row)
  | .ok fields =>
    if row.length ≠ columns.length then
      (.error (ResultSet.wrongWidth row.length columns.length), row)
    else
      let (scanned, left) := ResultSet.deliver
        (fields.zipIdx.map fun (i, place) => t.target mode i place) row
        ⟨Record.initial type, fields.map fun _ => none⟩
      (scanned.bind fun s => t.assignSlots mode fields s.slots s.record, left)

variable {t : Table type} {mode : DecodeMode} {set : ResultSet} {columns : List String}

/-- Decoding the current row looks at no other row and changes no other row. -/
theorem decodeRow_of_current {place : Nat} {row : List Value}
    (hcurrent : set.current = .ok (place, row)) (calls : Nat) :
    t.decodeRow mode (.asked set calls)
      = ((t.decodeCells mode set.columns row).1,
        .asked { set with rows := set.rows.set place (t.decodeCells mode set.columns row).2 }
          calls) := by
  have hsame : { set with rows := set.rows.set place row } = set := by
    obtain ⟨-, hrow⟩ := ResultSet.current_eq_ok_iff.1 hcurrent
    obtain ⟨hplace, rfl⟩ := List.getElem?_eq_some_iff.1 hrow
    rw [List.set_getElem_self]
  unfold decodeRow decodeCells
  cases hresolve : t.resolve set.columns with
  | error fault => simp [RowFeed.asked, RowFeed.ofSet, hresolve, hsame]
  | ok fields =>
    have htargets : (fields.zipIdx.map fun (i, place) => t.target mode i place).length
        = set.columns.length := by
      rw [List.length_map, List.length_zipIdx, resolve_eq_ok_iff.1 hresolve, List.length_map]
    by_cases hwidth : row.length = set.columns.length
    · have hscan := ResultSet.scan_of_current hcurrent hwidth htargets
        (⟨Record.initial type, fields.map fun _ => none⟩ : Scanned type)
      simp only [RowFeed.asked, RowFeed.ofSet, hresolve, RowFeed.scan, List.isEmpty_nil, if_true,
        hscan, hwidth, ne_eq, not_true_eq_false, if_false]
      cases (ResultSet.deliver (fields.zipIdx.map fun (i, place) => t.target mode i place) row
        ⟨Record.initial type, fields.map fun _ => none⟩).1 <;> rfl
    · simp [RowFeed.asked, RowFeed.ofSet, RowFeed.scan, ResultSet.scan, hresolve, hcurrent, hwidth,
        hsame]

/-- A row that is decoded is used up. -/
theorem snd_decodeCells {row : List Value} {record : Record type}
    (h : (t.decodeCells mode columns row).1 = .ok record) :
    (t.decodeCells mode columns row).2 = row.map fun _ => .null := by
  have hcurrent : (⟨columns, [row], some 0⟩ : ResultSet).current = .ok (0, row) := rfl
  have hrow : t.decodeRow mode _ = _ := decodeRow_of_current hcurrent 0
  rw [h] at hrow
  obtain ⟨place, fields, cells, haccepts, -, hafter⟩ := (decodeRow_eq_ok_iff rfl).1 hrow
  obtain ⟨hcursor, hcells⟩ := haccepts.current
  cases hcursor
  cases hcells
  have hrows := congrArg (fun feed : RowFeed => feed.set.rows) hafter
  simpa [RowFeed.asked, RowFeed.ofSet] using hrows

/-! ## Rows one after another -/

/-- What going through rows comes to. -/
structure Pass (type : RecordType) where
  /-- The records, or the fault that ended it. -/
  result : Except Fault (List (Record type))
  /-- What is left of the rows. -/
  left : List (List Value)
  /-- How many rows were decoded. -/
  decoded : Nat

/-- Decodes rows one after another until one is refused. -/
def decodeRows (t : Table type) (mode : DecodeMode) (columns : List String) :
    List (List Value) → Pass type
  | [] => ⟨.ok [], [], 0⟩
  | row :: rows =>
    match t.decodeCells mode columns row with
    | (.error fault, left) => ⟨.error fault, left :: rows, 0⟩
    | (.ok record, left) =>
      let pass := decodeRows t mode columns rows
      ⟨pass.result.map (record :: ·), left :: pass.left, pass.decoded + 1⟩

variable {before rows : List (List Value)} {limit calls : Nat}

/-- Asking a counted feed for its next row counts the call. -/
theorem next_asked (set : ResultSet) (calls : Nat) :
    (RowFeed.asked set calls).next = (.ok set.next.1, .asked set.next.2 (calls + 1)) := by
  simp [RowFeed.next, RowFeed.asked, RowFeed.ofSet]

/-- A limit beyond the rows ahead lets the loop go through all of them. -/
theorem decodeUpTo_asked (hrows : set.rows = before ++ rows)
    (hnext : min set.nextRow set.rows.length = before.length) (hlimit : rows.length < limit) :
    t.decodeUpTo mode limit (.asked set calls)
      = ((t.decodeRows mode set.columns rows).result,
        .asked ⟨set.columns, before ++ (t.decodeRows mode set.columns rows).left,
            some (before.length + (t.decodeRows mode set.columns rows).decoded)⟩
          (calls + (t.decodeRows mode set.columns rows).decoded + 1)) := by
  -- The rows in front of the cursor grow by what is left of the row that was decoded.
  induction rows generalizing set before limit calls with
  | nil =>
    obtain ⟨limit, rfl⟩ : ∃ n, limit = n + 1 := ⟨limit - 1, by omega⟩
    have hlength : set.rows.length = before.length := by rw [hrows, List.append_nil]
    have hend : set.next = (false, ⟨set.columns, before, some before.length⟩) := by
      unfold ResultSet.next
      rw [hnext, hrows, List.append_nil]
      simp only [Prod.mk.injEq, decide_eq_false_iff_not, and_true]
      omega
    rw [decodeUpTo, next_asked, hend]
    simp [decodeRows]
  | cons row rows ih =>
    obtain ⟨limit, rfl⟩ : ∃ n, limit = n + 1 := ⟨limit - 1, by omega⟩
    have hlength : set.rows.length = before.length + rows.length + 1 := by
      rw [hrows, List.length_append, List.length_cons]
      omega
    have hfound : set.next = (true, set.atRow before.length) := by
      unfold ResultSet.next ResultSet.atRow
      rw [hnext]
      simp only [Prod.mk.injEq, decide_eq_true_iff, and_true]
      omega
    have hcurrent : (set.atRow before.length).current = .ok (before.length, row) :=
      ResultSet.current_eq_ok_iff.2 ⟨rfl, by simp [ResultSet.atRow, hrows]⟩
    have hset (left : List Value) : (set.atRow before.length).rows.set before.length left
        = before ++ left :: rows := by
      show set.rows.set before.length left = before ++ left :: rows
      rw [hrows, List.set_append_right _ _ (Nat.le_refl _), Nat.sub_self, List.set_cons_zero]
    have hrow : t.decodeCells mode (set.atRow before.length).columns row
        = t.decodeCells mode set.columns row := rfl
    rw [decodeUpTo, next_asked, hfound, decodeRows]
    simp only [decodeRow_of_current hcurrent, hset, hrow]
    cases t.decodeCells mode set.columns row with
    | mk result left =>
      cases result with
      | error fault => rfl
      | ok record =>
        have hbehind : min (before.length + 1) (before ++ left :: rows).length
            = (before ++ [left]).length := by simp
        have hrest : t.decodeUpTo mode limit
            (.asked ⟨set.columns, before ++ left :: rows, some before.length⟩ (calls + 1)) = _ :=
          ih (List.append_cons before left rows) hbehind (by simpa using hlimit)
        simp only [ResultSet.atRow] at hrest ⊢
        rw [hrest]
        cases (t.decodeRows mode set.columns rows).result <;>
          simp [Except.map, Nat.add_assoc, Nat.add_comm 1]

/-- A row that is decoded gives the first record and is used up. -/
theorem decodeRows_cons_of_ok {row : List Value} {record : Record type}
    (h : (t.decodeCells mode columns row).1 = .ok record) (rows : List (List Value)) :
    t.decodeRows mode columns (row :: rows)
      = ⟨(t.decodeRows mode columns rows).result.map (record :: ·),
        (row.map fun _ => .null) :: (t.decodeRows mode columns rows).left,
        (t.decodeRows mode columns rows).decoded + 1⟩ := by
  have hcells : t.decodeCells mode columns row = (.ok record, row.map fun _ => .null) :=
    Prod.ext h (snd_decodeCells h)
  rw [decodeRows, hcells]

/-- A row that is refused ends the decoding. -/
theorem decodeRows_cons_of_error {row : List Value} {fault : Fault}
    (h : (t.decodeCells mode columns row).1 = .error fault) (rows : List (List Value)) :
    t.decodeRows mode columns (row :: rows)
      = ⟨.error fault, (t.decodeCells mode columns row).2 :: rows, 0⟩ := by
  have hcells : t.decodeCells mode columns row
      = (.error fault, (t.decodeCells mode columns row).2) := Prod.ext h rfl
  rw [decodeRows, hcells]

/-- Rows that are all decoded give a record each and are used up. -/
theorem decodeRows_of_ok {records : List (Record type)}
    (h : (t.decodeRows mode columns rows).result = .ok records) :
    List.Forall₂ (fun row record => (t.decodeCells mode columns row).1 = .ok record) rows records
      ∧ (t.decodeRows mode columns rows).left = rows.map (fun row => row.map fun _ => .null)
      ∧ (t.decodeRows mode columns rows).decoded = rows.length := by
  induction rows generalizing records with
  | nil =>
    cases h
    exact ⟨.nil, rfl, rfl⟩
  | cons row rows ih =>
    cases hrow : (t.decodeCells mode columns row).1 with
    | error fault =>
      rw [decodeRows_cons_of_error hrow] at h
      cases h
    | ok record =>
      rw [decodeRows_cons_of_ok hrow] at h ⊢
      cases hothers : (t.decodeRows mode columns rows).result with
      | error fault =>
        rw [hothers] at h
        cases h
      | ok others =>
        rw [hothers] at h
        cases h
        obtain ⟨hrecords, hleft, hdecoded⟩ := ih hothers
        exact ⟨.cons hrow hrecords, congrArg _ hleft, congrArg (· + 1) hdecoded⟩

/-- Rows that are not all decoded end with the first that is refused. The rows before it are used
up, and those behind it are as they were. -/
theorem decodeRows_of_error {fault : Fault}
    (h : (t.decodeRows mode columns rows).result = .error fault) :
    ∃ good row later, rows = good ++ row :: later
      ∧ (∀ r ∈ good, ∃ record, (t.decodeCells mode columns r).1 = .ok record)
      ∧ (t.decodeCells mode columns row).1 = .error fault
      ∧ (t.decodeRows mode columns rows).left
        = good.map (fun r => r.map fun _ => .null) ++ (t.decodeCells mode columns row).2 :: later
      ∧ (t.decodeRows mode columns rows).decoded = good.length := by
  induction rows with
  | nil => cases h
  | cons row rows ih =>
    cases hrow : (t.decodeCells mode columns row).1 with
    | error found =>
      rw [decodeRows_cons_of_error hrow] at h ⊢
      cases h
      exact ⟨[], row, rows, rfl, by simp, hrow, rfl, rfl⟩
    | ok record =>
      rw [decodeRows_cons_of_ok hrow] at h ⊢
      cases hothers : (t.decodeRows mode columns rows).result with
      | ok others =>
        rw [hothers] at h
        cases h
      | error found =>
        rw [hothers] at h
        cases h
        obtain ⟨good, bad, later, rfl, hgood, hbad, hleft, hdecoded⟩ := ih hothers
        exact ⟨row :: good, bad, later, rfl, List.forall_mem_cons.2 ⟨⟨record, hrow⟩, hgood⟩, hbad,
          congrArg _ hleft, congrArg (· + 1) hdecoded⟩

/-! ## All rows ahead -/

/-- Going through all rows ahead is going through them one after another, whatever the limit, as
long as it is beyond them. -/
theorem decodeUpTo_ahead (t : Table type) (mode : DecodeMode) (set : ResultSet) (calls : Nat)
    {limit : Nat} (hlimit : set.rows.length - set.nextRow < limit) :
    t.decodeUpTo mode limit (.asked set calls)
      = ((t.decodeRows mode set.columns (set.rows.drop set.nextRow)).result,
        .asked ⟨set.columns, set.rows.take set.nextRow
              ++ (t.decodeRows mode set.columns (set.rows.drop set.nextRow)).left,
            some (min set.nextRow set.rows.length
              + (t.decodeRows mode set.columns (set.rows.drop set.nextRow)).decoded)⟩
          (calls + (t.decodeRows mode set.columns (set.rows.drop set.nextRow)).decoded + 1)) := by
  rw [decodeUpTo_asked (List.take_append_drop set.nextRow set.rows).symm
    List.length_take.symm (by rw [List.length_drop]; exact hlimit), List.length_take]

/-- What decoding all rows gives is what the rows ahead of the cursor give. -/
theorem fst_decodeAll (t : Table type) (mode : DecodeMode) (set : ResultSet) (calls : Nat) :
    (t.decodeAll mode (.asked set calls)).1
      = (t.decodeRows mode set.columns (set.rows.drop set.nextRow)).result :=
  congrArg Prod.fst (t.decodeUpTo_ahead mode set calls (Nat.lt_succ_of_le (Nat.sub_le _ _)))

/-- Decoding the row under the cursor changes this row only. -/
theorem decodeRow_atRow {place : Nat} {row : List Value} (hrow : set.rows[place]? = some row) :
    t.decodeRow mode (.ofSet (set.atRow place))
      = ((t.decodeCells mode set.columns row).1,
        .ofSet ⟨set.columns, set.rows.set place (t.decodeCells mode set.columns row).2,
          some place⟩) := by
  have hcurrent : (set.atRow place).current = .ok (place, row) :=
    ResultSet.current_eq_ok_iff.2 ⟨rfl, hrow⟩
  exact decodeRow_of_current hcurrent 0

/-- All rows ahead were decoded. -/
structure Exhausts (t : Table type) (mode : DecodeMode) (set : ResultSet)
    (records : List (Record type)) (after : RowFeed) : Prop where
  /-- There is a record for every row ahead. -/
  count : records.length = set.rows.length - set.nextRow
  /-- The records are those of the rows, in order. -/
  records : ∀ k record, records[k]? = some record →
    (t.decodeRow mode (.ofSet (set.atRow (set.nextRow + k)))).1 = .ok record
  /-- The columns are the same. -/
  columns : after.set.columns = set.columns
  /-- The rows up to the old cursor are as they were. -/
  kept : ∀ k < set.nextRow, after.set.rows[k]? = set.rows[k]?
  /-- All cells of the rows ahead are NULL. -/
  usedUp : ∀ k, set.nextRow ≤ k →
    after.set.rows[k]? = set.rows[k]?.map fun row => row.map fun _ => .null
  /-- There is no next row. -/
  ended : after.next.1 = .ok false

/-- The row at a place is the first row ahead that was not decoded. -/
structure StopsAt (t : Table type) (mode : DecodeMode) (set : ResultSet) (fault : Fault)
    (place : Nat) (after : RowFeed) : Prop where
  /-- The row is one of those ahead. -/
  ahead : set.nextRow ≤ place ∧ place < set.rows.length
  /-- The rows ahead of it are decoded. -/
  earlier : ∀ k, set.nextRow ≤ k → k < place →
    ∃ record, (t.decodeRow mode (.ofSet (set.atRow k))).1 = .ok record
  /-- It is not decoded, for the given reason. -/
  refused : (t.decodeRow mode (.ofSet (set.atRow place))).1 = .error fault
  /-- The columns are the same. -/
  columns : after.set.columns = set.columns
  /-- The cursor stands on the row. -/
  cursor : after.set.cursor = some place
  /-- The rows up to the old cursor and those behind this row are as they were. -/
  kept : ∀ k, k < set.nextRow ∨ place < k → after.set.rows[k]? = set.rows[k]?
  /-- All cells of the rows that were decoded are NULL. -/
  usedUp : ∀ k, set.nextRow ≤ k → k < place →
    after.set.rows[k]? = set.rows[k]?.map fun row => row.map fun _ => .null
  /-- Of the row itself there is left what decoding it leaves. -/
  left : after.set.rows[place]?
    = (t.decodeRow mode (.ofSet (set.atRow place))).2.set.rows[place]?
  /-- Decoding all rows once more goes on with the row behind it. -/
  again : (t.decodeAll mode after).1 = (t.decodeAll mode (.ofSet (set.atRow place))).1

/-- What stands where in a list of which the end was changed item by item. -/
theorem getElem?_take_append_map_drop {α : Type} (f : α → α) (l : List α) (n k : Nat) :
    (l.take n ++ (l.drop n).map f)[k]? = if k < n then l[k]? else l[k]?.map f := by
  induction l generalizing n k with
  | nil => simp
  | cons x l ih =>
    cases n with
    | zero => rw [List.take_zero, List.drop_zero, List.nil_append, List.getElem?_map,
        if_neg (Nat.not_lt_zero k)]
    | succ n =>
      cases k with
      | zero => simp
      | succ k => simpa using ih n k

/-- Decoding that ends well has exhausted the result set. -/
theorem exhausts_of_ok {records : List (Record type)}
    (h : (t.decodeAll mode (.ofSet set)).1 = .ok records) :
    t.Exhausts mode set records (t.decodeAll mode (.ofSet set)).2 := by
  have hall : t.decodeAll mode (.ofSet set) = _ :=
    t.decodeUpTo_ahead mode set 0 (Nat.lt_succ_of_le (Nat.sub_le _ _))
  rw [hall] at h ⊢
  obtain ⟨hrecords, hleft, hdecoded⟩ := decodeRows_of_ok h
  rw [hleft, hdecoded]
  have hrows (k : Nat) := getElem?_take_append_map_drop
    (fun row : List Value => row.map fun _ => Value.null) set.rows set.nextRow k
  refine ⟨?_, ?_, rfl, ?_, ?_, ?_⟩
  · rw [← hrecords.length_eq, List.length_drop]
  · intro k record hrecord
    obtain ⟨hk, rfl⟩ := List.getElem?_eq_some_iff.1 hrecord
    have hahead : k < (set.rows.drop set.nextRow).length := by rwa [hrecords.length_eq]
    have hrow : set.rows[set.nextRow + k]? = some ((set.rows.drop set.nextRow)[k]) := by
      rw [← List.getElem?_drop, List.getElem?_eq_getElem hahead]
    rw [decodeRow_atRow hrow]
    exact hrecords.get hahead hk
  · intro k hk
    exact (hrows k).trans (if_pos hk)
  · intro k hk
    exact (hrows k).trans (if_neg (by omega))
  · rw [next_asked]
    simp only [ResultSet.next, ResultSet.nextRow, List.length_append, List.length_take,
      List.length_map, List.length_drop, Except.ok.injEq, decide_eq_false_iff_not]
    omega

/-- What the loop leaves when it stops behind rows that were decoded. -/
theorem stopsAt_of_rows {good later : List (List Value)} {row : List Value} {fault : Fault}
    (hbefore : before.length = set.nextRow) (hrows : set.rows = before ++ good ++ row :: later)
    (hgood : ∀ r ∈ good, ∃ record, (t.decodeCells mode set.columns r).1 = .ok record)
    (hrow : (t.decodeCells mode set.columns row).1 = .error fault) (calls : Nat) :
    t.StopsAt mode set fault (set.nextRow + good.length)
      (.asked ⟨set.columns, before ++ (good.map (fun r => r.map fun _ => .null)
          ++ (t.decodeCells mode set.columns row).2 :: later),
        some (set.nextRow + good.length)⟩ calls) := by
  have hlength : set.rows.length = set.nextRow + good.length + later.length + 1 := by
    rw [hrows, List.length_append, List.length_append, List.length_cons, hbefore]
    omega
  have hgoodRow (k : Nat) (hk : k < good.length) :
      set.rows[set.nextRow + k]? = some good[k] := by
    rw [hrows, ← hbefore, List.append_assoc, List.getElem?_append_right (by omega),
      Nat.add_sub_cancel_left, List.getElem?_append_left hk, List.getElem?_eq_getElem hk]
  have hbadRow : set.rows[set.nextRow + good.length]? = some row := by
    rw [hrows, ← hbefore, ← List.length_append, List.getElem?_append_right (Nat.le_refl _),
      Nat.sub_self, List.getElem?_cons_zero]
  -- The rows behind the one that was refused are the same, whatever stands in front of them.
  have hlater (front : List (List Value)) (r : List Value)
      (hfront : front.length = set.nextRow + good.length) :
      (front ++ r :: later).drop (set.nextRow + good.length + 1) = later := by
    rw [List.append_cons, List.drop_left' (by rw [List.length_append, hfront]; rfl)]
  have hbehind : (before ++ (good.map (fun r => r.map fun _ => Value.null)
        ++ (t.decodeCells mode set.columns row).2 :: later)).drop (set.nextRow + good.length + 1)
      = set.rows.drop (set.nextRow + good.length + 1) := by
    rw [← List.append_assoc, hlater _ _ (by simp [hbefore]), hrows, hlater _ _ (by simp [hbefore])]
  refine ⟨?ahead, ?earlier, ?refused, rfl, rfl, ?kept, ?usedUp, ?left, ?again⟩
  case ahead => exact ⟨by omega, by omega⟩
  case earlier =>
    intro k hk hplace
    obtain ⟨j, rfl⟩ := Nat.exists_eq_add_of_le hk
    have hj : j < good.length := by omega
    obtain ⟨record, hrecord⟩ := hgood good[j] (List.getElem_mem hj)
    exact ⟨record, by rw [decodeRow_atRow (hgoodRow j hj), hrecord]⟩
  case refused => rw [decodeRow_atRow hbadRow, hrow]
  case kept =>
    rintro k (hk | hk)
    · show (before ++ (_ ++ _))[k]? = set.rows[k]?
      rw [hrows, List.append_assoc, List.getElem?_append_left (by omega),
        List.getElem?_append_left (by omega)]
    · obtain ⟨j, rfl⟩ := Nat.exists_eq_add_of_lt hk
      have hfrom (rows : List (List Value)) : rows[set.nextRow + good.length + j + 1]?
          = (rows.drop (set.nextRow + good.length + 1))[j]? := by
        rw [List.getElem?_drop, Nat.add_right_comm]
      rw [hfrom, hfrom]
      exact congrArg (·[j]?) hbehind
  case usedUp =>
    intro k hk hplace
    obtain ⟨j, rfl⟩ := Nat.exists_eq_add_of_le hk
    have hj : j < good.length := by omega
    show (before ++ (_ ++ _))[set.nextRow + j]? = _
    rw [hgoodRow j hj, ← hbefore, List.getElem?_append_right (by omega), Nat.add_sub_cancel_left,
      List.getElem?_append_left (by rwa [List.length_map]), List.getElem?_map,
      List.getElem?_eq_getElem hj]
  case left =>
    rw [decodeRow_atRow hbadRow]
    show (before ++ (_ ++ _))[set.nextRow + good.length]? = (set.rows.set _ _)[_]?
    rw [List.getElem?_set_self (by omega), ← List.append_assoc,
      List.getElem?_append_right (by simp [hbefore])]
    simp [hbefore]
  case again =>
    have hatRow := t.fst_decodeAll mode (set.atRow (set.nextRow + good.length)) 0
    exact (t.fst_decodeAll mode _ _).trans
      ((congrArg (fun rows => (t.decodeRows mode set.columns rows).result) hbehind).trans
        hatRow.symm)

/-- Decoding that fails stops at a row. -/
theorem stopsAt_of_error {fault : Fault} (h : (t.decodeAll mode (.ofSet set)).1 = .error fault) :
    ∃ place, t.StopsAt mode set fault place (t.decodeAll mode (.ofSet set)).2 := by
  have hall : t.decodeAll mode (.ofSet set) = _ :=
    t.decodeUpTo_ahead mode set 0 (Nat.lt_succ_of_le (Nat.sub_le _ _))
  rw [hall] at h
  obtain ⟨good, row, later, hahead, hgood, hrow, hleft, hdecoded⟩ := decodeRows_of_error h
  have hlength : set.rows.length - set.nextRow = good.length + later.length + 1 := by
    rw [← List.length_drop, hahead, List.length_append, List.length_cons]
    omega
  rw [hall, hleft, hdecoded, Nat.min_eq_left (by omega)]
  refine ⟨set.nextRow + good.length, stopsAt_of_rows ?_ ?_ hgood hrow _⟩
  · rw [List.length_take]
    omega
  · rw [List.append_assoc, ← hahead, List.take_append_drop]

/-- Decoding all rows ahead of the cursor ends, and no limit beyond these rows matters. It gives
records exactly if each of the rows is decoded, and then one for each, with these rows used up and
the others as they were. Otherwise it gives the fault of the first row that is not decoded and
stops there, with the rows behind it as they were. -/
theorem decodeAll_exhausts_or_stops (t : Table type) (mode : DecodeMode) (set : ResultSet) :
    (∀ limit, set.rows.length - set.nextRow < limit →
        t.decodeUpTo mode limit (.ofSet set) = t.decodeAll mode (.ofSet set))
      ∧ ((∃ records, (t.decodeAll mode (.ofSet set)).1 = .ok records)
        ↔ ∀ place, set.nextRow ≤ place → place < set.rows.length →
          ∃ record, (t.decodeRow mode (.ofSet (set.atRow place))).1 = .ok record)
      ∧ (∀ records, (t.decodeAll mode (.ofSet set)).1 = .ok records →
        t.Exhausts mode set records (t.decodeAll mode (.ofSet set)).2)
      ∧ ∀ fault, (t.decodeAll mode (.ofSet set)).1 = .error fault →
        ∃ place, t.StopsAt mode set fault place (t.decodeAll mode (.ofSet set)).2 := by
  refine ⟨?limit, ⟨?sound, ?complete⟩, fun records => exhausts_of_ok, fun fault => stopsAt_of_error⟩
  case limit =>
    intro limit hlimit
    have hall := t.decodeUpTo_ahead mode set 0 (Nat.lt_succ_of_le (Nat.sub_le _ set.nextRow))
    exact (t.decodeUpTo_ahead mode set 0 hlimit).trans hall.symm
  case sound =>
    rintro ⟨records, h⟩ place hahead hplace
    obtain ⟨k, rfl⟩ := Nat.exists_eq_add_of_le hahead
    have hexhausts := exhausts_of_ok h
    have hk : k < records.length := by
      rw [hexhausts.count]
      omega
    exact ⟨records[k], hexhausts.records k records[k] (List.getElem?_eq_getElem hk)⟩
  case complete =>
    intro hrows
    cases h : (t.decodeAll mode (.ofSet set)).1 with
    | ok records => exact ⟨records, rfl⟩
    | error fault =>
      obtain ⟨place, hstops⟩ := stopsAt_of_error h
      obtain ⟨record, hrecord⟩ := hrows place hstops.ahead.1 hstops.ahead.2
      rw [hstops.refused] at hrecord
      cases hrecord

/-- Of three rows ahead the second is not decoded. The first is used up, the third is decoded when
all rows are decoded once more, and the row under the old cursor is as it was. -/
theorem decodeAll_exhausts_or_stops_note :
    Table.note.StopsAt .offset
        ⟨["id"], [[.text "one"], [.uint ⟨2, by decide⟩], [.text "three"], [.uint ⟨4, by decide⟩]],
          some 0⟩
        (.decode "id" "expected UInt, found text") 2
        (Table.note.decodeAll .offset (.ofSet
          ⟨["id"], [[.text "one"], [.uint ⟨2, by decide⟩], [.text "three"], [.uint ⟨4, by decide⟩]],
            some 0⟩)).2
      ∧ (Table.note.decodeAll .offset (.ofSet
          ⟨["id"], [[.text "one"], [.uint ⟨2, by decide⟩], [.text "three"], [.uint ⟨4, by decide⟩]],
            some 0⟩)).2.set
        = ⟨["id"], [[.text "one"], [.null], [.null], [.uint ⟨4, by decide⟩]], some 2⟩ := by
  refine ⟨?_, rfl⟩
  obtain ⟨place, hstops⟩ := (decodeAll_exhausts_or_stops Table.note .offset
    ⟨["id"], [[.text "one"], [.uint ⟨2, by decide⟩], [.text "three"], [.uint ⟨4, by decide⟩]],
      some 0⟩).2.2.2 (.decode "id" "expected UInt, found text") rfl
  obtain rfl : 2 = place := Option.some.inj hstops.cursor
  exact hstops

end Table

end RecordSql
