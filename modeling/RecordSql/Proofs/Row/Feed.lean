import RecordSql.Proofs.Row.Cursor
import RecordSql.Proofs.Row.Decoding

/-!
# Decoding all rows

All rows of a feed are decoded by asking for the next row and decoding it, again and again, until
there is none or something fails. The limit that is put to this is never met, as every row that is
found leaves one row less ahead.

A feed serves some rows if these are the rows that come next and nothing keeps the feed from
delivering them. One step of decoding takes the first of them, and the feed serves the others then;
so all rows are decoded, in their order, into the records that they hold.
-/

set_option autoImplicit false

namespace RecordSql

variable {type : RecordType}

/-! ## Until the end -/

namespace RowFeed

/-- A scan neither goes on nor adds or drops a row. -/
theorem scan_frame {σ : Type} (feed : RowFeed) (targets : List (Target σ)) (state : σ) :
    (feed.scan targets state).2.set.nextRow = feed.set.nextRow
      ∧ (feed.scan targets state).2.set.rows.length = feed.set.rows.length := by
  have hset {τ : Type} (targets : List (Target τ)) (state : τ) :
      (feed.set.scan targets state).2.nextRow = feed.set.nextRow
        ∧ (feed.set.scan targets state).2.rows.length = feed.set.rows.length := by
    obtain ⟨hcursor, hlength, -⟩ := feed.set.scan_frame targets state
    unfold ResultSet.nextRow
    exact ⟨by rw [hcursor], hlength⟩
  unfold scan
  split
  · exact hset targets state
  · have hkeep := hset (targets.map fun _ => keep) []
    simp only
    split <;> exact hkeep

/-- A row that is found is one of the rows, and the one behind it comes next. -/
theorem next_eq_true {feed found : RowFeed} (h : feed.next = (.ok true, found)) :
    feed.set.nextRow < feed.set.rows.length ∧ found.set.nextRow = feed.set.nextRow + 1
      ∧ found.set.rows = feed.set.rows := by
  unfold next at h
  simp only at h
  split at h
  · cases h
  · obtain ⟨hfound, rfl⟩ := Prod.mk.inj h
    have hlt : feed.set.nextRow < feed.set.rows.length := by
      simpa [ResultSet.next] using hfound
    refine ⟨hlt, ?_, rfl⟩
    show min feed.set.nextRow feed.set.rows.length + 1 = feed.set.nextRow + 1
    omega

end RowFeed

namespace Table

variable {t : Table type} {mode : DecodeMode}

/-- Decoding a row neither goes on nor adds or drops a row. -/
theorem decodeRow_frame (t : Table type) (mode : DecodeMode) (feed : RowFeed) :
    (t.decodeRow mode feed).2.set.nextRow = feed.set.nextRow
      ∧ (t.decodeRow mode feed).2.set.rows.length = feed.set.rows.length := by
  unfold decodeRow
  cases t.resolve feed.set.columns with
  | error fault => exact ⟨rfl, rfl⟩
  | ok fields =>
    simp only
    split <;> exact feed.scan_frame _ _

/-- What decoding all rows comes to: the next row is asked for and decoded until there is none, or
until one of the two fails. -/
inductive DecodesAll (t : Table type) (mode : DecodeMode) :
    RowFeed → Except Fault (List (Record type)) → Prop where
  /-- The next row cannot be asked for. -/
  | lost {feed after : RowFeed} {fault : Fault} (hnext : feed.next = (.error fault, after)) :
    DecodesAll t mode feed (.error fault)
  /-- There is no next row. -/
  | done {feed after : RowFeed} (hnext : feed.next = (.ok false, after)) :
    DecodesAll t mode feed (.ok [])
  /-- The next row is not decoded. -/
  | refused {feed found after : RowFeed} {fault : Fault} (hnext : feed.next = (.ok true, found))
    (hrow : t.decodeRow mode found = (.error fault, after)) : DecodesAll t mode feed (.error fault)
  /-- The next row is decoded, and then the ones behind it. -/
  | row {feed found after : RowFeed} {record : Record type}
    {others : Except Fault (List (Record type))} (hnext : feed.next = (.ok true, found))
    (hrow : t.decodeRow mode found = (.ok record, after))
    (hothers : DecodesAll t mode after others) : DecodesAll t mode feed (others.map (record :: ·))

/-- One step of decoding under a limit is one of decoding all rows, if the same holds of the steps
behind it. -/
theorem decodesAll_of_step {feed : RowFeed} {limit : Nat}
    (hothers : ∀ found record after, feed.next = (.ok true, found) →
      t.decodeRow mode found = (.ok record, after) →
      t.DecodesAll mode after (t.decodeUpTo mode limit after).1) :
    t.DecodesAll mode feed (t.decodeUpTo mode (limit + 1) feed).1 := by
  unfold decodeUpTo
  cases hnext : feed.next with
  | mk answer found =>
    cases answer with
    | error fault => exact .lost hnext
    | ok more =>
      cases more with
      | false => exact .done hnext
      | true =>
        simp only
        cases hrow : t.decodeRow mode found with
        | mk decoded after =>
          cases decoded with
          | error fault => exact .refused hnext hrow
          | ok record =>
            have hmore := hothers found record after hnext hrow
            simp only
            cases hdecode : t.decodeUpTo mode limit after with
            | mk others last =>
              rw [hdecode] at hmore
              cases others with
              | error fault => exact .row hnext hrow hmore
              | ok records => exact .row hnext hrow hmore

/-- A limit beyond the rows that come next is never met. -/
theorem decodesAll_decodeUpTo {feed : RowFeed} {limit : Nat}
    (hlimit : feed.set.rows.length ≤ feed.set.nextRow + limit) :
    t.DecodesAll mode feed (t.decodeUpTo mode (limit + 1) feed).1 := by
  induction limit generalizing feed with
  | zero =>
    apply decodesAll_of_step
    intro found record after hnext hrow
    obtain ⟨hlt, -, -⟩ := RowFeed.next_eq_true hnext
    omega
  | succ limit ih =>
    apply decodesAll_of_step
    intro found record after hnext hrow
    obtain ⟨-, hplace, hrows⟩ := RowFeed.next_eq_true hnext
    obtain ⟨hsame, hlength⟩ := t.decodeRow_frame mode found
    rw [hrow, hplace] at hsame
    rw [hrow, hrows] at hlength
    apply ih
    simp only at hsame hlength
    omega

/-- Decoding all rows of a feed ends where the feed does. -/
theorem decodesAll_decodeAll (t : Table type) (mode : DecodeMode) (feed : RowFeed) :
    t.DecodesAll mode feed (t.decodeAll mode feed).1 :=
  decodesAll_decodeUpTo (Nat.le_add_left _ _)

end Table

/-! ## Rows that are served -/

/-- A feed whose next rows are known, and which delivers them without failing. -/
structure RowFeed.Serves (feed : RowFeed) (columns : List String) (rows : List (List Value)) :
    Prop where
  /-- The names of the columns. -/
  columns : feed.set.columns = columns
  /-- The rows stand behind those that came before. -/
  rows : ∃ before, feed.set.rows = before ++ rows ∧ feed.set.nextRow = before.length
  /-- The connection is not lost. -/
  steady : feed.failNextAt = none
  /-- No column is left out. -/
  complete : feed.skipped = []

namespace RowFeed

/-- A new result set serves all its rows. -/
theorem serves_ofRows (columns : List String) (rows : List (List Value)) :
    (ofSet (.ofRows columns rows)).Serves columns rows where
  columns := rfl
  rows := ⟨[], rfl, rfl⟩
  steady := rfl
  complete := rfl

/-- A feed that serves a row finds it. -/
theorem Serves.next_cons {feed : RowFeed} {columns : List String} {row : List Value}
    {rows : List (List Value)} (h : feed.Serves columns (row :: rows)) :
    ∃ found before, feed.next = (.ok true, found)
      ∧ found.set = ⟨columns, before ++ row :: rows, some before.length⟩
      ∧ found.failNextAt = none ∧ found.skipped = [] := by
  obtain ⟨before, hrows, hnext⟩ := h.rows
  refine ⟨{ feed with set := feed.set.next.2, nextCalls := feed.nextCalls + 1 }, before, ?_, ?_,
    h.steady, h.complete⟩
  · simp [next, ResultSet.next, h.steady, hrows, hnext]
  · simp [ResultSet.next, h.columns, hrows, hnext]

/-- A feed that serves no row finds none. -/
theorem Serves.next_nil {feed : RowFeed} {columns : List String} (h : feed.Serves columns []) :
    ∃ after, feed.next = (.ok false, after) := by
  obtain ⟨before, hrows, hnext⟩ := h.rows
  refine ⟨{ feed with set := feed.set.next.2, nextCalls := feed.nextCalls + 1 }, ?_⟩
  simp [next, ResultSet.next, h.steady, hrows, hnext]

end RowFeed

/-- A row that holds a record: its columns belong to fields that take its cells, and the record
holds what they read. -/
structure Table.RowHolds (t : Table type) (columns : List String) (row : List Value)
    (record : Record type) : Prop where
  /-- There is a cell for every column. -/
  width : row.length = columns.length
  /-- The cells are those of fields, which hold what they read. -/
  fields : ∃ fields, columns = fields.map t.column
    ∧ (∀ x ∈ fields.zip row, ∃ v content, (type.field x.1).type.convert x.2 = .ok v
      ∧ (type.field x.1).type.ofValue v = .ok content)
    ∧ ∀ i, Holds fields row (Record.initial type) record i

namespace Table

variable {t : Table type} {mode : DecodeMode}

/-- Decoding the first row that is served gives the record it holds, and the feed serves the other
rows then. -/
theorem decodeRow_of_serves (mode : DecodeMode) {feed : RowFeed} {columns : List String}
    {row : List Value} {rows : List (List Value)} {record : Record type}
    (h : feed.Serves columns (row :: rows))
    (hrow : t.RowHolds columns row record) :
    ∃ found after, feed.next = (.ok true, found) ∧ t.decodeRow mode found = (.ok record, after)
      ∧ after.Serves columns rows := by
  obtain ⟨found, before, hnext, hset, hsteady, hcomplete⟩ := h.next_cons
  obtain ⟨fields, howned, hfits, hholds⟩ := hrow.fields
  have haccepts : t.Accepts found.set before.length fields row := by
    rw [hset]
    exact ⟨⟨rfl, by simp⟩, howned, hrow.width, hfits⟩
  refine ⟨found, _, hnext,
    (decodeRow_eq_ok_iff hcomplete).2 ⟨before.length, fields, row, haccepts, hholds, rfl⟩, ?_⟩
  refine ⟨?_, ⟨before ++ [row.map fun _ => .null], ?_, ?_⟩, hsteady, hcomplete⟩
  · show found.set.columns = columns
    rw [hset]
  · show found.set.rows.set before.length _ = _
    rw [hset, List.set_append_right _ _ (Nat.le_refl _), Nat.sub_self, List.set_cons_zero,
      List.append_assoc, List.singleton_append]
  · rw [List.length_append, List.length_singleton]
    simp only [ResultSet.nextRow, hset]

/-- As many rows as are asked for are decoded, in their order. -/
theorem decodeUpTo_of_serves {feed : RowFeed} {columns : List String} {rows : List (List Value)}
    {records : List (Record type)} {limit : Nat} (h : feed.Serves columns rows)
    (hrows : List.Forall₂ (t.RowHolds columns) rows records) (hlimit : rows.length < limit) :
    (t.decodeUpTo mode limit feed).1 = .ok records := by
  -- After a step the feed serves one row less, which is what the next step needs of it.
  induction hrows generalizing feed limit with
  | nil =>
    obtain ⟨limit, rfl⟩ : ∃ n, limit = n + 1 := ⟨limit - 1, by omega⟩
    obtain ⟨after, hnext⟩ := h.next_nil
    rw [decodeUpTo, hnext]
  | @cons row record rows records hrow _ ih =>
    obtain ⟨limit, rfl⟩ : ∃ n, limit = n + 1 := ⟨limit - 1, by omega⟩
    obtain ⟨found, after, hnext, hdecode, hserves⟩ := decodeRow_of_serves mode h hrow
    have hrest := ih hserves (by simpa using hlimit)
    rw [decodeUpTo, hnext]
    simp only [hdecode]
    cases hmore : t.decodeUpTo mode limit after with
    | mk result feed =>
      rw [hmore] at hrest
      dsimp only at hrest
      rw [hrest]

/-- A result set whose rows hold records is decoded into these records. -/
theorem decodeAll_ofRows {columns : List String} {rows : List (List Value)}
    {records : List (Record type)} (hrows : List.Forall₂ (t.RowHolds columns) rows records) :
    (t.decodeAll mode (.ofSet (.ofRows columns rows))).1 = .ok records :=
  decodeUpTo_of_serves (RowFeed.serves_ofRows columns rows) hrows (Nat.lt_succ_self _)

end Table

end RecordSql
