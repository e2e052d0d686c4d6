import RecordSql.Proofs.Row.Filling
import RecordSql.Proofs.Schema.Table

/-!
# Decoding a row fills a record

Both modes of decoding come to the same: a row is decoded if every column belongs to a field that
can read its cell, and then the record is the initial one, filled from the cells. The scan fills
the fields that are written in place and leaves the values of the others in their slots; writing
the slots into their fields fills the rest. So a mode only says which fields are filled first.
-/

set_option autoImplicit false

namespace RecordSql

variable {type : RecordType}

/-- Delivering cells succeeds if the first target takes the first cell and the remaining cells are
delivered then; a cell that was taken is NULL. -/
theorem ResultSet.deliver_cons_eq_ok_iff {σ : Type} {target : Target σ} {targets : List (Target σ)}
    {cell : Value} {cells left : List Value} {state final : σ} :
    deliver (target :: targets) (cell :: cells) state = (.ok final, left)
      ↔ ∃ next others, target cell state = .ok next
        ∧ deliver targets cells next = (.ok final, others) ∧ left = .null :: others := by
  rw [deliver]
  cases target cell state with
  | error fault => simp
  | ok next =>
    cases h : deliver targets cells next with
    | mk result others =>
      simp only [h]
      constructor
      · intro heq
        cases heq
        exact ⟨next, others, rfl, h, rfl⟩
      · rintro ⟨_, _, hnext, heq, rfl⟩
        cases hnext
        rw [h] at heq
        cases heq
        rfl

/-- A scan succeeds on a current row of the right width for as many targets as columns if the cells
are delivered. -/
theorem ResultSet.scan_eq_ok_iff {σ : Type} {set after : ResultSet} {targets : List (Target σ)}
    {state final : σ} :
    set.scan targets state = (.ok final, after)
      ↔ ∃ place row left, set.cursor = some place ∧ set.rows[place]? = some row
        ∧ row.length = set.columns.length ∧ targets.length = set.columns.length
        ∧ deliver targets row state = (.ok final, left)
        ∧ after = { set with rows := set.rows.set place left } := by
  rw [scan, current]
  cases hcursor : set.cursor with
  | none => simp
  | some place =>
    cases hrow : set.rows[place]? with
    | none => simp [hrow]
    | some row =>
      by_cases hwidth : row.length = set.columns.length
      · by_cases htargets : targets.length = set.columns.length
        · cases hdeliver : deliver targets row state with
          | mk result left => simp [hrow, hwidth, htargets, hdeliver, eq_comm, and_assoc]
        · simp [hrow, hwidth, htargets]
      · simp [hrow, hwidth]

/-- A feed that leaves nothing out scans as its result set does. -/
theorem RowFeed.scan_eq_ok_iff {σ : Type} {feed after : RowFeed} {targets : List (Target σ)}
    {state final : σ} (hskipped : feed.skipped = []) :
    feed.scan targets state = (.ok final, after)
      ↔ ∃ set, feed.set.scan targets state = (.ok final, set)
        ∧ after = { feed with set := set } := by
  rw [scan, if_pos (by simp [hskipped])]
  cases hscan : feed.set.scan targets state with
  | mk result set => simp [eq_comm, and_assoc]

namespace Table

variable {t : Table type} {mode : DecodeMode}

/-! ## Scanning -/

/-- The value that waits in the slot of a column after its cell was scanned. -/
def waitingValue (mode : DecodeMode) (i : type.Index) (cell : Value) : Option Value :=
  if mode.inPlace (type.field i) then none else ((type.field i).type.convert cell).toOption

/-- The values that wait in the slots of the columns. -/
def waiting (mode : DecodeMode) (fields : List type.Index) (row : List Value) :
    List (Option Value) :=
  (fields.zip row).map fun x => waitingValue mode x.1 x.2

/-- Every cell of a row converts into the kind of its column. -/
def Convertible (fields : List type.Index) (row : List Value) : Prop :=
  ∀ x ∈ fields.zip row, ∃ v, (type.field x.1).type.convert x.2 = .ok v

/-- The cells of a row convert one by one. -/
theorem convertible_cons {i : type.Index} {fields : List type.Index} {cell : Value}
    {row : List Value} :
    Convertible (i :: fields) (cell :: row)
      ↔ (∃ v, (type.field i).type.convert cell = .ok v) ∧ Convertible fields row := by
  simp only [Convertible, List.zip_cons_cons, List.forall_mem_cons]

/-- The target of a column, whose slot is empty, takes a cell that converts: it writes the cell into
its field, or leaves it in the slot. -/
theorem target_eq_ok_iff {i : type.Index} {cell : Value} {record : Record type}
    {before after : List (Option Value)} {next : Scanned type} :
    t.target mode i before.length cell ⟨record, before ++ none :: after⟩ = .ok next
      ↔ (∃ v, (type.field i).type.convert cell = .ok v)
        ∧ Takes (fun i => mode.inPlace (type.field i)) i cell record next.record
        ∧ next.slots = before ++ waitingValue mode i cell :: after := by
  have hset (v : Value) :
      (before ++ none :: after).set before.length (some v) = before ++ some v :: after := by
    rw [List.set_append_right _ _ (Nat.le_refl _), Nat.sub_self, List.set_cons_zero]
  obtain ⟨found, slots⟩ := next
  rw [target, convertCell, Takes, FieldType.read, waitingValue]
  cases (type.field i).type.convert cell with
  | error m => simp
  | ok v =>
    by_cases hplace : mode.inPlace (type.field i) = true
    · cases hvalue : (type.field i).type.ofValue v with
      | error m => simp [hplace, assign, hvalue]
      | ok content => simp [hplace, assign, hvalue, eq_comm]
    · simp [hplace, hset, Except.toOption, eq_comm]

/-- The scan converts every cell, fills the fields that are written in place, and leaves the values
of the others in the slots of their columns. -/
theorem deliver_eq_ok_iff (before : List (Option Value)) (record : Record type) (left : List Value)
    {fields : List type.Index} {row : List Value} {scanned : Scanned type}
    (hlength : fields.length = row.length) :
    ResultSet.deliver ((fields.zipIdx before.length).map fun (i, place) => t.target mode i place)
        row ⟨record, before ++ fields.map fun _ => none⟩ = (.ok scanned, left)
      ↔ Convertible fields row
        ∧ fill (fun i => mode.inPlace (type.field i)) fields row record = some scanned.record
        ∧ scanned.slots = before ++ waiting mode fields row
        ∧ left = row.map fun _ => .null := by
  -- `before` are the slots of the columns that were scanned already; it grows by one at each step.
  induction fields generalizing row left before record with
  | nil =>
    cases row with
    | cons cell row => cases hlength
    | nil =>
      simp only [List.zipIdx_nil, List.map_nil, List.append_nil, ResultSet.deliver, Convertible,
        fill, waiting, List.zip_nil_left, List.not_mem_nil, false_implies, implies_true, true_and]
      constructor
      · intro h
        cases h
        exact ⟨rfl, rfl, rfl⟩
      · rintro ⟨hrecord, hslots, rfl⟩
        cases hrecord
        rw [← hslots]
  | cons i fields ih =>
    cases row with
    | nil => cases hlength
    | cons cell row =>
      have hlength : fields.length = row.length := Nat.succ.inj hlength
      have hrest (slot : Option Value) (record : Record type) (others : List Value) :=
        ih (before ++ [slot]) record others hlength
      simp only [List.length_append, List.length_cons, List.length_nil, List.append_assoc,
        List.cons_append, List.nil_append] at hrest
      have hwaiting : waiting mode (i :: fields) (cell :: row)
          = waitingValue mode i cell :: waiting mode fields row := rfl
      rw [List.zipIdx_cons, List.map_cons, ResultSet.deliver_cons_eq_ok_iff, convertible_cons,
        fill_cons_eq_some_iff, hwaiting]
      constructor
      · rintro ⟨⟨next, slots⟩, others, htarget, hdeliver, rfl⟩
        obtain ⟨hconvert, htakes, rfl⟩ := target_eq_ok_iff.1 htarget
        obtain ⟨hcells, hfill, hslots, rfl⟩ := (hrest _ _ _).1 hdeliver
        exact ⟨⟨hconvert, hcells⟩, ⟨next, htakes, hfill⟩, hslots, rfl⟩
      · rintro ⟨⟨hconvert, hcells⟩, ⟨next, htakes, hfill⟩, hslots, rfl⟩
        exact ⟨⟨next, _⟩, _, target_eq_ok_iff.2 ⟨hconvert, htakes, rfl⟩,
          (hrest _ _ _).2 ⟨hcells, hfill, hslots, rfl⟩, rfl⟩

/-- Writing the slots of a row whose cells convert fills the fields that are not written in
place. -/
theorem assignSlots_eq_ok_iff {fields : List type.Index} {row : List Value}
    {before after : Record type} (hlength : fields.length = row.length)
    (hcells : Convertible fields row) :
    t.assignSlots mode fields (waiting mode fields row) before = .ok after
      ↔ fill (fun i => !mode.inPlace (type.field i)) fields row before = some after := by
  induction fields generalizing row before with
  | nil => simp [assignSlots, fill]
  | cons i fields ih =>
    cases row with
    | nil => cases hlength
    | cons cell row =>
      have hlength : fields.length = row.length := Nat.succ.inj hlength
      obtain ⟨⟨v, hconvert⟩, hcells⟩ := convertible_cons.1 hcells
      have hread : (type.field i).type.read cell = (type.field i).type.ofValue v := by
        rw [FieldType.read, hconvert]
      have hslots : waiting mode (i :: fields) (cell :: row)
          = (if mode.inPlace (type.field i) then none else some v) :: waiting mode fields row := by
        simp [waiting, waitingValue, hconvert, Except.toOption]
      rw [hslots, fill, hread]
      by_cases hplace : mode.inPlace (type.field i) = true
      · simp only [assignSlots, hplace, if_true, Bool.not_true, Bool.false_eq_true, if_false]
        exact ih hlength hcells
      · simp only [assignSlots, hplace, Bool.false_eq_true, if_false, Bool.not_false, if_true]
        cases hvalue : (type.field i).type.ofValue v with
        | error m => simp [assign, hvalue]
        | ok content =>
          simp only [assign, hvalue]
          exact ih hlength hcells

/-! ## Rows -/

/-- A row that is as wide as its columns has a cell for each of their fields. -/
theorem length_fields {set : ResultSet} {fields : List type.Index} {row : List Value}
    (howned : set.columns = fields.map t.column) (hwidth : row.length = set.columns.length) :
    fields.length = row.length := by
  rw [hwidth, howned, List.length_map]

/-- What lets the current row of a result set be decoded: there is such a row, every column belongs
to a field, there is a cell for every column, and every cell converts into the kind of its field and
fits the field then. -/
structure Accepts (t : Table type) (set : ResultSet) (place : Nat) (fields : List type.Index)
    (row : List Value) : Prop where
  /-- The cursor stands on the row. -/
  current : set.cursor = some place ∧ set.rows[place]? = some row
  /-- The columns belong to the fields. -/
  owned : set.columns = fields.map t.column
  /-- The row is as wide as the columns. -/
  width : row.length = set.columns.length
  /-- The cells fit the fields. -/
  fits : ∀ x ∈ fields.zip row, ∃ v content, (type.field x.1).type.convert x.2 = .ok v
    ∧ (type.field x.1).type.ofValue v = .ok content

/-- The steps of decoding a row. -/
theorem decodeRow_eq_ok_iff_steps {feed after : RowFeed} {record : Record type} :
    t.decodeRow mode feed = (.ok record, after)
      ↔ ∃ fields scanned, t.resolve feed.set.columns = .ok fields
        ∧ feed.scan (fields.zipIdx.map fun (i, place) => t.target mode i place)
          ⟨Record.initial type, fields.map fun _ => none⟩ = (.ok scanned, after)
        ∧ t.assignSlots mode fields scanned.slots scanned.record = .ok record := by
  rw [decodeRow]
  cases t.resolve feed.set.columns with
  | error fault => simp
  | ok fields =>
    dsimp only
    constructor
    · intro h
      cases hscan : feed.scan (fields.zipIdx.map fun (i, place) => t.target mode i place)
          ⟨Record.initial type, fields.map fun _ => none⟩ with
      | mk result left =>
        rw [hscan] at h
        cases result with
        | error fault => cases h
        | ok scanned =>
          obtain ⟨hslots, rfl⟩ := Prod.mk.inj h
          exact ⟨fields, scanned, rfl, hscan, hslots⟩
    · rintro ⟨_, scanned, hfields, hscan, hslots⟩
      cases hfields
      rw [hscan]
      dsimp only
      rw [hslots]

/-- A feed that leaves nothing out is decoded if its current row can be, whatever the mode. The
record is the initial one, filled from the row, whose cells are NULL then. -/
theorem decodeRow_eq_ok_iff {feed after : RowFeed} {record : Record type}
    (hskipped : feed.skipped = []) :
    t.decodeRow mode feed = (.ok record, after)
      ↔ ∃ place fields row, t.Accepts feed.set place fields row
        ∧ (∀ i, Holds fields row (Record.initial type) record i)
        ∧ after = { feed with
            set := { feed.set with
              rows := feed.set.rows.set place (row.map fun _ => .null) } } := by
  rw [decodeRow_eq_ok_iff_steps]
  simp only [resolve_eq_ok_iff, RowFeed.scan_eq_ok_iff hskipped, ResultSet.scan_eq_ok_iff]
  constructor
  · -- The scan filled the fields that are written in place, and the slots filled the others.
    rintro ⟨fields, scanned, howned,
      ⟨_, ⟨place, row, left, hcursor, hrow, hwidth, -, hdeliver, rfl⟩, rfl⟩, hslots⟩
    have hlength : fields.length = row.length := length_fields howned hwidth
    obtain ⟨hcells, hplaced, hwaiting, rfl⟩ :=
      (deliver_eq_ok_iff [] _ _ hlength).1 hdeliver
    rw [hwaiting, List.nil_append, assignSlots_eq_ok_iff hlength hcells] at hslots
    have hfill := (fill_split _ hlength).1 ⟨_, hplaced, hslots⟩
    obtain ⟨hreadable, hholds⟩ := (fill_eq_some_iff hlength).1 hfill
    refine ⟨place, fields, row, ⟨⟨hcursor, hrow⟩, howned, hwidth, fun x hx => ?_⟩, hholds, rfl⟩
    obtain ⟨v, hv⟩ := hcells x hx
    obtain ⟨content, hcontent⟩ := hreadable x hx rfl
    rw [FieldType.read, hv] at hcontent
    exact ⟨v, content, hv, hcontent⟩
  · rintro ⟨place, fields, row, ⟨⟨hcursor, hrow⟩, howned, hwidth, hfits⟩, hholds, rfl⟩
    have hlength : fields.length = row.length := length_fields howned hwidth
    have hcells : Convertible fields row := fun x hx => by
      obtain ⟨v, _, hv, _⟩ := hfits x hx
      exact ⟨v, hv⟩
    have hreadable : Readable (fun _ => true) fields row := fun x hx _ => by
      obtain ⟨v, content, hv, hcontent⟩ := hfits x hx
      exact ⟨content, by rw [FieldType.read, hv]; exact hcontent⟩
    have hfill : fill (fun _ => true) fields row (Record.initial type) = some record :=
      (fill_eq_some_iff hlength).2 ⟨hreadable, hholds⟩
    -- `between` is the record after the scan, before the slots are written.
    obtain ⟨between, hplaced, hslots⟩ :=
      (fill_split (fun i => mode.inPlace (type.field i)) hlength).2 hfill
    refine ⟨fields, ⟨between, waiting mode fields row⟩, howned, ⟨_, ⟨place, row, _, hcursor, hrow,
      hwidth, ?_, (deliver_eq_ok_iff [] _ _ hlength).2 ⟨hcells, hplaced, rfl, rfl⟩, rfl⟩,
      rfl⟩, (assignSlots_eq_ok_iff hlength hcells).2 hslots⟩
    rw [List.length_map, List.length_zipIdx, howned, List.length_map]

/-- A row that can be decoded is decoded into some record in every mode. -/
theorem exists_decodeRow_of_accepts {feed : RowFeed} {place : Nat} {fields : List type.Index}
    {row : List Value} (hskipped : feed.skipped = []) (h : t.Accepts feed.set place fields row) :
    ∃ record, (∀ i, Holds fields row (Record.initial type) record i)
      ∧ ∀ mode, t.decodeRow mode feed = (.ok record, { feed with
          set := { feed.set with rows := feed.set.rows.set place (row.map fun _ => .null) } }) := by
  have hlength : fields.length = row.length := length_fields h.owned h.width
  have hreadable : Readable (fun _ => true) fields row := fun x hx _ => by
    obtain ⟨v, content, hv, hcontent⟩ := h.fits x hx
    exact ⟨content, by rw [FieldType.read, hv]; exact hcontent⟩
  obtain ⟨record, hfill⟩ := exists_fill hreadable (Record.initial type)
  have hholds : ∀ i, Holds fields row (Record.initial type) record i :=
    ((fill_eq_some_iff hlength).1 hfill).2
  exact ⟨record, hholds, fun mode =>
    (decodeRow_eq_ok_iff hskipped).2 ⟨place, fields, row, h, hholds, rfl⟩⟩

/-- Both modes decode the same rows into the same records: exactly the rows whose columns all belong
to fields that take their cells. Every field of the record holds what it reads from the last of its
cells, and its initial content without one; an integer field holds the number of that cell. The
cells of the row are NULL afterwards, and nothing else changed. -/
theorem decodeRow_modes_agree (t : Table type) (set : ResultSet) :
    (∀ record, (t.decodeRow .safe (.ofSet set)).1 = .ok record
        ↔ (t.decodeRow .offset (.ofSet set)).1 = .ok record)
      ∧ (∀ mode, (∃ record, (t.decodeRow mode (.ofSet set)).1 = .ok record)
        ↔ ∃ place fields row, t.Accepts set place fields row)
      ∧ ∀ mode place fields row, t.Accepts set place fields row →
        ∃ record, t.decodeRow mode (.ofSet set) = (.ok record,
            .ofSet { set with rows := set.rows.set place (row.map fun _ => .null) })
          ∧ (∀ i, Holds fields row (Record.initial type) record i)
          ∧ ∀ i cell, (type.field i).type.kind = .int ∨ (type.field i).type.kind = .uint →
            lastCell? i fields row = some cell →
              Scalar.integer? (record.value i) = Scalar.integer? cell := by
  have hok (mode : DecodeMode) (record : Record type) :
      (t.decodeRow mode (.ofSet set)).1 = .ok record
        ↔ ∃ after, t.decodeRow mode (.ofSet set) = (.ok record, after) :=
    ⟨fun h => ⟨_, Prod.ext h rfl⟩, fun ⟨after, h⟩ => by rw [h]⟩
  have hskipped : (RowFeed.ofSet set).skipped = [] := rfl
  refine ⟨fun record => ?_, fun mode => ⟨?_, ?_⟩, fun mode place fields row haccepts => ?_⟩
  · rw [hok, hok]
    simp only [decodeRow_eq_ok_iff hskipped]
  · rintro ⟨record, h⟩
    obtain ⟨after, h⟩ := (hok mode record).1 h
    obtain ⟨place, fields, row, haccepts, -⟩ := (decodeRow_eq_ok_iff rfl).1 h
    exact ⟨place, fields, row, haccepts⟩
  · rintro ⟨place, fields, row, haccepts⟩
    obtain ⟨record, -, h⟩ := exists_decodeRow_of_accepts hskipped haccepts
    exact ⟨record, (hok mode record).2 ⟨_, h mode⟩⟩
  · obtain ⟨record, hholds, h⟩ := exists_decodeRow_of_accepts hskipped haccepts
    refine ⟨record, h mode, hholds, fun i cell hkind hcell => ?_⟩
    have hread := hholds i
    rw [Holds, hcell] at hread
    exact FieldType.integer?_of_read hkind hread

/-- The second row of two, with the columns out of order and one of them twice. -/
theorem decodeRow_modes_agree_note : ∃ record,
    Table.note.decodeRow .offset (.ofSet ⟨["heading", "id", "heading"],
        [[], [.text "draft", .int ⟨7, by decide, by decide⟩, .text "final"]], some 1⟩)
      = (.ok record, .ofSet ⟨["heading", "id", "heading"], [[], [.null, .null, .null]], some 1⟩)
      ∧ Scalar.integer? (record.value ⟨0, by decide⟩) = some 7 := by
  obtain ⟨record, hdecode, -, hinteger⟩ := (decodeRow_modes_agree Table.note
    ⟨["heading", "id", "heading"],
      [[], [.text "draft", .int ⟨7, by decide, by decide⟩, .text "final"]], some 1⟩).2.2 .offset 1
    [⟨1, by decide⟩, ⟨0, by decide⟩, ⟨1, by decide⟩]
    [.text "draft", .int ⟨7, by decide, by decide⟩, .text "final"]
    { current := ⟨rfl, rfl⟩
      owned := by decide
      width := rfl
      fits := by
        intro x hx
        simp only [List.zip_cons_cons, List.zip_nil_right, List.mem_cons, List.not_mem_nil,
          or_false] at hx
        rcases hx with rfl | rfl | rfl <;> exact ⟨_, _, rfl, rfl⟩ }
  exact ⟨record, hdecode,
    hinteger ⟨0, by decide⟩ (.int ⟨7, by decide, by decide⟩) (.inr rfl) rfl⟩

end Table

end RecordSql
