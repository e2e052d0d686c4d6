import RecordSql.Proofs.Row.Cursor
import RecordSql.Proofs.Row.Delivery
import Mathlib.Data.Set.List

/-!
# Rows that are refused

When a row is not decoded, the fault names what is to blame, and a known part of the row is used
up. A column that belongs to no field and a row of another width are found before a cell is
touched. Then come the cells in order. Some objections to a cell are raised as soon as it is
scanned, and then the later cells are still there; others are raised only after all cells were
scanned. The two modes of decoding differ in which objections are which: writing a field in place
brings the objection of the field forward.

`Table.Refused` lists all ways to refuse a row, and `Table.decodeRow_eq_error_iff` says that a row
is refused in exactly these.
-/

set_option autoImplicit false

namespace RecordSql

variable {type : RecordType}

/-! ## Objections -/

/-- What a field may have against a cell. -/
abbrev Objection (type : RecordType) : Type := type.Index → Value → Mismatch → Prop

/-- The cell does not convert into the kind of the field's column. -/
def NotConverted : Objection type := fun i cell m => (type.field i).type.convert cell = .error m

/-- The cell converts, but what it converts into does not fit the field. -/
def NotFitting : Objection type := fun i cell m =>
  ∃ v, (type.field i).type.convert cell = .ok v ∧ (type.field i).type.ofValue v = .error m

namespace DecodeMode

/-- The objections that are raised while a row is scanned. -/
def scanObjection : DecodeMode → Objection type
  | .safe => NotConverted
  | .offset => fun i cell m =>
    NotConverted i cell m ∨ (type.field i).hasLayout = true ∧ NotFitting i cell m

/-- The objections that are raised after a row was scanned. -/
def lateObjection : DecodeMode → Objection type
  | .safe => NotFitting
  | .offset => fun i cell m => (type.field i).hasLayout = false ∧ NotFitting i cell m

variable {mode : DecodeMode} {i : type.Index} {cell : Value} {m : Mismatch}

/-- A field that is written in place raises all its objections at once. -/
theorem scanObjection_iff :
    mode.scanObjection i cell m
      ↔ NotConverted i cell m ∨ mode.inPlace (type.field i) = true ∧ NotFitting i cell m := by
  cases mode with
  | safe => simp [scanObjection, inPlace]
  | offset => exact Iff.rfl

/-- A field that is not written in place waits with an objection to the converted value. -/
theorem lateObjection_iff :
    mode.lateObjection i cell m
      ↔ mode.inPlace (type.field i) = false ∧ NotFitting i cell m := by
  cases mode with
  | safe => simp [lateObjection, inPlace]
  | offset => exact Iff.rfl

/-- A cell to which nothing is objected in the scan converts, and it fits its field if the field is
written in place. -/
theorem exists_convert (h : ∀ m, ¬ mode.scanObjection i cell m) :
    ∃ v, (type.field i).type.convert cell = .ok v
      ∧ (mode.inPlace (type.field i) = true →
        ∃ content, (type.field i).type.ofValue v = .ok content) := by
  simp only [scanObjection_iff] at h
  cases hconvert : (type.field i).type.convert cell with
  | error m => exact absurd (.inl hconvert) (h m)
  | ok v =>
    refine ⟨v, rfl, fun hplace => ?_⟩
    cases hvalue : (type.field i).type.ofValue v with
    | error m => exact absurd (.inr ⟨hplace, v, hconvert, hvalue⟩) (h m)
    | ok content => exact ⟨content, rfl⟩

/-- A cell to which nothing is objected converts into what its field takes up. -/
theorem exists_ofValue (hscan : ∀ m, ¬ mode.scanObjection i cell m)
    (hlate : ∀ m, ¬ mode.lateObjection i cell m) :
    ∃ v content, (type.field i).type.convert cell = .ok v
      ∧ (type.field i).type.ofValue v = .ok content := by
  obtain ⟨v, hconvert, hplaced⟩ := exists_convert hscan
  simp only [lateObjection_iff] at hlate
  cases hvalue : (type.field i).type.ofValue v with
  | ok content => exact ⟨v, content, hconvert, hvalue⟩
  | error m =>
    cases hplace : mode.inPlace (type.field i) with
    | true =>
      obtain ⟨content, hcontent⟩ := hplaced hplace
      rw [hvalue] at hcontent
      cases hcontent
    | false => exact absurd ⟨hplace, v, hconvert, hvalue⟩ (hlate m)

end DecodeMode

/-! ## Ways to refuse a row -/

/-- A row whose first cells were moved out of it. -/
def clearedCells (count : Nat) (row : List Value) : List Value :=
  List.replicate count .null ++ row.drop count

/-- What the scan of the current row of a result set comes to, if the row is as wide as the
columns. -/
theorem ResultSet.scan_of_current {set : ResultSet} {place : Nat} {row : List Value}
    (hcurrent : set.current = .ok (place, row)) (width : row.length = set.columns.length)
    {σ : Type} {targets : List (Target σ)} (htargets : targets.length = set.columns.length)
    (state : σ) :
    set.scan targets state = ((deliver targets row state).1,
      { set with rows := set.rows.set place (deliver targets row state).2 }) := by
  unfold scan
  rw [hcurrent]
  simp [width, htargets]

/-- A result set after the first cells of a row were moved out of it. -/
def ResultSet.cleared (set : ResultSet) (place count : Nat) (row : List Value) : ResultSet :=
  { set with rows := set.rows.set place (clearedCells count row) }

namespace Table

/-- The ways in which the current row of a result set is refused: with which fault, and what is left
of the result set. -/
inductive Refused (t : Table type) (mode : DecodeMode) (set : ResultSet) (place : Nat)
    (row : List Value) : Fault → ResultSet → Prop where
  /-- A column belongs to no field. The first such column is named, and no cell was touched. -/
  | unknown (before : List String) (name : String) (after : List String)
      (columns : set.columns = before ++ name :: after)
      (known : ∀ column ∈ before, ∃ i, t.column i = column)
      (unknown : ∀ i, t.column i ≠ name) :
      Refused t mode set place row (.unknownColumn name) set
  /-- The row has another width than the columns, and no cell was touched. -/
  | width (fields : List type.Index) (owned : set.columns = fields.map t.column)
      (width : row.length ≠ set.columns.length) :
      Refused t mode set place row (ResultSet.wrongWidth row.length set.columns.length) set
  /-- There is an objection to a cell in the scan. The first such cell is named, and it and the ones
  before it are used up. -/
  | scanned (fields : List type.Index) (owned : set.columns = fields.map t.column)
      (width : row.length = set.columns.length)
      (before : List (type.Index × Value)) (i : type.Index) (cell : Value)
      (after : List (type.Index × Value)) (m : Mismatch)
      (cells : fields.zip row = before ++ (i, cell) :: after)
      (earlier : ∀ x ∈ before, ∀ m, ¬ mode.scanObjection x.1 x.2 m)
      (objection : mode.scanObjection i cell m) :
      Refused t mode set place row (.decode (t.column i) m.message)
        (set.cleared place (before.length + 1) row)
  /-- There is none in the scan, but one after it. The first such cell is named, and the whole row
  is used up. -/
  | late (fields : List type.Index) (owned : set.columns = fields.map t.column)
      (width : row.length = set.columns.length)
      (clean : ∀ x ∈ fields.zip row, ∀ m, ¬ mode.scanObjection x.1 x.2 m)
      (before : List (type.Index × Value)) (i : type.Index) (cell : Value)
      (after : List (type.Index × Value)) (m : Mismatch)
      (cells : fields.zip row = before ++ (i, cell) :: after)
      (earlier : ∀ x ∈ before, ∀ m, ¬ mode.lateObjection x.1 x.2 m)
      (objection : mode.lateObjection i cell m) :
      Refused t mode set place row (.decode (t.column i) m.message)
        (set.cleared place row.length row)

variable {t : Table type} {mode : DecodeMode}

/-! ## The scan -/

/-- A target refuses a cell that there is an objection to, whatever was scanned before. -/
theorem target_of_scanObjection {i : type.Index} {cell : Value} {m : Mismatch}
    (h : mode.scanObjection i cell m) (place : Nat) (scanned : Scanned type) :
    t.target mode i place cell scanned = .error (t.misfit i m) := by
  rw [DecodeMode.scanObjection_iff] at h
  obtain hconvert | ⟨hplace, v, hconvert, hvalue⟩ := h
  · unfold NotConverted at hconvert
    simp [target, convertCell, hconvert]
  · simp [target, convertCell, hconvert, hplace, assign, hvalue]

/-- A cell to which nothing is objected when it is scanned is taken by its target. -/
theorem exists_target {i : type.Index} {cell : Value} (h : ∀ m, ¬ mode.scanObjection i cell m)
    (place : Nat) (scanned : Scanned type) :
    ∃ next, t.target mode i place cell scanned = .ok next := by
  obtain ⟨v, hconvert, hplaced⟩ := DecodeMode.exists_convert h
  by_cases hplace : mode.inPlace (type.field i) = true
  · obtain ⟨content, hvalue⟩ := hplaced hplace
    simp [target, convertCell, hconvert, hplace, assign, hvalue]
  · simp [target, convertCell, hconvert, hplace]

/-- The first cell that there is an objection to ends the scan. It and the cells before it are used
up. -/
theorem deliver_of_first {before after : List (type.Index × Value)} {i : type.Index} {cell : Value}
    {m : Mismatch} {fields : List type.Index} {row : List Value}
    (hcells : fields.zip row = before ++ (i, cell) :: after)
    (hbefore : ∀ x ∈ before, ∀ m, ¬ mode.scanObjection x.1 x.2 m)
    (h : mode.scanObjection i cell m) (place : Nat) (scanned : Scanned type) :
    ResultSet.deliver ((fields.zipIdx place).map fun (i, place) => t.target mode i place) row
        scanned
      = (.error (t.misfit i m), clearedCells (before.length + 1) row) := by
  -- The refused cell is found by going through the cells before it, on whatever slots.
  induction before generalizing fields row place scanned with
  | nil =>
    obtain ⟨fields, row, rfl, rfl, -⟩ := List.zip_eq_cons_iff.1 hcells
    rw [List.zipIdx_cons, List.map_cons, ResultSet.deliver]
    simp only [target_of_scanObjection h]
    rfl
  | cons x before ih =>
    obtain ⟨fields, row, rfl, rfl, hrest⟩ := List.zip_eq_cons_iff.1 hcells
    obtain ⟨hfirst, hbefore⟩ := List.forall_mem_cons.1 hbefore
    obtain ⟨next, hnext⟩ := exists_target (t := t) hfirst place scanned
    rw [List.zipIdx_cons, List.map_cons, ResultSet.deliver]
    simp only [hnext, ih hrest.symm hbefore (place + 1) next]
    rfl

/-- A scan of cells that there is no objection to leaves the converted values in the slots of the
fields that are not written in place, and uses the row up. -/
theorem exists_deliver {fields : List type.Index} {row : List Value}
    (hlength : fields.length = row.length)
    (hclean : ∀ x ∈ fields.zip row, ∀ m, ¬ mode.scanObjection x.1 x.2 m) :
    Convertible fields row ∧ ∃ record,
      ResultSet.deliver (fields.zipIdx.map fun (i, place) => t.target mode i place) row
          ⟨Record.initial type, fields.map fun _ => none⟩
        = (.ok ⟨record, waiting mode fields row⟩, clearedCells row.length row) := by
  have hcells : Convertible fields row := by
    intro x hx
    obtain ⟨v, hconvert, -⟩ := DecodeMode.exists_convert (hclean x hx)
    exact ⟨v, hconvert⟩
  have hreadable : Readable (fun i => mode.inPlace (type.field i)) fields row := by
    intro x hx hplace
    obtain ⟨v, hconvert, hplaced⟩ := DecodeMode.exists_convert (hclean x hx)
    obtain ⟨content, hvalue⟩ := hplaced hplace
    exact ⟨content, by rw [FieldType.read, hconvert]; exact hvalue⟩
  obtain ⟨record, hfill⟩ := exists_fill hreadable (Record.initial type)
  refine ⟨hcells, record, ?_⟩
  have hcleared : clearedCells row.length row = row.map fun _ => .null := by
    rw [clearedCells, List.drop_length, List.append_nil, List.map_const']
  rw [hcleared]
  exact (deliver_eq_ok_iff [] _ _ hlength).2 ⟨hcells, hfill, rfl, rfl⟩

/-! ## After the scan -/

/-- The first converted value that does not fit its field ends the decoding. -/
theorem assignSlots_of_first {before after : List (type.Index × Value)} {i : type.Index}
    {cell : Value} {m : Mismatch} {fields : List type.Index} {row : List Value}
    (hclean : ∀ x ∈ fields.zip row, ∀ m, ¬ mode.scanObjection x.1 x.2 m)
    (hcells : fields.zip row = before ++ (i, cell) :: after)
    (hbefore : ∀ x ∈ before, ∀ m, ¬ mode.lateObjection x.1 x.2 m)
    (h : mode.lateObjection i cell m) (record : Record type) :
    t.assignSlots mode fields (waiting mode fields row) record = .error (t.misfit i m) := by
  induction before generalizing fields row record with
  | nil =>
    obtain ⟨fields, row, rfl, rfl, -⟩ := List.zip_eq_cons_iff.1 hcells
    obtain ⟨hplace, v, hconvert, hvalue⟩ := DecodeMode.lateObjection_iff.1 h
    simp [waiting, waitingValue, assignSlots, hplace, hconvert, Except.toOption, assign, hvalue]
  | cons x before ih =>
    obtain ⟨fields, row, rfl, rfl, hrest⟩ := List.zip_eq_cons_iff.1 hcells
    obtain ⟨hfirst, hbefore⟩ := List.forall_mem_cons.1 hbefore
    rw [List.zip_cons_cons, List.forall_mem_cons] at hclean
    obtain ⟨v, content, hconvert, hvalue⟩ := DecodeMode.exists_ofValue hclean.1 hfirst
    have hsettled : Settled mode x.1 (waitingValue mode x.1 x.2) := by
      cases hplace : mode.inPlace (type.field x.1) with
      | true => exact .inl hplace
      | false =>
        have hslot : waitingValue mode x.1 x.2 = some v := by
          simp [waitingValue, hplace, hconvert, Except.toOption]
        exact .inr ⟨v, content, hslot, hvalue⟩
    obtain ⟨next, hstep, -⟩ :=
      assignSlots_cons_of_settled (t := t) hsettled fields (waiting mode fields row) record
    have hwaiting : waiting mode (x.1 :: fields) (x.2 :: row)
        = waitingValue mode x.1 x.2 :: waiting mode fields row := rfl
    rw [hwaiting, hstep]
    exact ih hclean.2 hrest.symm hbefore next

/-! ## Rows -/

/-- What decoding a row of the right width comes to once its columns are resolved. -/
theorem decodeRow_current {set : ResultSet} {place : Nat} {row : List Value}
    (hcurrent : set.current = .ok (place, row)) {fields : List type.Index}
    (owned : set.columns = fields.map t.column) (width : row.length = set.columns.length)
    {scanned : Except Fault (Scanned type)} {count : Nat}
    (hdeliver : ResultSet.deliver (fields.zipIdx.map fun (i, place) => t.target mode i place) row
        ⟨Record.initial type, fields.map fun _ => none⟩ = (scanned, clearedCells count row)) :
    t.decodeRow mode (.ofSet set)
      = (scanned.bind fun s => t.assignSlots mode fields s.slots s.record,
        .ofSet (set.cleared place count row)) := by
  have hresolve : t.resolve set.columns = .ok fields := resolve_eq_ok_iff.2 owned
  have htargets : (fields.zipIdx.map fun (i, place) => t.target mode i place).length
      = set.columns.length := by
    rw [List.length_map, List.length_zipIdx, owned, List.length_map]
  have hscan := ResultSet.scan_of_current hcurrent width htargets
    (⟨Record.initial type, fields.map fun _ => none⟩ : Scanned type)
  rw [hdeliver] at hscan
  unfold decodeRow RowFeed.scan
  simp only [RowFeed.ofSet, hresolve, List.isEmpty_nil, if_true, hscan]
  cases scanned with
  | error fault => rfl
  | ok scanned => rfl

/-- A row that is refused is decoded to the fault that refuses it. -/
theorem Refused.decodeRow {set left : ResultSet} {place : Nat} {row : List Value} {fault : Fault}
    (hcurrent : set.current = .ok (place, row)) (h : t.Refused mode set place row fault left) :
    t.decodeRow mode (.ofSet set) = (.error fault, .ofSet left) := by
  cases h with
  | unknown before name after columns known unknown =>
    have hresolve : t.resolve set.columns = .error (.unknownColumn name) := by
      rw [columns]
      exact resolve_of_first_unknown known unknown
    simp [Table.decodeRow, RowFeed.ofSet, hresolve]
  | width fields owned width =>
    have hresolve : t.resolve set.columns = .ok fields := resolve_eq_ok_iff.2 owned
    simp [Table.decodeRow, RowFeed.ofSet, RowFeed.scan, ResultSet.scan, hresolve, hcurrent, width]
  | scanned fields owned width before i cell after m cells earlier objection =>
    rw [decodeRow_current hcurrent owned width
      (deliver_of_first cells earlier objection 0 _)]
    rfl
  | late fields owned width clean before i cell after m cells earlier objection =>
    obtain ⟨-, record, hdeliver⟩ := exists_deliver (t := t) (length_fields owned width) clean
    rw [decodeRow_current hcurrent owned width hdeliver]
    have hslots := assignSlots_of_first (t := t) clean cells earlier objection record
    exact congrArg (·, _) hslots

/-- A row that is not refused in any of these ways is accepted. -/
theorem accepts_or_refused (t : Table type) (mode : DecodeMode) {set : ResultSet} {place : Nat}
    {row : List Value} (hcurrent : set.current = .ok (place, row)) :
    (∃ fields, t.Accepts set place fields row)
      ∨ ∃ fault left, t.Refused mode set place row fault left := by
  -- The cases are those of decoding, in its order: columns, width, scan, slots.
  obtain hknown | ⟨before, name, after, hcolumns, hbefore, hname⟩ :=
    owned_or_first_unowned t.column (fun name => name) set.columns
  · have howned : set.columns ∈ Set.range (List.map t.column) := by
      rw [Set.range_list_map]
      exact hknown
    obtain ⟨fields, howned⟩ := howned
    by_cases hwidth : row.length = set.columns.length
    · obtain hclean | ⟨before, ⟨i, cell⟩, after, hcells, hbefore, m, hobjection⟩ :=
        forall_not_or_first (fun x => ∃ m, mode.scanObjection x.1 x.2 m) (fields.zip row)
      · have hclean : ∀ x ∈ fields.zip row, ∀ m, ¬ mode.scanObjection x.1 x.2 m :=
          fun x hx => not_exists.1 (hclean x hx)
        obtain hfits | ⟨before, ⟨i, cell⟩, after, hcells, hbefore, m, hobjection⟩ :=
          forall_not_or_first (fun x => ∃ m, mode.lateObjection x.1 x.2 m) (fields.zip row)
        · refine .inl ⟨fields, ResultSet.current_eq_ok_iff.1 hcurrent, howned.symm, hwidth, ?_⟩
          intro x hx
          exact DecodeMode.exists_ofValue (hclean x hx) (not_exists.1 (hfits x hx))
        · exact .inr ⟨_, _, .late fields howned.symm hwidth hclean before i cell after m hcells
            (fun x hx => not_exists.1 (hbefore x hx)) hobjection⟩
      · exact .inr ⟨_, _, .scanned fields howned.symm hwidth before i cell after m hcells
          (fun x hx => not_exists.1 (hbefore x hx)) hobjection⟩
    · exact .inr ⟨_, _, .width fields howned.symm hwidth⟩
  · exact .inr ⟨_, _, .unknown before name after hcolumns hbefore hname⟩

/-- The current row of a result set is refused in exactly the ways of `Refused`: an unknown column
or a wrong width is reported before the result set is touched, then come the objections in the scan
and then the late ones, each with its column and with what is left of the row. -/
theorem decodeRow_eq_error_iff (t : Table type) (mode : DecodeMode) {set : ResultSet} {place : Nat}
    {row : List Value} (hcurrent : set.current = .ok (place, row)) {fault : Fault}
    {after : RowFeed} :
    t.decodeRow mode (.ofSet set) = (.error fault, after)
      ↔ ∃ left, t.Refused mode set place row fault left ∧ after = .ofSet left := by
  constructor
  · intro h
    obtain ⟨fields, haccepts⟩ | ⟨found, left, hrefused⟩ := t.accepts_or_refused mode hcurrent
    · have hskipped : (RowFeed.ofSet set).skipped = [] := rfl
      obtain ⟨record, -, hdecode⟩ := exists_decodeRow_of_accepts hskipped haccepts
      rw [hdecode mode] at h
      cases h
    · rw [hrefused.decodeRow hcurrent] at h
      cases h
      exact ⟨left, hrefused, rfl⟩
  · rintro ⟨left, hrefused, rfl⟩
    exact hrefused.decodeRow hcurrent

/-- A number that converts but does not fit its field, a weight that does not even convert, and a
title behind them. The number waits, so the weight is to blame, and the title is still there. -/
theorem decodeRow_eq_error_note :
    Table.note.decodeRow .offset (.ofSet ⟨["id", "weight", "heading"],
        [[.int ⟨5000000000, by decide, by decide⟩, .text "heavy", .text "draft"]], some 0⟩)
      = (.error (.decode "weight" "expected Float, found text"),
        .ofSet ⟨["id", "weight", "heading"], [[.null, .null, .text "draft"]], some 0⟩) := by
  have hid : ∀ m, ¬ DecodeMode.offset.scanObjection (⟨0, by decide⟩ : RecordType.note.Index)
      (.int ⟨5000000000, by decide, by decide⟩) m := by
    rintro m (hconvert | ⟨hlayout, -⟩)
    · cases hconvert
    · cases hlayout
  have hrefused : Table.note.Refused .offset ⟨["id", "weight", "heading"],
      [[.int ⟨5000000000, by decide, by decide⟩, .text "heavy", .text "draft"]], some 0⟩ 0
      [.int ⟨5000000000, by decide, by decide⟩, .text "heavy", .text "draft"]
      (.decode "weight" "expected Float, found text")
      ⟨["id", "weight", "heading"], [[.null, .null, .text "draft"]], some 0⟩ :=
    .scanned [⟨0, by decide⟩, ⟨2, by decide⟩, ⟨1, by decide⟩] (by decide) rfl
      [(⟨0, by decide⟩, .int ⟨5000000000, by decide, by decide⟩)] ⟨2, by decide⟩ (.text "heavy")
      [(⟨1, by decide⟩, .text "draft")] ⟨.float, .otherKind, .text "heavy"⟩ rfl
      (by simpa using hid) (.inl rfl)
  exact (decodeRow_eq_error_iff Table.note .offset rfl).2 ⟨_, hrefused, rfl⟩

end Table

end RecordSql
