import RecordSql.Proofs.Fault
import RecordSql.Proofs.Row.Delivery

/-!
# Faults of reading rows

Once rows have come, nothing that goes wrong with them is a fault of construction, provided that the
driver raises no such fault of its own. A driver may also end with what a target told it, so what is
asked of it is relative to that. The rows of a feed need no proviso: a feed is one more driver, and
its own faults are known.
-/

set_option autoImplicit false

namespace RecordSql

variable {type : RecordType}

/-! ## Drivers -/

/-- A scan that ends only with late faults, as long as the targets answer with such faults. -/
def Scanning.FailsLate {width : Nat} : Scanning width → Prop
  | .ends result => FailsOnly Fault.Late result
  | .offers _ _ next => ∀ answer, FailsOnly Fault.Late answer → (next answer).FailsLate

/-- Rows whose driver raises only late faults. -/
structure DrivenRows.FailsLate (rows : DrivenRows) : Prop where
  /-- In a scan. -/
  scan : ∀ row ∈ rows.rows, ∀ width, (row.scan width).FailsLate
  /-- Behind the last row. -/
  loss : ∀ fault ∈ rows.loss, fault.Late

/-- Offers that fail late to targets that fail late fail late. -/
theorem Scanning.failsOnly_run {width : Nat} {σ : Type} {targets : Fin width → Target σ}
    (htargets : ∀ place value state, FailsOnly Fault.Late (targets place value state))
    {scan : Scanning width} (h : scan.FailsLate) (state : σ) :
    FailsOnly Fault.Late (scan.run targets state) := by
  induction scan generalizing state with
  | ends result =>
    cases result with
    | error fault => exact .error (h fault rfl)
    | ok done => exact .ok state
  | offers place value next ih =>
    unfold run
    have htarget := htargets place value state
    cases hanswer : targets place value state with
    | ok after => exact ih _ (h _ (.ok ())) after
    | error fault => exact ih _ (h _ (.error (htarget fault hanswer))) state

/-- A feed ends a scan with a fault of its own, which is a late one, or with what a target said. -/
theorem RowFeed.failsLate_scanning (feed : RowFeed) (width : Nat) :
    (feed.scanning width).FailsLate := by
  have hoffer (cells : List Value) (place : Nat) :
      (offerCells feed.skipped place cells : Scanning width).FailsLate := by
    induction cells generalizing place with
    | nil => exact .ok ()
    | cons cell cells ih =>
      unfold offerCells
      split
      · split
        · exact ih (place + 1)
        · intro answer hanswer
          cases answer with
          | ok done => exact ih (place + 1)
          | error fault => exact hanswer
      · exact .ok ()
  have hcurrent : FailsOnly Fault.Late feed.set.current := by
    unfold ResultSet.current
    split
    · exact .error rfl
    · split
      · exact .error rfl
      · exact .ok _
  unfold scanning
  cases hfound : feed.set.current with
  | error fault => exact .error (hcurrent fault hfound)
  | ok found =>
    simp only
    split
    · exact .error rfl
    · split
      · exact .error rfl
      · exact hoffer found.2 0

/-- Asking for the next row fails late. -/
theorem RowFeed.failsOnly_next (feed : RowFeed) : FailsOnly Fault.Late feed.next.1 := by
  unfold next
  simp only
  split
  · exact .error rfl
  · exact .ok _

namespace Table

variable {t : Table type} {mode : DecodeMode}

/-! ## Decoding -/

/-- A column of no field is a late fault. -/
theorem failsOnly_resolve (columns : List String) : FailsOnly Fault.Late (t.resolve columns) := by
  apply FailsOnly.mapM
  intro name
  unfold requireColumn
  split
  · exact .ok _
  · exact .error rfl

/-- A content that a field refuses is a late fault. -/
theorem failsOnly_assign (record : Record type) (i : type.Index) (value : Value) :
    FailsOnly Fault.Late (t.assign record i value) := by
  unfold assign
  split
  · exact .ok _
  · exact .error rfl

/-- A cell that a target refuses is a late fault. -/
theorem failsOnly_target (i : type.Index) (place : Nat) (cell : Value) (scanned : Scanned type) :
    FailsOnly Fault.Late (t.target mode i place cell scanned) := by
  have hconvert : FailsOnly Fault.Late (t.convertCell i cell) := by
    unfold convertCell
    split
    · exact .ok _
    · exact .error rfl
  unfold target
  cases hcell : t.convertCell i cell with
  | error fault => exact .error (hconvert fault hcell)
  | ok value =>
    have hassign : FailsOnly Fault.Late (t.assign scanned.record i value) :=
      failsOnly_assign scanned.record i value
    simp only
    split
    · split
      · rename_i fault hfault
        exact .error (hassign fault hfault)
      · exact .ok _
    · exact .ok _

/-- A slot that was left empty is a late fault. -/
theorem failsOnly_assignSlots (fields : List type.Index) (slots : List (Option Value))
    (record : Record type) : FailsOnly Fault.Late (t.assignSlots mode fields slots record) := by
  induction fields generalizing slots record with
  | nil => exact .ok record
  | cons i fields ih =>
    cases slots with
    | nil => exact .ok record
    | cons slot slots =>
      unfold assignSlots
      split
      · exact ih slots record
      · cases slot with
        | none => exact .error rfl
        | some value =>
          have hassign : FailsOnly Fault.Late (t.assign record i value) :=
            failsOnly_assign record i value
          simp only
          split
          · rename_i fault hfault
            exact .error (hassign fault hfault)
          · exact ih slots _

/-- Decoding a row whose driver fails late fails late. -/
theorem failsOnly_decodeDriven {row : DrivenRow} (h : ∀ width, (row.scan width).FailsLate) :
    FailsOnly Fault.Late (t.decodeDriven mode row) := by
  have hresolve : FailsOnly Fault.Late (t.resolve row.columns) := failsOnly_resolve row.columns
  unfold decodeDriven
  cases hfields : t.resolve row.columns with
  | error fault => exact .error (hresolve fault hfields)
  | ok fields =>
    have htarget (place : Fin fields.length) (value : Value) (state : Scanned type) :
        FailsOnly Fault.Late (t.target mode (fields.get place) place value state) :=
      failsOnly_target (fields.get place) place value state
    have hrun := Scanning.failsOnly_run htarget (h fields.length)
      ⟨Record.initial type, fields.map fun _ => none⟩
    simp only
    split
    · rename_i fault hfault
      exact .error (hrun fault hfault)
    · exact failsOnly_assignSlots fields _ _

/-- Decoding the current row of a feed fails late. -/
theorem failsOnly_decodeRow (feed : RowFeed) : FailsOnly Fault.Late (t.decodeRow mode feed).1 := by
  rw [decodeRow_eq_decodeDriven]
  exact failsOnly_decodeDriven feed.failsLate_scanning

/-! ## Rows one after another -/

/-- Decoding the rows of a feed fails late. -/
theorem failsOnly_decodeUpTo (limit : Nat) (feed : RowFeed) :
    FailsOnly Fault.Late (t.decodeUpTo mode limit feed).1 := by
  induction limit generalizing feed with
  | zero => exact .ok []
  | succ limit ih =>
    have hnext := feed.failsOnly_next
    unfold decodeUpTo
    cases hfound : feed.next with
    | mk found feed =>
      rw [hfound] at hnext
      cases found with
      | error fault => exact .error (hnext fault rfl)
      | ok more =>
        cases more with
        | false => exact .ok []
        | true =>
          have hrow : FailsOnly Fault.Late (t.decodeRow mode feed).1 := failsOnly_decodeRow feed
          simp only
          cases hdecode : t.decodeRow mode feed with
          | mk result feed =>
            rw [hdecode] at hrow
            cases result with
            | error fault => exact .error (hrow fault rfl)
            | ok record =>
              have hrest := ih feed
              simp only
              cases hmore : t.decodeUpTo mode limit feed with
              | mk others feed =>
                rw [hmore] at hrest
                cases others with
                | error fault => exact .error (hrest fault rfl)
                | ok records => exact .ok _

/-- Decoding the rows of a driver that fails late fails late. -/
theorem failsOnly_decodeEachDriven {loss : Option Fault} {rows : List DrivenRow}
    (h : DrivenRows.FailsLate ⟨rows, loss⟩) :
    FailsOnly Fault.Late (t.decodeEachDriven mode loss rows) := by
  induction rows with
  | nil =>
    unfold decodeEachDriven
    cases loss with
    | none => exact .ok []
    | some fault => exact .error (h.loss fault rfl)
  | cons row rows ih =>
    have hrow : FailsOnly Fault.Late (t.decodeDriven mode row) :=
      failsOnly_decodeDriven (h.scan row (by simp))
    have hrest : FailsOnly Fault.Late (t.decodeEachDriven mode loss rows) :=
      ih ⟨fun other hother => h.scan other (by simp [hother]), h.loss⟩
    unfold decodeEachDriven
    cases hdecode : t.decodeDriven mode row with
    | error fault => exact .error (hrow fault hdecode)
    | ok record => exact hrest.map _

/-- Decoding the first row of a driver that fails late fails late. -/
theorem failsOnly_decodeFirstDriven {rows : DrivenRows} (h : rows.FailsLate) :
    FailsOnly Fault.Late (t.decodeFirstDriven mode rows) := by
  unfold decodeFirstDriven
  split
  · rename_i row others hrows
    have hrow : FailsOnly Fault.Late (t.decodeDriven mode row) :=
      failsOnly_decodeDriven (h.scan row (by simp [hrows]))
    exact hrow.map some
  · rename_i fault hrows hloss
    exact .error (h.loss fault hloss)
  · exact .ok none

end Table

end RecordSql
