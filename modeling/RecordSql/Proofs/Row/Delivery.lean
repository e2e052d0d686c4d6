import RecordSql.Proofs.Row.Decoding
import RecordSql.Row.Driver

/-!
# Columns that were not delivered

A driver may end a scan well without having offered a value to every target. The slot of a column
that got nothing stays empty, and decoding stops at the first empty slot. A column that is written
in place has no slot, so nobody notices: its field is left as in a new record.
`decodeDriven_delivery` says for both modes what comes of a scan that ended well.

Whether a target takes a value depends on the value alone. Therefore the offers of a scan are known
before it runs, and the run is followed by an invariant that relates the offers so far to the slots
and the record.
-/

set_option autoImplicit false

namespace RecordSql

variable {type : RecordType}

/-! ## Runs of a scan -/

namespace Scanning

variable {width : Nat}

/-- The values that are offered to targets which answer in a known way, in order. -/
def offered (answer : Fin width → Value → Except Fault Unit) :
    Scanning width → List (Fin width × Value)
  | .ends _ => []
  | .offers place value next => (place, value) :: (next (answer place value)).offered answer

/-- What a scan ends with if the targets answer in a known way. -/
def ending (answer : Fin width → Value → Except Fault Unit) : Scanning width → Except Fault Unit
  | .ends result => result
  | .offers place value next => (next (answer place value)).ending answer

/-- What every offer preserves, be it taken or refused, holds at the end of a scan that ends well of
all its offers. -/
theorem run_invariant {σ : Type} {targets : Fin width → Target σ}
    {answer : Fin width → Value → Except Fault Unit}
    (hanswer : ∀ place value state,
      (targets place value state).map (fun _ => ()) = answer place value)
    {P : List (Fin width × Value) → σ → Prop}
    (htaken : ∀ log place value state next, P log state → targets place value state = .ok next →
      P (log ++ [(place, value)]) next)
    (hrefused : ∀ log place value state fault, P log state →
      targets place value state = .error fault → P (log ++ [(place, value)]) state)
    {scan : Scanning width} (hends : scan.ending answer = .ok ()) {log : List (Fin width × Value)}
    {state : σ} (h : P log state) :
    ∃ final, scan.run targets state = .ok final ∧ P (log ++ scan.offered answer) final := by
  induction scan generalizing log state with
  | ends result =>
    unfold ending at hends
    subst hends
    refine ⟨state, rfl, ?_⟩
    rw [offered, List.append_nil]
    exact h
  | offers place value next ih =>
    unfold ending at hends
    have hsaid := hanswer place value state
    cases htarget : targets place value state with
    | ok after =>
      rw [htarget] at hsaid
      rw [← hsaid] at hends
      obtain ⟨final, hrun, hfinal⟩ := ih _ hends (htaken _ _ _ _ _ h htarget)
      refine ⟨final, ?_, ?_⟩
      · rw [run, htarget]
        exact hrun
      · rw [offered, ← hsaid, List.append_cons]
        exact hfinal
    | error fault =>
      rw [htarget] at hsaid
      rw [← hsaid] at hends
      obtain ⟨final, hrun, hfinal⟩ := ih _ hends (hrefused _ _ _ _ _ h htarget)
      refine ⟨final, ?_, ?_⟩
      · rw [run, htarget]
        exact hrun
      · rw [offered, ← hsaid, List.append_cons]
        exact hfinal

end Scanning

namespace Table

variable {t : Table type} {mode : DecodeMode}

/-! ## Targets -/

/-- Whether the target of a field takes a value, whatever was scanned before. -/
def answer (t : Table type) (mode : DecodeMode) (i : type.Index) (cell : Value) :
    Except Fault Unit :=
  (t.target mode i 0 cell ⟨Record.initial type, []⟩).map fun _ => ()

/-- Whether a target takes a value does not depend on what was scanned before. -/
theorem map_target_eq_answer (i : type.Index) (place : Nat) (cell : Value)
    (scanned : Scanned type) :
    (t.target mode i place cell scanned).map (fun _ => ()) = t.answer mode i cell := by
  unfold answer target assign
  cases t.convertCell i cell with
  | error fault => rfl
  | ok value =>
    by_cases hplace : mode.inPlace (type.field i)
    · simp only [hplace, if_true]
      cases (type.field i).type.ofValue value <;> rfl
    · simp only [hplace]
      rfl

/-- What a target does with a value that it takes: it writes the field, or fills the slot. -/
theorem target_cases {i : type.Index} {place : Nat} {cell : Value} {scanned next : Scanned type}
    (h : t.target mode i place cell scanned = .ok next) :
    (mode.inPlace (type.field i) = true ∧ next.slots = scanned.slots
        ∧ ∃ content, next.record = scanned.record.set i content)
      ∨ mode.inPlace (type.field i) = false ∧ next.record = scanned.record
        ∧ ∃ value, (type.field i).type.convert cell = .ok value
          ∧ next.slots = scanned.slots.set place (some value) := by
  unfold target convertCell assign at h
  cases hconvert : (type.field i).type.convert cell with
  | error m =>
    rw [hconvert] at h
    cases h
  | ok value =>
    rw [hconvert] at h
    cases hplace : mode.inPlace (type.field i) with
    | true =>
      simp only [hplace, if_true] at h
      cases hvalue : (type.field i).type.ofValue value with
      | error m =>
        rw [hvalue] at h
        cases h
      | ok content =>
        rw [hvalue] at h
        cases h
        exact .inl ⟨rfl, rfl, content, rfl⟩
    | false =>
      simp only [hplace] at h
      cases h
      exact .inr ⟨rfl, rfl, value, rfl, rfl⟩

/-- A target refuses no value that its field can read. -/
theorem target_ne_error {i : type.Index} {place : Nat} {cell : Value} {scanned : Scanned type}
    {fault : Fault} (h : ∃ content, (type.field i).type.read cell = .ok content) :
    t.target mode i place cell scanned ≠ .error fault := by
  obtain ⟨content, hread⟩ := h
  unfold FieldType.read at hread
  unfold target convertCell assign
  cases hconvert : (type.field i).type.convert cell with
  | error m =>
    rw [hconvert] at hread
    cases hread
  | ok value =>
    rw [hconvert] at hread
    simp only at hread
    simp only [hread]
    by_cases hplace : mode.inPlace (type.field i) <;> simp [hplace]

/-! ## Slots -/

/-- Decoding does not end well if the slot of a column is empty. -/
theorem assignSlots_ne_ok {fields : List type.Index} {slots : List (Option Value)} {place : Nat}
    {i : type.Index} (hfield : fields[place]? = some i) (hslot : slots[place]? = some none)
    (hplace : mode.inPlace (type.field i) = false) (before after : Record type) :
    t.assignSlots mode fields slots before ≠ .ok after := by
  induction fields generalizing slots place before with
  | nil => simp at hfield
  | cons j fields ih =>
    cases slots with
    | nil => simp at hslot
    | cons slot slots =>
      unfold assignSlots
      cases place with
      | zero =>
        cases hfield
        cases hslot
        simp [hplace]
      | succ place =>
        have hrest (record : Record type) : t.assignSlots mode fields slots record ≠ .ok after :=
          ih hfield hslot record
        split
        · exact hrest before
        · cases slot with
          | none => simp
          | some value =>
            simp only
            cases t.assign before j value with
            | error fault => simp
            | ok record => exact hrest record

/-- A column needs no slot, or its slot holds a value that fits its field. -/
def Settled (mode : DecodeMode) (i : type.Index) (slot : Option Value) : Prop :=
  mode.inPlace (type.field i) = true
    ∨ ∃ value content, slot = some value ∧ (type.field i).type.ofValue value = .ok content

/-- A settled column does not stop decoding, and only its own field may change. -/
theorem assignSlots_cons_of_settled {i : type.Index} {slot : Option Value}
    (h : Settled mode i slot) (fields : List type.Index) (slots : List (Option Value))
    (before : Record type) :
    ∃ next, t.assignSlots mode (i :: fields) (slot :: slots) before
        = t.assignSlots mode fields slots next
      ∧ ∀ j, (i = j → mode.inPlace (type.field i) = true) → next j = before j := by
  cases hplace : mode.inPlace (type.field i) with
  | true => exact ⟨before, by simp [assignSlots, hplace], fun _ _ => rfl⟩
  | false =>
    rcases h with h | ⟨value, content, rfl, hvalue⟩
    · rw [hplace] at h
      cases h
    · refine ⟨before.set i content, ?_, ?_⟩
      · simp [assignSlots, hplace, assign, hvalue]
      · intro j hj
        apply Record.set_of_ne
        intro hij
        exact absurd (hj hij) (by simp)

/-- Decoding stops at the first empty slot if the columns before are settled. -/
theorem assignSlots_eq_notScanned {fields : List type.Index} {slots : List (Option Value)}
    {place : Nat} {i : type.Index} (hfield : fields[place]? = some i)
    (hslot : slots[place]? = some none) (hplace : mode.inPlace (type.field i) = false)
    (hearlier : ∀ k < place, ∀ j slot, fields[k]? = some j → slots[k]? = some slot →
      Settled mode j slot) (before : Record type) :
    t.assignSlots mode fields slots before = .error (t.notScanned i) := by
  induction fields generalizing slots place before with
  | nil => simp at hfield
  | cons j fields ih =>
    cases slots with
    | nil => simp at hslot
    | cons slot slots =>
      cases place with
      | zero =>
        cases hfield
        cases hslot
        simp [assignSlots, hplace]
      | succ place =>
        have hfirst : Settled mode j slot := hearlier 0 (by omega) j slot rfl rfl
        obtain ⟨next, hnext, -⟩ := assignSlots_cons_of_settled (t := t) hfirst fields slots before
        rw [hnext]
        apply ih hfield hslot
        intro k hk
        exact hearlier (k + 1) (by omega)

/-- Decoding ends well if all columns are settled. A field that no slot is for does not change. -/
theorem exists_assignSlots {fields : List type.Index} {slots : List (Option Value)}
    (hsettled : ∀ (k : Nat) j slot, fields[k]? = some j → slots[k]? = some slot →
      Settled mode j slot) (before : Record type) :
    ∃ after, t.assignSlots mode fields slots before = .ok after
      ∧ ∀ i, (i ∈ fields → mode.inPlace (type.field i) = true) → after i = before i := by
  induction fields generalizing slots before with
  | nil => exact ⟨before, rfl, fun _ _ => rfl⟩
  | cons j fields ih =>
    cases slots with
    | nil => exact ⟨before, rfl, fun _ _ => rfl⟩
    | cons slot slots =>
      have hfirst : Settled mode j slot := hsettled 0 j slot rfl rfl
      obtain ⟨next, hnext, hsame⟩ := assignSlots_cons_of_settled (t := t) hfirst fields slots before
      obtain ⟨after, hafter, hkept⟩ := ih (fun k => hsettled (k + 1)) next
      refine ⟨after, by rw [hnext, hafter], ?_⟩
      intro i hi
      rw [hkept i fun hmem => hi (List.mem_cons_of_mem j hmem)]
      apply hsame
      rintro rfl
      exact hi List.mem_cons_self

/-! ## What a scan leaves -/

/-- What the offers of a scan so far made of the slots and the record. -/
structure Delivered (mode : DecodeMode) (fields : List type.Index)
    (log : List (Fin fields.length × Value)) (scanned : Scanned type) : Prop where
  /-- Every column has a slot. -/
  width : scanned.slots.length = fields.length
  /-- The slot of a column that was offered nothing is empty. -/
  empty : ∀ place : Fin fields.length, (∀ v, (place, v) ∉ log) →
    scanned.slots[place.val]? = some none
  /-- The slot of a column that was offered a value is settled, if all values can be read. -/
  settled : (∀ x ∈ log, ∃ content, (type.field (fields.get x.1)).type.read x.2 = .ok content) →
    ∀ x ∈ log, ∀ slot, scanned.slots[x.1.val]? = some slot → Settled mode (fields.get x.1) slot
  /-- A field whose columns were offered nothing is as before. -/
  kept : ∀ i, (∀ x ∈ log, fields.get x.1 ≠ i) → scanned.record i = Record.initial type i

namespace Delivered

variable {fields : List type.Index} {log : List (Fin fields.length × Value)}
  {scanned next : Scanned type}

/-- At the start nothing was offered and nothing is filled. -/
theorem start : Delivered mode fields [] ⟨Record.initial type, fields.map fun _ => none⟩ where
  width := List.length_map _
  empty place _ := by simp
  settled _ x hx := by simp at hx
  kept _ _ := rfl

/-- A value that was written into its field is settled. -/
theorem written (h : Delivered mode fields log scanned) {place : Fin fields.length} {value : Value}
    (hplace : mode.inPlace (type.field (fields.get place)) = true)
    (hslots : next.slots = scanned.slots) {content : (type.field (fields.get place)).type.Content}
    (hrecord : next.record = scanned.record.set (fields.get place) content) :
    Delivered mode fields (log ++ [(place, value)]) next := by
  refine ⟨by rw [hslots, h.width], ?_, ?_, ?_⟩
  · intro other hother
    rw [hslots]
    exact h.empty other fun v hv => hother v (List.mem_append_left _ hv)
  · intro hread x hx slot hslot
    rw [hslots] at hslot
    rcases List.mem_append.1 hx with hx | hx
    · exact h.settled (fun y hy => hread y (List.mem_append_left _ hy)) x hx slot hslot
    · obtain rfl := List.mem_singleton.1 hx
      exact .inl hplace
  · intro i hi
    have hne : fields.get place ≠ i := hi (place, value) (by simp)
    rw [hrecord, Record.set_of_ne _ _ hne]
    exact h.kept i fun x hx => hi x (List.mem_append_left _ hx)

/-- A value that was put into its slot is settled if it can be read. -/
theorem filled (h : Delivered mode fields log scanned) {place : Fin fields.length}
    {value converted : Value} (hrecord : next.record = scanned.record)
    (hconvert : (type.field (fields.get place)).type.convert value = .ok converted)
    (hslots : next.slots = scanned.slots.set place (some converted)) :
    Delivered mode fields (log ++ [(place, value)]) next := by
  refine ⟨by rw [hslots, List.length_set, h.width], ?_, ?_, ?_⟩
  · intro other hother
    have hne : place.val ≠ other.val := by
      intro heq
      exact hother value (by simp [Fin.ext heq])
    rw [hslots, List.getElem?_set_ne hne]
    exact h.empty other fun v hv => hother v (List.mem_append_left _ hv)
  · intro hread x hx slot hslot
    rw [hslots] at hslot
    by_cases hsame : place = x.1
    · -- This value is the last one in the slot, and it was one of those that can be read.
      obtain ⟨content, hcontent⟩ := hread (place, value) (by simp)
      rw [FieldType.read, hconvert] at hcontent
      rw [← hsame, List.getElem?_set_self (by rw [h.width]; exact place.isLt)] at hslot
      cases hslot
      rw [← hsame]
      exact .inr ⟨converted, content, rfl, hcontent⟩
    · have hne : place.val ≠ x.1.val := fun heq => hsame (Fin.ext heq)
      rw [List.getElem?_set_ne hne] at hslot
      rcases List.mem_append.1 hx with hx | hx
      · exact h.settled (fun y hy => hread y (List.mem_append_left _ hy)) x hx slot hslot
      · obtain rfl := List.mem_singleton.1 hx
        exact absurd rfl hsame
  · intro i hi
    rw [hrecord]
    exact h.kept i fun x hx => hi x (List.mem_append_left _ hx)

/-- A target that takes a value leaves what the offer calls for. -/
theorem taken (h : Delivered mode fields log scanned) {place : Fin fields.length} {value : Value}
    (htarget : t.target mode (fields.get place) place value scanned = .ok next) :
    Delivered mode fields (log ++ [(place, value)]) next := by
  obtain ⟨hplace, hslots, content, hrecord⟩ | ⟨-, hrecord, converted, hconvert, hslots⟩ :=
    target_cases htarget
  · exact h.written hplace hslots hrecord
  · exact h.filled hrecord hconvert hslots

/-- A target that refuses a value leaves all as it was, and the value is one that cannot be read. -/
theorem refused (h : Delivered mode fields log scanned) {place : Fin fields.length} {value : Value}
    {fault : Fault}
    (htarget : t.target mode (fields.get place) place value scanned = .error fault) :
    Delivered mode fields (log ++ [(place, value)]) scanned where
  width := h.width
  empty other hother := h.empty other fun v hv => hother v (List.mem_append_left _ hv)
  settled hread x hx slot hslot :=
    absurd htarget (target_ne_error (hread (place, value) (by simp)))
  kept i hi := h.kept i fun x hx => hi x (List.mem_append_left _ hx)

end Delivered

/-! ## Rows -/

/-- The values that a driver offers to the targets of some fields. -/
def offered (t : Table type) (mode : DecodeMode) (row : DrivenRow) (fields : List type.Index) :
    List (Fin fields.length × Value) :=
  (row.scan fields.length).offered fun place => t.answer mode (fields.get place)

/-- What the driver ends the scan with. -/
def ending (t : Table type) (mode : DecodeMode) (row : DrivenRow) (fields : List type.Index) :
    Except Fault Unit :=
  (row.scan fields.length).ending fun place => t.answer mode (fields.get place)

/-- A column that was offered nothing and whose field is not written in place. -/
def Misses (t : Table type) (mode : DecodeMode) (row : DrivenRow) (fields : List type.Index)
    (place : Fin fields.length) : Prop :=
  (∀ value, (place, value) ∉ t.offered mode row fields)
    ∧ mode.inPlace (type.field (fields.get place)) = false

/-- A scan that ends well leaves what its offers made. -/
theorem decodeDriven_of_ending {row : DrivenRow} {fields : List type.Index}
    (hfields : t.resolve row.columns = .ok fields) (hends : t.ending mode row fields = .ok ()) :
    ∃ scanned, Delivered mode fields (t.offered mode row fields) scanned
      ∧ t.decodeDriven mode row = t.assignSlots mode fields scanned.slots scanned.record := by
  have hanswer (place : Fin fields.length) (value : Value) (state : Scanned type) :
      (t.target mode (fields.get place) place value state).map (fun _ => ())
        = t.answer mode (fields.get place) value :=
    map_target_eq_answer (fields.get place) place value state
  obtain ⟨scanned, hrun, hdelivered⟩ := Scanning.run_invariant hanswer
    (P := Delivered mode fields) (fun _ _ _ _ _ h htarget => h.taken htarget)
    (fun _ _ _ _ _ h htarget => h.refused htarget) hends Delivered.start
  refine ⟨scanned, hdelivered, ?_⟩
  unfold decodeDriven
  rw [hfields]
  simp only
  rw [hrun]

/-- A column that is not missing is written in place, or its slot was filled. -/
theorem Delivered.settled_of_not_misses {row : DrivenRow} {fields : List type.Index}
    {scanned : Scanned type} (h : Delivered mode fields (t.offered mode row fields) scanned)
    (hread : ∀ x ∈ t.offered mode row fields,
      ∃ content, (type.field (fields.get x.1)).type.read x.2 = .ok content)
    {place : Fin fields.length} (hplace : ¬ t.Misses mode row fields place) {slot : Option Value}
    (hslot : scanned.slots[place.val]? = some slot) : Settled mode (fields.get place) slot := by
  by_cases hnone : ∀ value, (place, value) ∉ t.offered mode row fields
  · left
    by_contra hin
    exact hplace ⟨hnone, by simpa using hin⟩
  · push Not at hnone
    obtain ⟨value, hvalue⟩ := hnone
    exact h.settled hread (place, value) hvalue slot hslot

/-- What becomes of a row whose scan ended well. If a column that is not written in place was
delivered nothing, the row is not decoded. If all values that were offered can be read, the first
such column is reported, and without one the row is decoded; a field none of whose columns was
delivered is then as in a new record. -/
theorem decodeDriven_delivery (t : Table type) (mode : DecodeMode) (row : DrivenRow)
    {fields : List type.Index} (hfields : t.resolve row.columns = .ok fields)
    (hends : t.ending mode row fields = .ok ()) :
    (∀ place, t.Misses mode row fields place → ∀ record, t.decodeDriven mode row ≠ .ok record)
      ∧ ((∀ x ∈ t.offered mode row fields,
          ∃ content, (type.field (fields.get x.1)).type.read x.2 = .ok content) →
        (∀ place, t.Misses mode row fields place →
            (∀ earlier < place, ¬ t.Misses mode row fields earlier) →
          t.decodeDriven mode row = .error (t.notScanned (fields.get place)))
        ∧ ((∀ place, ¬ t.Misses mode row fields place) →
          ∃ record, t.decodeDriven mode row = .ok record
            ∧ ∀ i, (∀ x ∈ t.offered mode row fields, fields.get x.1 ≠ i) →
              record i = Record.initial type i)) := by
  obtain ⟨scanned, hdelivered, hdecode⟩ := decodeDriven_of_ending hfields hends
  have hfield (place : Fin fields.length) : fields[place.val]? = some (fields.get place) := by
    simp
  refine ⟨?_, fun hread => ⟨?_, ?_⟩⟩
  · intro place hplace record
    rw [hdecode]
    exact assignSlots_ne_ok (hfield place) (hdelivered.empty place hplace.1) hplace.2 _ _
  · intro place hplace hearlier
    rw [hdecode]
    apply assignSlots_eq_notScanned (hfield place) (hdelivered.empty place hplace.1) hplace.2
    intro k hk j slot hj hslot
    have hk' : k < fields.length := Nat.lt_trans hk place.isLt
    rw [hfield ⟨k, hk'⟩] at hj
    cases hj
    exact hdelivered.settled_of_not_misses hread (hearlier ⟨k, hk'⟩ hk) hslot
  · intro hall
    have hslots : ∀ (k : Nat) j slot, fields[k]? = some j → scanned.slots[k]? = some slot →
        Settled mode j slot := by
      intro k j slot hj hslot
      obtain ⟨hk, -⟩ := List.getElem?_eq_some_iff.1 hj
      rw [hfield ⟨k, hk⟩] at hj
      cases hj
      exact hdelivered.settled_of_not_misses hread (hall ⟨k, hk⟩) hslot
    obtain ⟨record, hrecord, hkept⟩ := exists_assignSlots (t := t) hslots scanned.record
    refine ⟨record, by rw [hdecode, hrecord], ?_⟩
    intro i hi
    rw [hkept i, hdelivered.kept i hi]
    intro hmem
    obtain ⟨place, rfl⟩ := List.get_of_mem hmem
    by_contra hin
    exact hall place ⟨fun value hvalue => hi (place, value) hvalue rfl, by simpa using hin⟩

/-- A driver that offers a value to the second of two columns only. -/
def secondOnly (columns : List String) (value : Value) : DrivenRow :=
  ⟨columns, fun width =>
    if h : 1 < width then .offers ⟨1, h⟩ value .ends else .ends (.ok ())⟩

/-- The first of two columns is reported, or left as in a new record if it is written in place. -/
theorem decodeDriven_delivery_note :
    Table.note.decodeDriven .safe (secondOnly ["heading", "id"] (.int ⟨7, by decide, by decide⟩))
        = .error (.decode "heading" "column was not scanned")
      ∧ ∃ record,
        Table.note.decodeDriven .offset
            (secondOnly ["heading", "id"] (.int ⟨7, by decide, by decide⟩)) = .ok record
          ∧ record ⟨1, by decide⟩ = Record.initial RecordType.note ⟨1, by decide⟩ := by
  have hfields : Table.note.resolve ["heading", "id"]
      = .ok [⟨1, by decide⟩, ⟨0, by decide⟩] := rfl
  have hread : ∀ x ∈ [((1 : Fin 2), Value.int ⟨7, by decide, by decide⟩)],
      ∃ content, (RecordType.note.field
        ([⟨1, by decide⟩, ⟨0, by decide⟩].get x.1)).type.read x.2 = .ok content := by
    intro x hx
    obtain rfl := List.mem_singleton.1 hx
    exact ⟨_, rfl⟩
  constructor
  · obtain ⟨-, hreadable⟩ := decodeDriven_delivery Table.note .safe
      (secondOnly ["heading", "id"] (.int ⟨7, by decide, by decide⟩)) hfields rfl
    refine (hreadable hread).1 (0 : Fin 2) ⟨?_, rfl⟩ ?_
    · intro value hvalue
      cases List.mem_singleton.1 hvalue
    · intro earlier hearlier
      exact absurd hearlier (by simp)
  · obtain ⟨-, hreadable⟩ := decodeDriven_delivery Table.note .offset
      (secondOnly ["heading", "id"] (.int ⟨7, by decide, by decide⟩)) hfields rfl
    obtain ⟨record, hrecord, hkept⟩ := (hreadable hread).2 (by
      rintro place ⟨hnone, hplace⟩
      match place with
      | ⟨0, _⟩ => cases hplace
      | ⟨1, _⟩ => exact hnone _ (List.mem_singleton.2 rfl))
    refine ⟨record, hrecord, hkept _ ?_⟩
    intro x hx
    obtain rfl := List.mem_singleton.1 hx
    decide

/-- A feed that leaves the title of a note out: one mode reports it, and the other gives a note
without a title for a row that has one. -/
theorem decodeRow_undelivered_note :
    (Table.note.decodeRow .safe ⟨⟨["id", "heading"],
        [[.int ⟨7, by decide, by decide⟩, .text "draft"]], some 0⟩, none, [1], 0⟩).1
        = .error (.decode "heading" "column was not scanned")
      ∧ ∃ record, (Table.note.decodeRow .offset ⟨⟨["id", "heading"],
          [[.int ⟨7, by decide, by decide⟩, .text "draft"]], some 0⟩, none, [1], 0⟩).1 = .ok record
        ∧ record ⟨1, by decide⟩ = Record.initial RecordType.note ⟨1, by decide⟩ :=
  ⟨rfl, _, rfl, rfl⟩

end Table

/-! ## The rows of a feed -/

/-- Offers cells to targets in order, except to those that are left out, until one refuses. -/
def RowFeed.offerCells {width : Nat} (skipped : List Nat) : Nat → List Value → Scanning width
  | _, [] => .ends (.ok ())
  | place, cell :: cells =>
    if h : place < width then
      if place ∈ skipped then offerCells skipped (place + 1) cells
      else .offers ⟨place, h⟩ cell fun
        | .ok () => offerCells skipped (place + 1) cells
        | .error fault => .ends (.error fault)
    else .ends (.ok ())

/-- What a feed does with the targets of its current row. -/
def RowFeed.scanning (feed : RowFeed) (width : Nat) : Scanning width :=
  match feed.set.current with
  | .error fault => .ends (.error fault)
  | .ok (_, row) =>
    if row.length ≠ feed.set.columns.length then
      .ends (.error (ResultSet.wrongWidth row.length feed.set.columns.length))
    else if width ≠ feed.set.columns.length then
      .ends (.error (ResultSet.wrongTargets feed.set.columns.length width))
    else offerCells feed.skipped 0 row

/-- Cells that are all delivered go to the targets as those that are left of a row do. -/
theorem ResultSet.deliver_eq_deliverRest {σ : Type} (targets : List (Target σ))
    (cells : List Value) (place : Nat) (state : σ) :
    (deliver targets cells state).1 = RowFeed.deliverRest [] place targets cells state := by
  induction targets generalizing cells place state with
  | nil => rfl
  | cons target targets ih =>
    cases cells with
    | nil => rfl
    | cons cell cells =>
      rw [deliver, RowFeed.deliverRest, if_neg List.not_mem_nil]
      cases target cell state with
      | error fault => rfl
      | ok after => exact ih cells (place + 1) after

/-- Targets that keep what they are given keep all cells. -/
theorem ResultSet.deliver_keep {α : Type} (targets : List α) (cells kept : List Value)
    (hlength : targets.length = cells.length) :
    (deliver (targets.map fun _ => RowFeed.keep) cells kept).1 = .ok (kept ++ cells) := by
  induction targets generalizing cells kept with
  | nil =>
    cases cells with
    | nil => simp [deliver]
    | cons cell cells => cases hlength
  | cons target targets ih =>
    cases cells with
    | nil => cases hlength
    | cons cell cells =>
      have hrest := ih cells (kept ++ [cell]) (Nat.succ.inj hlength)
      rw [List.map_cons, deliver]
      simpa [RowFeed.keep] using hrest

/-- Delivering what is left of a row is running the offers of its cells. -/
theorem RowFeed.deliverRest_eq_run {σ : Type} {width : Nat} (targets : Fin width → Target σ)
    (skipped : List Nat) (cells : List Value) (place : Nat) (state : σ) :
    deliverRest skipped place ((List.ofFn targets).drop place) cells state
      = (offerCells skipped place cells).run targets state := by
  induction cells generalizing place state with
  | nil =>
    cases (List.ofFn targets).drop place <;> rfl
  | cons cell cells ih =>
    unfold offerCells
    by_cases hplace : place < width
    · rw [List.drop_eq_getElem_cons (by simpa using hplace), List.getElem_ofFn, dif_pos hplace]
      unfold deliverRest
      by_cases hskipped : place ∈ skipped
      · rw [if_pos hskipped, if_pos hskipped]
        exact ih (place + 1) state
      · rw [if_neg hskipped, if_neg hskipped]
        unfold Scanning.run
        simp only
        cases targets ⟨place, hplace⟩ cell state with
        | error fault => rfl
        | ok after => exact ih (place + 1) after
    · rw [dif_neg hplace, List.drop_eq_nil_of_le (by simpa using hplace)]
      rfl

/-- What a scan of a result set gives, from the checks that it makes first. -/
theorem ResultSet.fst_scan {σ : Type} (set : ResultSet) (targets : List (Target σ)) (state : σ) :
    (set.scan targets state).1 = match set.current with
      | .error fault => .error fault
      | .ok (_, row) =>
        if row.length ≠ set.columns.length then
          .error (wrongWidth row.length set.columns.length)
        else if targets.length ≠ set.columns.length then
          .error (wrongTargets set.columns.length targets.length)
        else (deliver targets row state).1 := by
  unfold scan
  cases set.current with
  | error fault => rfl
  | ok found =>
    simp only
    split
    · rfl
    · split <;> rfl

/-- What a scan of a feed gives, from the scan of its result set. -/
theorem RowFeed.fst_scan {σ : Type} (feed : RowFeed) (targets : List (Target σ)) (state : σ) :
    (feed.scan targets state).1 = if feed.skipped.isEmpty then (feed.set.scan targets state).1
      else match (feed.set.scan (targets.map fun _ => keep) []).1 with
        | .error fault => .error fault
        | .ok values => deliverRest feed.skipped 0 targets values state := by
  unfold scan
  split
  · rfl
  · cases feed.set.scan (targets.map fun _ => keep) [] with
    | mk taken set => cases taken <;> rfl

/-- Scanning a feed is what its driver does. -/
theorem RowFeed.scan_eq_run {σ : Type} {width : Nat} (feed : RowFeed)
    (targets : Fin width → Target σ) (state : σ) :
    (feed.scan (List.ofFn targets) state).1 = (feed.scanning width).run targets state := by
  rw [fst_scan, ResultSet.fst_scan, ResultSet.fst_scan, scanning, List.length_map,
    List.length_ofFn]
  cases feed.set.current with
  | error fault => split <;> rfl
  | ok found =>
    obtain ⟨place, row⟩ := found
    simp only
    by_cases hrow : row.length = feed.set.columns.length
    · by_cases hwidth : width = feed.set.columns.length
      · subst hwidth
        have hkept := ResultSet.deliver_keep (List.ofFn targets) row []
          (by rw [List.length_ofFn, hrow])
        simp only [hrow, ne_eq, not_true_eq_false, if_false, hkept, List.nil_append]
        rw [← deliverRest_eq_run targets feed.skipped row 0 state, List.drop_zero]
        cases hskipped : feed.skipped with
        | nil => exact ResultSet.deliver_eq_deliverRest (List.ofFn targets) row 0 state
        | cons first others => rfl
      · simp only [hrow, hwidth, ne_eq, not_true_eq_false, not_false_eq_true, if_false, if_true]
        split <;> rfl
    · simp only [hrow, ne_eq, not_false_eq_true, if_true]
      split <;> rfl

/-- Decoding the current row of a feed is decoding a row of its driver. -/
theorem Table.decodeRow_eq_decodeDriven (t : Table type) (mode : DecodeMode) (feed : RowFeed) :
    (t.decodeRow mode feed).1 = t.decodeDriven mode ⟨feed.set.columns, feed.scanning⟩ := by
  unfold decodeRow decodeDriven
  cases t.resolve feed.set.columns with
  | error fault => rfl
  | ok fields =>
    have htargets (target : type.Index × Nat → Target (Scanned type))
        (htarget : ∀ i place, target (i, place) = t.target mode i place) :
        fields.zipIdx.map target
          = List.ofFn fun place : Fin fields.length => t.target mode (fields.get place) place := by
      apply List.ext_getElem
      · simp
      · intro k hk hk'
        simp [htarget]
    simp only
    rw [htargets _ fun _ _ => rfl, ← RowFeed.scan_eq_run]
    cases feed.scan (List.ofFn fun place : Fin fields.length =>
        t.target mode (fields.get place) place) ⟨Record.initial type, fields.map fun _ => none⟩ with
    | mk result after =>
      cases result with
      | error fault => rfl
      | ok scanned => rfl

end RecordSql
