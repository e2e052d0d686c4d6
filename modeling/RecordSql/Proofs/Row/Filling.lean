import RecordSql.Proofs.Schema.FieldType
import RecordSql.Row.Decoding

/-!
# Filling records from cells

What reading a row must come to, without regard to when each field is written. A field reads a cell
by converting it into the kind of its column and then taking the value up; of several cells for one
field the last one counts. `fill` does this for the fields that are picked out, in the order of the
columns, and `fill_eq_some_iff` says of every field what it holds afterwards. As this does not
depend on when the fields that were picked out are written relative to the others, filling the
record with some of the fields first and with the remaining ones then fills it with all
(`fill_split`).
-/

set_option autoImplicit false

namespace RecordSql

variable {type : RecordType}

/-- The last cell of a row in a column of a field. -/
def lastCell? (i : type.Index) : List type.Index → List Value → Option Value
  | [], _ => none
  | _ :: _, [] => none
  | j :: js, cell :: cells =>
    match lastCell? i js cells with
    | some later => some later
    | none => if j = i then some cell else none

/-- A field without a column has no cell. -/
theorem lastCell?_eq_none {i : type.Index} {fields : List type.Index} (h : i ∉ fields)
    (row : List Value) : lastCell? i fields row = none := by
  induction fields generalizing row with
  | nil => rfl
  | cons j fields ih =>
    obtain ⟨hij, hi⟩ : i ≠ j ∧ i ∉ fields := by simpa using h
    cases row with
    | nil => rfl
    | cons cell row => rw [lastCell?, ih hi row, if_neg (Ne.symm hij)]

/-- Where the cells of every field are its value, so is the last of them. -/
theorem lastCell?_map {i : type.Index} {fields : List type.Index} (h : i ∈ fields)
    (value : type.Index → Value) : lastCell? i fields (fields.map value) = some (value i) := by
  induction fields with
  | nil => cases h
  | cons j fields ih =>
    rw [List.map_cons, lastCell?]
    by_cases hi : i ∈ fields
    · rw [ih hi]
    · obtain rfl : i = j := by simpa [hi] using h
      rw [lastCell?_eq_none hi, if_pos rfl]

/-! ## One cell after the other -/

/-- Writes the cells of a row into the fields of their columns that are picked out. -/
def fill (picked : type.Index → Bool) :
    List type.Index → List Value → Record type → Option (Record type)
  | [], _, record => some record
  | _ :: _, [], record => some record
  | i :: is, cell :: cells, record =>
    if picked i then
      match (type.field i).type.read cell with
      | .error _ => none
      | .ok content => fill picked is cells (record.set i content)
    else fill picked is cells record

/-- What one cell does to a record: the field of its column, if picked out, takes up what it
reads. -/
def Takes (picked : type.Index → Bool) (i : type.Index) (cell : Value)
    (before after : Record type) : Prop :=
  if picked i then
    ∃ content, (type.field i).type.read cell = .ok content ∧ after = before.set i content
  else after = before

/-- A record is filled from a row by taking its first cell and then filling from the others. -/
theorem fill_cons_eq_some_iff {picked : type.Index → Bool} {i : type.Index}
    {fields : List type.Index} {cell : Value} {row : List Value} {before after : Record type} :
    fill picked (i :: fields) (cell :: row) before = some after
      ↔ ∃ next, Takes picked i cell before next ∧ fill picked fields row next = some after := by
  rw [fill]
  by_cases hpicked : picked i = true
  · cases hread : (type.field i).type.read cell with
    | error m => simp [Takes, hpicked, hread]
    | ok content => simp [Takes, hpicked, hread]
  · simp [Takes, hpicked]

/-- A field that is picked out can read a cell. -/
def Fits (picked : type.Index → Bool) (i : type.Index) (cell : Value) : Prop :=
  picked i = true → ∃ content, (type.field i).type.read cell = .ok content

/-- A cell is taken if its field can read it. -/
theorem exists_takes_iff {picked : type.Index → Bool} {i : type.Index} {cell : Value}
    {before : Record type} : (∃ after, Takes picked i cell before after) ↔ Fits picked i cell := by
  by_cases hpicked : picked i = true
  · simp only [Takes, Fits, if_pos hpicked]
    constructor
    · rintro ⟨_, content, hread, -⟩ _
      exact ⟨content, hread⟩
    · intro h
      obtain ⟨content, hread⟩ := h hpicked
      exact ⟨_, content, hread, rfl⟩
  · simp [Takes, Fits, hpicked]

/-! ## What the fields hold -/

/-- What a field holds after a row was written into a record: what it reads from the last of its
cells, or what it held before. -/
def Holds (fields : List type.Index) (row : List Value) (before after : Record type)
    (i : type.Index) : Prop :=
  match lastCell? i fields row with
  | some cell => (type.field i).type.read cell = .ok (after i)
  | none => after i = before i

/-- What a field holds depends on no other field. -/
theorem holds_congr {fields : List type.Index} {row : List Value} {r s u v : Record type}
    {i : type.Index} (hbefore : r i = s i) (hafter : u i = v i) :
    Holds fields row r u i ↔ Holds fields row s v i := by
  rw [Holds, Holds, hbefore, hafter]

/-- What a field holds after the fields that are picked out were written. -/
def Filled (picked : type.Index → Bool) (fields : List type.Index) (row : List Value)
    (before after : Record type) (i : type.Index) : Prop :=
  if picked i then Holds fields row before after i else after i = before i

/-- The first cell may be taken by itself: later cells of its field count before it, and other
fields do not see it. -/
theorem filled_cons {picked : type.Index → Bool} {i j : type.Index} {fields : List type.Index}
    {cell : Value} {row : List Value} {before next after : Record type}
    (h : Takes picked i cell before next) :
    Filled picked (i :: fields) (cell :: row) before after j
      ↔ Filled picked fields row next after j := by
  have hother (hij : i ≠ j) : next j = before j := by
    rw [Takes] at h
    split at h
    · obtain ⟨content, -, rfl⟩ := h
      exact Record.set_of_ne before content hij
    · rw [h]
  rw [Filled, Filled]
  by_cases hj : picked j = true
  · rw [if_pos hj, if_pos hj, Holds, Holds, lastCell?]
    cases lastCell? j fields row with
    | some later => rfl
    | none =>
      by_cases hij : i = j
      · subst hij
        rw [Takes, if_pos hj] at h
        obtain ⟨content, hread, rfl⟩ := h
        simp only [if_true, Record.set_self, hread, Except.ok.injEq, eq_comm]
      · simp only [if_neg hij, hother hij]
  · have hij : next j = before j := by
      by_cases hij : i = j
      · subst hij
        rw [Takes, if_neg hj] at h
        rw [h]
      · exact hother hij
    rw [if_neg hj, if_neg hj, hij]

/-- Every field that is picked out can read the cells in its columns. -/
def Readable (picked : type.Index → Bool) (fields : List type.Index) (row : List Value) : Prop :=
  ∀ x ∈ fields.zip row, Fits picked x.1 x.2

/-- Two records that hold the same in every field are one. -/
theorem Record.eq_iff {r s : Record type} : r = s ↔ ∀ i, r i = s i :=
  ⟨fun h i => by rw [h], funext⟩

/-- A record is filled if every field that was picked out can read its cells, and then each of them
holds the last of these, while the other fields are as before. -/
theorem fill_eq_some_iff {picked : type.Index → Bool} {fields : List type.Index}
    {row : List Value} {before after : Record type} (hlength : fields.length = row.length) :
    fill picked fields row before = some after
      ↔ Readable picked fields row ∧ ∀ i, Filled picked fields row before after i := by
  induction fields generalizing row before with
  | nil =>
    simp only [fill, Readable, Filled, Holds, lastCell?, List.zip_nil_left, List.not_mem_nil,
      false_implies, implies_true, true_and, ite_self, Option.some.injEq, Record.eq_iff]
    exact forall_congr' fun i => eq_comm
  | cons i fields ih =>
    cases row with
    | nil => cases hlength
    | cons cell row =>
      have hlength : fields.length = row.length := Nat.succ.inj hlength
      have hreadable : Readable picked (i :: fields) (cell :: row)
          ↔ Fits picked i cell ∧ Readable picked fields row := by
        simp only [Readable, List.zip_cons_cons, List.forall_mem_cons]
      rw [fill_cons_eq_some_iff, hreadable]
      constructor
      · rintro ⟨next, htakes, hfill⟩
        obtain ⟨hrest, hfilled⟩ := (ih hlength).1 hfill
        exact ⟨⟨exists_takes_iff.1 ⟨next, htakes⟩, hrest⟩,
          fun j => (filled_cons htakes).2 (hfilled j)⟩
      · rintro ⟨⟨hfits, hrest⟩, hfilled⟩
        obtain ⟨next, htakes⟩ := exists_takes_iff.2 hfits
        exact ⟨next, htakes,
          (ih hlength).2 ⟨hrest, fun j => (filled_cons htakes).1 (hfilled j)⟩⟩

/-- A record can be filled if every field that was picked out can read its cells. -/
theorem exists_fill {picked : type.Index → Bool} {fields : List type.Index} {row : List Value}
    (h : Readable picked fields row) (before : Record type) :
    ∃ after, fill picked fields row before = some after := by
  induction fields generalizing row before with
  | nil => exact ⟨before, by rw [fill]⟩
  | cons i fields ih =>
    cases row with
    | nil => exact ⟨before, by rw [fill]⟩
    | cons cell row =>
      have hrest : Readable picked fields row := fun x hx => h x (by simp [hx])
      obtain ⟨next, htakes⟩ : ∃ next, Takes picked i cell before next :=
        exists_takes_iff.2 (h (i, cell) (by simp))
      obtain ⟨after, hfill⟩ := ih hrest next
      exact ⟨after, fill_cons_eq_some_iff.2 ⟨next, htakes, hfill⟩⟩

/-- All fields are filled by filling some of them first and the others then. -/
theorem fill_split (picked : type.Index → Bool) {fields : List type.Index} {row : List Value}
    {before after : Record type} (hlength : fields.length = row.length) :
    (∃ between, fill picked fields row before = some between
        ∧ fill (fun i => !picked i) fields row between = some after)
      ↔ fill (fun _ => true) fields row before = some after := by
  simp only [fill_eq_some_iff hlength, Filled, if_true]
  constructor
  · rintro ⟨between, ⟨hread, hfirst⟩, hread', hsecond⟩
    refine ⟨fun x hx _ => ?_, fun i => ?_⟩
    · by_cases hpicked : picked x.1 = true
      · exact hread x hx hpicked
      · exact hread' x hx (by simpa using hpicked)
    · have hi := hfirst i
      have hi' := hsecond i
      by_cases hpicked : picked i = true
      · simp only [hpicked, if_true, Bool.not_true, Bool.false_eq_true, if_false] at hi hi'
        exact (holds_congr rfl hi').2 hi
      · simp only [hpicked, Bool.not_false, if_true, Bool.false_eq_true, if_false] at hi hi'
        exact (holds_congr hi rfl).1 hi'
  · rintro ⟨hread, hall⟩
    -- In between, the fields that are picked out hold what they do in the end already.
    obtain ⟨between, hin, hout⟩ : ∃ between : Record type,
        (∀ i, picked i = true → between i = after i)
          ∧ ∀ i, picked i ≠ true → between i = before i :=
      ⟨fun i => if picked i then after i else before i, fun i hi => if_pos hi,
        fun i hi => if_neg hi⟩
    refine ⟨between, ⟨fun x hx _ => hread x hx rfl, fun i => ?_⟩,
      fun x hx _ => hread x hx rfl, fun i => ?_⟩
    · by_cases hpicked : picked i = true
      · rw [if_pos hpicked]
        exact (holds_congr rfl (hin i hpicked)).2 (hall i)
      · rw [if_neg hpicked, hout i hpicked]
    · by_cases hpicked : picked i = true
      · simp only [hpicked, Bool.not_true, Bool.false_eq_true, if_false]
        exact (hin i hpicked).symm
      · simp only [hpicked, Bool.not_false, if_true]
        exact (holds_congr (hout i hpicked) rfl).2 (hall i)

end RecordSql
