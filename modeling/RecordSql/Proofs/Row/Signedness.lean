import RecordSql.Proofs.Row.Decoding

/-!
# Signed and unsigned reports

A number that both kinds of integers hold may be reported as either of them. What a cell converts
into, what a field takes up and what record a row becomes does not depend on which one it is, with
one exception: only a signed integer converts into a truth value. So two rows that hold the same
numbers are decoded into the same record, unless they report a truth value in two ways.
-/

set_option autoImplicit false

namespace RecordSql

/-- What is left of a result without its fault is its value. -/
theorem toOption_eq_some_iff {ε α : Type} {x : Except ε α} {a : α} :
    x.toOption = some a ↔ x = .ok a := by
  cases x <;> simp [Except.toOption]

/-- Nothing is left of a result that has no value. -/
theorem toOption_eq_none_iff {ε α : Type} {x : Except ε α} :
    x.toOption = none ↔ ¬ ∃ a, x = .ok a := by
  cases x with
  | error e => simp [Except.toOption]
  | ok a => simp [Except.toOption]

/-! ## Values -/

namespace Value

/-- Two values are the same, or the same integer reported as two kinds. -/
def Alike (v w : Value) : Prop :=
  v = w ∨ ∃ n, Scalar.integer? v = some n ∧ Scalar.integer? w = some n

/-- What an integer converts into, of whichever kind it is, when no truth value is expected. -/
def ofInteger? (kind : Kind) (n : Int) : Option Value :=
  match kind with
  | .int => (SignedInt.ofInt? 64 n).map .int
  | .uint => (UnsignedInt.ofInt? 64 n).map .uint
  | .float => some (.float (.ofInt binary64 n))
  | _ => none

/-- An integer converts into a signed one if it fits. -/
theorem toOption_convert_int {v : Value} {n : Int} (h : Scalar.integer? v = some n)
    (nullable : Bool) :
    (v.convert .int nullable).toOption = (SignedInt.ofInt? 64 n).map .int := by
  obtain ⟨m, rfl, rfl⟩ | ⟨m, rfl, rfl⟩ := cases_of_integer? h
  · rw [SignedInt.ofInt?_val]
    rfl
  · rw [convert_of_ne rfl (by decide), convertKind_int_uint m rfl]
    cases SignedInt.ofInt? 64 (m.val : Int) <;> rfl

/-- An integer converts into an unsigned one if it fits. -/
theorem toOption_convert_uint {v : Value} {n : Int} (h : Scalar.integer? v = some n)
    (nullable : Bool) :
    (v.convert .uint nullable).toOption = (UnsignedInt.ofInt? 64 n).map .uint := by
  obtain ⟨m, rfl, rfl⟩ | ⟨m, rfl, rfl⟩ := cases_of_integer? h
  · rw [convert_of_ne rfl (by decide), convertKind_uint_int m rfl]
    cases UnsignedInt.ofInt? 64 m.val <;> rfl
  · rw [UnsignedInt.ofInt?_val]
    rfl

/-- An integer converts as its number does, unless a truth value is expected. -/
theorem toOption_convert {v : Value} {n : Int} (h : Scalar.integer? v = some n) {kind : Kind}
    (hkind : kind ≠ .bool) (nullable : Bool) :
    (v.convert kind nullable).toOption = ofInteger? kind n := by
  cases kind with
  | bool => exact absurd rfl hkind
  | int => exact toOption_convert_int h nullable
  | uint => exact toOption_convert_uint h nullable
  | float =>
    rw [(convert_float_of_integer? h nullable).1]
    rfl
  | _ => obtain ⟨m, rfl, -⟩ | ⟨m, rfl, -⟩ := cases_of_integer? h <;> rfl

/-- What a value converts into, unless a truth value is expected, does not depend on which kind of
integers it is reported as. -/
theorem Alike.toOption_convert {v w : Value} (h : v.Alike w) {kind : Kind} (hkind : kind ≠ .bool)
    (nullable : Bool) :
    (v.convert kind nullable).toOption = (w.convert kind nullable).toOption := by
  obtain rfl | ⟨n, hv, hw⟩ := h
  · rfl
  · rw [Value.toOption_convert hv hkind, Value.toOption_convert hw hkind]

/-- No unsigned integer converts into a truth value. -/
theorem convert_bool_uint (m : UnsignedInt 64) (nullable : Bool) :
    (uint m).convert .bool nullable = .error (.ofKind .bool (.uint m)) := rfl

/-- Zero and one convert into truth values, and no other signed integer does. -/
theorem convertKind_bool_int (n : SignedInt 64) :
    convertKind .bool (int n)
      = if n.val = 0 then .ok (.bool false)
        else if n.val = 1 then .ok (.bool true)
        else .error (.ofKind .bool (.int n)) := rfl

/-- Zero and one are the signed integers that convert into truth values. -/
theorem exists_convert_bool_int_iff {n : SignedInt 64} {nullable : Bool} :
    (∃ r, (int n).convert .bool nullable = .ok r) ↔ n.val = 0 ∨ n.val = 1 := by
  rw [convert_of_ne rfl (by decide), convertKind_bool_int]
  by_cases hzero : n.val = 0
  · simp [hzero]
  · by_cases hone : n.val = 1
    · simp [hone]
    · simp [hzero, hone]

/-- A number converts alike as either kind, except for the two that are truth values as signed
integers only. -/
theorem toOption_convert_eq_iff {n : SignedInt 64} {m : UnsignedInt 64} (h : n.val = m.val)
    (kind : Kind) (nullable : Bool) :
    ((int n).convert kind nullable).toOption = ((uint m).convert kind nullable).toOption
      ↔ ¬ (kind = .bool ∧ m.val ≤ 1) := by
  have halike : (int n).Alike (.uint m) := .inr ⟨n.val, rfl, congrArg some h.symm⟩
  by_cases hkind : kind = .bool
  · subst hkind
    have hnone : ((uint m).convert .bool nullable).toOption = none := by
      rw [convert_bool_uint]
      rfl
    rw [hnone, toOption_eq_none_iff, exists_convert_bool_int_iff]
    simp only [true_and]
    omega
  · simp [hkind, halike.toOption_convert hkind nullable]

end Value

/-! ## Fields -/

namespace Scalar

/-- A scalar takes up the same integer of either kind. -/
theorem toOption_ofValue (s : Scalar) {v w : Value} {n : Int} (hv : integer? v = some n)
    (hw : integer? w = some n) : (s.ofValue v).toOption = (s.ofValue w).toOption := by
  have hnumber {v : Value} (h : integer? v = some n) : number? v = some (.ofInt binary64 n) := by
    obtain ⟨m, rfl, rfl⟩ | ⟨m, rfl, rfl⟩ := Value.cases_of_integer? h <;> rfl
  cases s with
  | signed width =>
    simp only [ofValue, hv, hw]
    cases SignedInt.ofInt? width.bits n <;> rfl
  | unsigned width =>
    simp only [ofValue, hv, hw]
    cases UnsignedInt.ofInt? width.bits n <;> rfl
  | single =>
    simp only [ofValue, hnumber hv, hnumber hw]
  | double =>
    simp only [ofValue, hnumber hv, hnumber hw]
  | _ =>
    obtain ⟨a, rfl, -⟩ | ⟨a, rfl, -⟩ := Value.cases_of_integer? hv <;>
      obtain ⟨b, rfl, -⟩ | ⟨b, rfl, -⟩ := Value.cases_of_integer? hw <;> rfl

end Scalar

namespace FieldType

variable {ft : FieldType} {v w : Value}

/-- A field takes up the same integer of either kind. -/
theorem toOption_ofValue (h : v.Alike w) : (ft.ofValue v).toOption = (ft.ofValue w).toOption := by
  obtain rfl | ⟨n, hv, hw⟩ := h
  · rfl
  · cases ft with
    | required s => exact s.toOption_ofValue hv hw
    | optional s =>
      have hnull {v : Value} (h : Scalar.integer? v = some n) : v.isNull = false := by
        obtain ⟨m, rfl, -⟩ | ⟨m, rfl, -⟩ := Value.cases_of_integer? h <;> rfl
      have hsome {v : Value} (h : Scalar.integer? v = some n) :
          ((optional s).ofValue v).toOption = (s.ofValue v).toOption.map some := by
        rw [ofValue_optional (hnull h)]
        cases s.ofValue v <;> rfl
      rw [hsome hv, hsome hw, s.toOption_ofValue hv hw]

/-- A field reads what it takes up of what its column converts. -/
theorem toOption_read (ft : FieldType) (v : Value) :
    (ft.read v).toOption = (ft.convert v).toOption.bind fun r => (ft.ofValue r).toOption := by
  rw [read]
  cases ft.convert v <;> rfl

/-- A field that holds no truth value reads the same from either report of an integer. -/
theorem toOption_read_of_alike (h : v.Alike w) (hkind : ft.kind ≠ .bool) :
    (ft.read v).toOption = (ft.read w).toOption := by
  rw [toOption_read, toOption_read, convert, convert, h.toOption_convert hkind]

end FieldType

/-! ## Rows -/

variable {type : RecordType}

/-- Rows that hold the same values, but that an integer may be reported as either kind wherever no
truth value is expected. -/
structure SameNumbers (t : Table type) (columns : List String) (row other : List Value) :
    Prop where
  /-- Each cell holds the same value or the same integer. -/
  alike : List.Forall₂ Value.Alike row other
  /-- The cells of truth values are the same. -/
  truths : ∀ (place : Nat) (i : type.Index), columns[place]? = some (t.column i) →
    (type.field i).type.kind = .bool → row[place]? = other[place]?

/-- The first cell of a row is read into its field if the field is picked. -/
theorem fill_cons {picked : type.Index → Bool} {i : type.Index} {fields : List type.Index}
    {cell : Value} {row : List Value} {record : Record type} :
    fill picked (i :: fields) (cell :: row) record
      = if picked i then
          ((type.field i).type.read cell).toOption.bind fun content =>
            fill picked fields row (record.set i content)
        else fill picked fields row record := by
  rw [fill]
  cases (type.field i).type.read cell <;> rfl

/-- The same numbers fill a record in the same way. -/
theorem SameNumbers.fill_eq {t : Table type} {fields : List type.Index} {row other : List Value}
    (h : SameNumbers t (fields.map t.column) row other) (picked : type.Index → Bool)
    (record : Record type) :
    fill picked fields row record = fill picked fields other record := by
  induction fields generalizing row other record with
  | nil => rw [fill, fill]
  | cons i fields ih =>
    obtain ⟨halike, htruths⟩ := h
    cases halike with
    | nil => rfl
    | @cons v w row other hcell hrest =>
      have hread :
          ((type.field i).type.read v).toOption = ((type.field i).type.read w).toOption := by
        by_cases hkind : (type.field i).type.kind = .bool
        · have hsame : some v = some w := htruths 0 i rfl hkind
          rw [Option.some.inj hsame]
        · exact FieldType.toOption_read_of_alike hcell hkind
      have hfill (record : Record type) :
          fill picked fields row record = fill picked fields other record :=
        ih ⟨hrest, fun place j => htruths (place + 1) j⟩ record
      rw [fill_cons, fill_cons, hread]
      simp only [hfill]

namespace Table

variable {t : Table type} {mode : DecodeMode} {set : ResultSet} {place : Nat} {row : List Value}

/-- The current row is decoded into the record that it fills. -/
theorem decodeRow_eq_ok_iff_fill (hcurrent : set.cursor = some place ∧ set.rows[place]? = some row)
    {record : Record type} :
    (t.decodeRow mode (.ofSet set)).1 = .ok record
      ↔ ∃ fields, set.columns = fields.map t.column ∧ row.length = set.columns.length
        ∧ fill (fun _ => true) fields row (Record.initial type) = some record := by
  have hok : (t.decodeRow mode (.ofSet set)).1 = .ok record
      ↔ ∃ after, t.decodeRow mode (.ofSet set) = (.ok record, after) :=
    ⟨fun h => ⟨_, Prod.ext h rfl⟩, fun ⟨after, h⟩ => by rw [h]⟩
  have hskipped : (RowFeed.ofSet set).skipped = [] := rfl
  rw [hok]
  simp only [decodeRow_eq_ok_iff hskipped]
  constructor
  · rintro ⟨_, place', fields, row', haccepts, hholds, rfl⟩
    obtain ⟨hcursor, hrow⟩ := haccepts.current
    obtain rfl : place' = place := Option.some.inj (hcursor.symm.trans hcurrent.1)
    obtain rfl : row' = row := Option.some.inj (hrow.symm.trans hcurrent.2)
    have hreadable : Readable (fun _ => true) fields row' := fun x hx _ => by
      obtain ⟨v, content, hv, hcontent⟩ := haccepts.fits x hx
      exact ⟨content, FieldType.read_eq_ok_iff.2 ⟨v, hv, hcontent⟩⟩
    exact ⟨fields, haccepts.owned, haccepts.width,
      (fill_eq_some_iff (length_fields haccepts.owned haccepts.width)).2 ⟨hreadable, hholds⟩⟩
  · rintro ⟨fields, howned, hwidth, hfill⟩
    obtain ⟨hreadable, hholds⟩ := (fill_eq_some_iff (length_fields howned hwidth)).1 hfill
    have hfits : ∀ x ∈ fields.zip row, ∃ v content, (type.field x.1).type.convert x.2 = .ok v
        ∧ (type.field x.1).type.ofValue v = .ok content := by
      intro x hx
      obtain ⟨content, hread⟩ := hreadable x hx rfl
      obtain ⟨v, hv, hcontent⟩ := FieldType.read_eq_ok_iff.1 hread
      exact ⟨v, content, hv, hcontent⟩
    exact ⟨_, place, fields, row, ⟨hcurrent, howned, hwidth, hfits⟩, hholds, rfl⟩

/-- Rows of the same numbers are decoded into the same record. -/
theorem decodeRow_of_sameNumbers (hcurrent : set.cursor = some place ∧ set.rows[place]? = some row)
    {other : List Value} (h : SameNumbers t set.columns row other) :
    (t.decodeRow mode (.ofSet set)).1.toOption
      = (t.decodeRow mode (.ofSet { set with rows := set.rows.set place other })).1.toOption := by
  have hplace : place < set.rows.length := (List.getElem?_eq_some_iff.1 hcurrent.2).1
  have hafter : set.cursor = some place ∧ (set.rows.set place other)[place]? = some other :=
    ⟨hcurrent.1, List.getElem?_set_self hplace⟩
  apply Option.ext
  intro record
  rw [toOption_eq_some_iff, toOption_eq_some_iff, decodeRow_eq_ok_iff_fill hcurrent,
    decodeRow_eq_ok_iff_fill hafter]
  refine exists_congr fun fields => and_congr_right fun howned => ?_
  rw [howned] at h
  rw [h.alike.length_eq, h.fill_eq]

/-- In a row that is decoded, an integer in the column of a truth value is a signed zero or one. -/
theorem signed_of_decodeRow (hcurrent : set.cursor = some place ∧ set.rows[place]? = some row)
    {record : Record type} (hdecode : (t.decodeRow mode (.ofSet set)).1 = .ok record)
    {column : Nat} {i : type.Index} (hcolumn : set.columns[column]? = some (t.column i))
    (hkind : (type.field i).type.kind = .bool) {cell : Value} (hcell : row[column]? = some cell)
    {n : Int} (hn : Scalar.integer? cell = some n) :
    ∃ m, cell = .int m ∧ (m.val = 0 ∨ m.val = 1) := by
  obtain ⟨fields, howned, hwidth, hfill⟩ := (decodeRow_eq_ok_iff_fill hcurrent).1 hdecode
  have hfield : fields[column]? = some i := by
    rw [howned, List.getElem?_map, Option.map_eq_some_iff] at hcolumn
    obtain ⟨j, hj, hji⟩ := hcolumn
    rw [hj, t.column_injective hji]
  have hmem : (i, cell) ∈ fields.zip row :=
    List.mem_of_getElem? (List.getElem?_zip_eq_some.2 ⟨hfield, hcell⟩)
  obtain ⟨content, hread⟩ := ((fill_eq_some_iff (length_fields howned hwidth)).1 hfill).1 _ hmem rfl
  obtain ⟨v, hconvert, -⟩ := FieldType.read_eq_ok_iff.1 hread
  rw [FieldType.convert, hkind] at hconvert
  obtain ⟨m, rfl, -⟩ | ⟨m, rfl, -⟩ := Value.cases_of_integer? hn
  · exact ⟨m, rfl, Value.exists_convert_bool_int_iff.1 ⟨v, hconvert⟩⟩
  · rw [Value.convert_bool_uint] at hconvert
    cases hconvert

/-- Which of the two kinds a driver reports an integer as does not matter, but for truth values. A
number that both kinds hold converts alike as either of them into every kind, unless this is that of
truth values and the number zero or one, and every field takes it up alike. So a row is decoded into
the same record, or in neither case, in which any of the integers outside the columns of truth
values are reported as the other kind; and in a column of truth values a row that is decoded has no
integers but signed ones. -/
theorem integer_kinds_agree (t : Table type) :
    (∀ (n : SignedInt 64) (m : UnsignedInt 64), n.val = m.val →
        (∀ kind nullable, ((Value.int n).convert kind nullable).toOption
            = ((Value.uint m).convert kind nullable).toOption ↔ ¬ (kind = .bool ∧ m.val ≤ 1))
          ∧ ∀ ft : FieldType, (ft.ofValue (.int n)).toOption = (ft.ofValue (.uint m)).toOption)
      ∧ ∀ (mode : DecodeMode) (set : ResultSet) (place : Nat) (row : List Value),
        set.cursor = some place ∧ set.rows[place]? = some row →
          (∀ other, SameNumbers t set.columns row other →
            (t.decodeRow mode (.ofSet set)).1.toOption
              = (t.decodeRow mode
                  (.ofSet { set with rows := set.rows.set place other })).1.toOption)
          ∧ ∀ record, (t.decodeRow mode (.ofSet set)).1 = .ok record →
            ∀ (column : Nat) i cell n, set.columns[column]? = some (t.column i) →
              (type.field i).type.kind = .bool → row[column]? = some cell →
              Scalar.integer? cell = some n → ∃ m, cell = .int m ∧ (m.val = 0 ∨ m.val = 1) := by
  refine ⟨fun n m h => ⟨Value.toOption_convert_eq_iff h, fun ft => ?_⟩,
    fun mode set place row hcurrent => ⟨fun other => decodeRow_of_sameNumbers hcurrent, ?_⟩⟩
  · exact FieldType.toOption_ofValue (.inr ⟨n.val, rfl, congrArg some h.symm⟩)
  · intro record hdecode column i cell n hcolumn hkind hcell hn
    exact signed_of_decodeRow hcurrent hdecode hcolumn hkind hcell hn

end Table

/-! ## Tasks -/

/-- Tasks with a number and a flag. -/
def RecordType.task : RecordType where
  name := "Task"
  shape := .record
  tableHook := none
  fields := [⟨"id", .required (.signed .w32), none, true⟩, ⟨"done", .required .bool, none, true⟩]

/-- The table of tasks. -/
def Table.task : Table RecordType.task where
  name := "task"
  infos := [⟨⟨0, by decide⟩, "id"⟩, ⟨⟨1, by decide⟩, "done"⟩]
  byField := ⟨[("done", 1), ("id", 0)]⟩
  byColumn := ⟨[("done", 1), ("id", 0)]⟩
  fields_infos := by decide
  located := by decide

/-- A number reported as the kind that it is stored as and as the other one, behind the same flag.
-/
theorem Table.integer_kinds_agree_task : ∃ record,
    (Table.task.decodeRow .offset (.ofSet ⟨["done", "id"],
        [[.int ⟨1, by decide, by decide⟩, .int ⟨7, by decide, by decide⟩]], some 0⟩)).1
      = .ok record
      ∧ (Table.task.decodeRow .offset (.ofSet ⟨["done", "id"],
        [[.int ⟨1, by decide, by decide⟩, .uint ⟨7, by decide⟩]], some 0⟩)).1 = .ok record := by
  have hid : ∀ i, Table.task.column i = "id" → (RecordType.task.field i).type.kind ≠ .bool := by
    decide
  have hsame : SameNumbers Table.task ["done", "id"]
      [.int ⟨1, by decide, by decide⟩, .int ⟨7, by decide, by decide⟩]
      [.int ⟨1, by decide, by decide⟩, .uint ⟨7, by decide⟩] := by
    refine ⟨.cons (.inl rfl) (.cons (.inr ⟨7, rfl, rfl⟩) .nil), fun place i hcolumn hkind => ?_⟩
    match place with
    | 0 => rfl
    | 1 => exact absurd hkind (hid i (Option.some.inj hcolumn).symm)
    | _ + 2 => rfl
  have halike := ((integer_kinds_agree Table.task).2 .offset ⟨["done", "id"],
    [[.int ⟨1, by decide, by decide⟩, .int ⟨7, by decide, by decide⟩]], some 0⟩ 0 _
    ⟨rfl, rfl⟩).1 _ hsame
  exact ⟨_, rfl, toOption_eq_some_iff.1 halike.symm⟩

/-- A flag that is reported as an unsigned integer is not decoded, and one that is reported as a
signed integer is. -/
theorem Table.flag_of_signed_only :
    (Value.int ⟨1, by decide, by decide⟩).convert .bool false = .ok (.bool true)
      ∧ (Value.uint ⟨1, by decide⟩).convert .bool false
        = .error ⟨.bool, .otherKind, .uint ⟨1, by decide⟩⟩
      ∧ (Table.task.decodeRow .safe
          (.ofSet ⟨["done"], [[.int ⟨1, by decide, by decide⟩]], some 0⟩)).1.toOption.isSome = true
      ∧ (Table.task.decodeRow .safe (.ofSet ⟨["done"], [[.uint ⟨1, by decide⟩]], some 0⟩)).1
        = .error (.decode "done" "expected Bool, found uint") :=
  ⟨rfl, rfl, rfl, rfl⟩

end RecordSql
