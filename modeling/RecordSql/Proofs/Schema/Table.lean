import RecordSql.Row.Decoding
import Mathlib.Data.List.Forall2
import Mathlib.Data.List.Nodup

/-!
# Looking fields and columns up

A field is found by its name and by its column, and what is found is the field that has the name
or the column, as no two fields share either. A list of names is looked up one by one.
-/

set_option autoImplicit false

namespace RecordSql

variable {type : RecordType}

/-- Looking for a place with a property finds it if it is the only one. -/
theorem find?_finRange_eq_some_iff {n : Nat} {p : Fin n → Bool} {i : Fin n}
    (unique : ∀ j, p j = true → p i = true → j = i) :
    (List.finRange n).find? p = some i ↔ p i = true := by
  constructor
  · exact List.find?_some
  · intro hi
    cases hfind : (List.finRange n).find? p with
    | none =>
      rw [List.find?_eq_none] at hfind
      exact absurd hi (hfind i (List.mem_finRange i))
    | some j => rw [unique j (List.find?_some hfind) hi]

/-- If every item of a list has a result, the list has these results. -/
theorem mapM_eq_pure {m : Type → Type} [Monad m] [LawfulMonad m] {α β : Type} {f : α → m β}
    {xs : List α} {ys : List β} (h : List.Forall₂ (fun x y => f x = pure y) xs ys) :
    xs.mapM f = pure ys := by
  induction h with
  | nil => rw [List.mapM_nil]
  | cons hx _ ih => rw [List.mapM_cons, hx, ih, pure_bind, pure_bind]

/-- The results of a list are those of its items. -/
theorem mapM_eq_ok_iff {ε α β : Type} {f : α → Except ε β} {xs : List α} {ys : List β} :
    xs.mapM f = .ok ys ↔ List.Forall₂ (fun x y => f x = .ok y) xs ys := by
  refine ⟨fun h => ?_, fun h => mapM_eq_pure h⟩
  induction xs generalizing ys with
  | nil => cases h; exact .nil
  | cons x xs ih =>
    rw [List.mapM_cons] at h
    cases hx : f x with
    | error e => rw [hx] at h; cases h
    | ok y =>
      cases hxs : xs.mapM f with
      | error e => rw [hx, hxs] at h; cases h
      | ok others =>
        rw [hx, hxs] at h
        cases h
        exact .cons hx (ih hxs)

/-- The first item of a list that fails makes the list fail. -/
theorem mapM_eq_error_of_first {ε α β : Type} {f : α → Except ε β} {before after : List α} {x : α}
    {e : ε} (hbefore : ∀ y ∈ before, ∃ z, f y = .ok z) (hx : f x = .error e) :
    (before ++ x :: after).mapM f = .error e := by
  induction before with
  | nil =>
    rw [List.nil_append, List.mapM_cons, hx]
    rfl
  | cons y before ih =>
    obtain ⟨⟨z, hz⟩, hbefore⟩ := List.forall_mem_cons.1 hbefore
    rw [List.cons_append, List.mapM_cons, hz, ih hbefore]
    rfl

/-- A list fails with its first item that fails. -/
theorem mapM_eq_error_iff {ε α β : Type} {f : α → Except ε β} {xs : List α} {e : ε} :
    xs.mapM f = .error e ↔ ∃ before x after, xs = before ++ x :: after
      ∧ (∀ y ∈ before, ∃ z, f y = .ok z) ∧ f x = .error e := by
  constructor
  · intro h
    induction xs with
    | nil => cases h
    | cons x xs ih =>
      rw [List.mapM_cons] at h
      cases hx : f x with
      | error found =>
        rw [hx] at h
        cases h
        exact ⟨[], x, xs, rfl, by simp, hx⟩
      | ok z =>
        cases hxs : xs.mapM f with
        | ok zs =>
          rw [hx, hxs] at h
          cases h
        | error found =>
          rw [hx, hxs] at h
          cases h
          obtain ⟨before, y, after, rfl, hbefore, hy⟩ := ih hxs
          exact ⟨x :: before, y, after, rfl, List.forall_mem_cons.2 ⟨⟨z, hx⟩, hbefore⟩, hy⟩
  · rintro ⟨before, x, after, rfl, hbefore, hx⟩
    exact mapM_eq_error_of_first hbefore hx

/-- Either nothing in a list has a property, or there is a first item that has it. -/
theorem forall_not_or_first {α : Type} (p : α → Prop) (xs : List α) :
    (∀ x ∈ xs, ¬ p x)
      ∨ ∃ before x after, xs = before ++ x :: after ∧ (∀ y ∈ before, ¬ p y) ∧ p x := by
  induction xs with
  | nil => exact .inl (by simp)
  | cons x xs ih =>
    by_cases hx : p x
    · exact .inr ⟨[], x, xs, rfl, by simp, hx⟩
    · obtain hnone | ⟨before, y, after, rfl, hbefore, hy⟩ := ih
      · exact .inl (List.forall_mem_cons.2 ⟨hx, hnone⟩)
      · exact .inr ⟨x :: before, y, after, rfl, List.forall_mem_cons.2 ⟨hx, hbefore⟩, hy⟩

/-- The items of a list all have an owner, or one is the first that has none. -/
theorem owned_or_first_unowned {ι α β : Type} (name : ι → β) (nameOf : α → β) (xs : List α) :
    (∀ x ∈ xs, ∃ i, name i = nameOf x)
      ∨ ∃ before x after, xs = before ++ x :: after ∧ (∀ y ∈ before, ∃ i, name i = nameOf y)
        ∧ ∀ i, name i ≠ nameOf x := by
  obtain hall | ⟨before, x, after, hxs, hbefore, hx⟩ :=
    forall_not_or_first (fun x => ¬ ∃ i, name i = nameOf x) xs
  · exact .inl fun x hx => not_not.1 (hall x hx)
  · exact .inr ⟨before, x, after, hxs, fun y hy => not_not.1 (hbefore y hy), not_exists.1 hx⟩

/-- A list whose items are the images of those of another one. -/
theorem eq_map_of_forall₂ {α β : Type} {f : α → β} {xs : List α} {ys : List β}
    (h : List.Forall₂ (fun x y => y = f x) xs ys) : ys = xs.map f := by
  induction h with
  | nil => rfl
  | cons hx _ ih => rw [hx, ih, List.map_cons]

/-- Items that are related one by one to others are cut where these are cut. -/
theorem split_of_forall₂ {α β : Type} {R : α → β → Prop} {xs : List α} {before after : List β}
    {y : β} (h : List.Forall₂ R xs (before ++ y :: after)) :
    ∃ front x rest, xs = front ++ x :: rest ∧ List.Forall₂ R front before ∧ R x y := by
  induction before generalizing xs with
  | nil =>
    cases h with
    | cons hfirst _ => exact ⟨[], _, _, rfl, .nil, hfirst⟩
  | cons first before ih =>
    cases h with
    | cons hfirst hothers =>
      obtain ⟨front, x, rest, rfl, hfront, hx⟩ := ih hothers
      exact ⟨_ :: front, x, rest, rfl, .cons hfirst hfront, hx⟩

/-- Items that are related one by one to others come of each of these. -/
theorem exists_of_forall₂_of_mem {α β : Type} {R : α → β → Prop} {xs : List α} {ys : List β}
    {y : β} (h : List.Forall₂ R xs ys) (hy : y ∈ ys) : ∃ x ∈ xs, R x y := by
  obtain ⟨before, after, rfl⟩ := List.append_of_mem hy
  obtain ⟨front, x, rest, rfl, -, hx⟩ := split_of_forall₂ h
  exact ⟨x, by simp, hx⟩

/-! ## Positions -/

namespace Positions.Locates

variable {α : Type} {p : Positions} {items : List α} {nameOf : α → String}

/-- An item is found by its name exactly if it is in the list. -/
theorem item?_eq_some_iff (h : p.Locates (items.map nameOf)) {name : String} {item : α} :
    p.item? items name = some item ↔ item ∈ items ∧ nameOf item = name := by
  have hplace (place : Nat) :
      p.find? name = some place ↔ ∃ found, items[place]? = some found ∧ nameOf found = name := by
    rw [h name place, List.getElem?_map, Option.map_eq_some_iff]
  rw [item?, Option.bind_eq_some_iff]
  constructor
  · rintro ⟨place, hfind, hitem⟩
    obtain ⟨found, hfound, hname⟩ := (hplace place).1 hfind
    rw [hitem] at hfound
    cases hfound
    exact ⟨List.mem_of_getElem? hitem, hname⟩
  · rintro ⟨hmem, hname⟩
    obtain ⟨place, hitem⟩ := List.mem_iff_getElem?.1 hmem
    exact ⟨place, (hplace place).2 ⟨item, hitem, hname⟩, hitem⟩

/-- Finding an item by its position comes to the same as searching the list for its name. -/
theorem item?_eq_find? (h : p.Locates (items.map nameOf)) (name : String) :
    p.item? items name = items.find? fun item => nameOf item == name := by
  cases hfind : items.find? fun item => nameOf item == name with
  | some found =>
    have hname := List.find?_some hfind
    exact h.item?_eq_some_iff.2 ⟨List.mem_of_find?_eq_some hfind, beq_iff_eq.1 hname⟩
  | none =>
    rw [List.find?_eq_none] at hfind
    rw [Option.eq_none_iff_forall_ne_some]
    intro item hitem
    obtain ⟨hmem, hname⟩ := h.item?_eq_some_iff.1 hitem
    exact hfind item hmem (beq_iff_eq.2 hname)

end Positions.Locates

/-! ## Fields and columns -/

namespace RecordType

/-- The field with a name, searched for among all. -/
def indexOf? (type : RecordType) (name : String) : Option type.Index :=
  type.indices.find? fun i => (type.field i).ident == name

/-- A type with fields has a first one. -/
theorem indices_ne_nil (fields : 0 < type.fields.length) : type.indices ≠ [] := by
  intro h
  have hmem : (⟨0, fields⟩ : type.Index) ∈ type.indices := List.mem_finRange _
  rw [h] at hmem
  cases hmem

end RecordType

/-- The value of what the field with a name contains. -/
def Record.valueOf? (record : Record type) (name : String) : Option Value :=
  (type.indexOf? name).map fun i => (type.field i).type.toValue (record i)

namespace Table

/-- Every field stands with its column at its own place. -/
theorem getElem?_infos (t : Table type) (i : type.Index) :
    t.infos[i.val]? = some ⟨i, t.column i⟩ := by
  have hlt : i.val < t.infos.length := by
    rw [t.length_infos]
    exact i.isLt
  have hfield : t.infos[i.val].field = i := by
    have hat : (t.infos.map ColumnInfo.field)[i.val]? = some i := by
      rw [t.fields_infos]
      simp [RecordType.indices]
    rw [List.getElem?_map, List.getElem?_eq_getElem hlt] at hat
    exact Option.some.inj hat
  rw [List.getElem?_eq_getElem hlt, Option.some.injEq]
  exact congrArg (ColumnInfo.mk · (t.column i)) hfield

/-- The list holds each field with its column, and nothing else. -/
theorem mem_infos_iff {t : Table type} {info : ColumnInfo type} :
    info ∈ t.infos ↔ info.column = t.column info.field := by
  constructor
  · intro hmem
    obtain ⟨place, hplace⟩ := List.mem_iff_getElem?.1 hmem
    have hlt : place < type.fields.length := by
      rw [← t.length_infos]
      exact (List.getElem?_eq_some_iff.1 hplace).1
    have hat := t.getElem?_infos ⟨place, hlt⟩
    rw [hplace, Option.some.injEq] at hat
    rw [hat]
  · intro hcolumn
    have hat := t.getElem?_infos info.field
    rw [← hcolumn] at hat
    exact List.mem_of_getElem? hat

/-- The list goes through the fields in order. -/
theorem infos_eq (t : Table type) :
    t.infos = type.indices.map fun i => ⟨i, t.column i⟩ := by
  rw [← t.fields_infos, List.map_map]
  conv_lhs => rw [← List.map_id t.infos]
  refine List.map_congr_left fun info hinfo => ?_
  obtain ⟨i, column⟩ := info
  rw [mem_infos_iff] at hinfo
  exact congrArg (ColumnInfo.mk i) hinfo

/-- A field is found by its name exactly if it stands in the list. -/
theorem fieldNamed?_eq_some_iff {t : Table type} {name : String} {info : ColumnInfo type} :
    t.fieldNamed? name = some info ↔ info ∈ t.infos ∧ info.ident = name :=
  t.located.byField.item?_eq_some_iff

/-- A field is found by its column exactly if it stands in the list. -/
theorem columnNamed?_eq_some_iff {t : Table type} {name : String} {info : ColumnInfo type} :
    t.columnNamed? name = some info ↔ info ∈ t.infos ∧ info.column = name :=
  t.located.byColumn.item?_eq_some_iff

/-- Finding a field by its name comes to the same as searching the list for it. -/
theorem fieldNamed?_eq_find? (t : Table type) (name : String) :
    t.fieldNamed? name = t.infos.find? fun info => info.ident == name :=
  t.located.byField.item?_eq_find? name

/-- Finding a field by its column comes to the same as searching the list for it. -/
theorem columnNamed?_eq_find? (t : Table type) (name : String) :
    t.columnNamed? name = t.infos.find? fun info => info.column == name :=
  t.located.byColumn.item?_eq_find? name

/-- A field is found by its name. -/
theorem requireField_eq_ok_iff {t : Table type} {name : String} {i : type.Index} :
    t.requireField name = .ok i ↔ (type.field i).ident = name := by
  rw [requireField]
  constructor
  · intro h
    split at h
    · rename_i info hinfo
      cases h
      exact (fieldNamed?_eq_some_iff.1 hinfo).2
    · cases h
  · intro h
    rw [fieldNamed?_eq_some_iff.2 ⟨List.mem_of_getElem? (t.getElem?_infos i), h⟩]

/-- A name that no field has is not found. -/
theorem requireField_eq_error {t : Table type} {name : String}
    (h : ∀ i, (type.field i).ident ≠ name) : t.requireField name = .error (.unknownField name) := by
  rw [requireField]
  cases hfound : t.fieldNamed? name with
  | none => rfl
  | some info => exact absurd (fieldNamed?_eq_some_iff.1 hfound).2 (h info.field)

/-- A column that is required is that of the field that is found. -/
theorem requireColumn_eq_ok_iff {t : Table type} {name : String} {i : type.Index} :
    t.requireColumn name = .ok i ↔ t.column i = name := by
  rw [requireColumn]
  constructor
  · intro h
    split at h
    · rename_i info hinfo
      cases h
      obtain ⟨hmem, hname⟩ := columnNamed?_eq_some_iff.1 hinfo
      rw [← mem_infos_iff.1 hmem, hname]
    · cases h
  · intro h
    rw [columnNamed?_eq_some_iff.2 ⟨List.mem_of_getElem? (t.getElem?_infos i), h⟩]

/-- A column that no field has is not found. -/
theorem requireColumn_eq_error {t : Table type} {name : String} (h : ∀ i, t.column i ≠ name) :
    t.requireColumn name = .error (.unknownColumn name) := by
  rw [requireColumn]
  cases hfound : t.columnNamed? name with
  | none => rfl
  | some info =>
    obtain ⟨hmem, hname⟩ := columnNamed?_eq_some_iff.1 hfound
    rw [mem_infos_iff.1 hmem] at hname
    exact absurd hname (h info.field)

/-- No two fields have one column. -/
theorem column_injective (t : Table type) : Function.Injective t.column := by
  intro i j h
  have hi : t.requireColumn (t.column j) = .ok i := requireColumn_eq_ok_iff.2 h
  rw [requireColumn_eq_ok_iff.2 rfl] at hi
  cases hi
  rfl

/-- No two fields have one name. -/
theorem ident_injective (t : Table type) :
    Function.Injective fun i : type.Index => (type.field i).ident := by
  intro i j h
  have hi : t.requireField (type.field j).ident = .ok i := requireField_eq_ok_iff.2 h
  rw [requireField_eq_ok_iff.2 rfl] at hi
  cases hi
  rfl

/-- Either no field has a name, or there is one field that has it. -/
theorem requireField_cases (t : Table type) (name : String) :
    (∃ fault, t.requireField name = .error fault ∧ ∀ i, (type.field i).ident ≠ name)
      ∨ ∃ i, t.requireField name = .ok i ∧ ∀ j, (type.field j).ident = name ↔ j = i := by
  cases h : t.requireField name with
  | error fault =>
    refine .inl ⟨fault, rfl, fun i hi => ?_⟩
    rw [requireField_eq_ok_iff.2 hi] at h
    cases h
  | ok i =>
    refine .inr ⟨i, rfl, fun j => ?_⟩
    rw [← requireField_eq_ok_iff, h]
    exact ⟨fun hj => by cases hj; rfl, fun hj => by rw [hj]⟩

/-- The fields of a list of names are those that have the names. -/
theorem mapM_requireField_eq_ok_iff {t : Table type} {names : List String}
    {fields : List type.Index} :
    names.mapM t.requireField = .ok fields
      ↔ names = fields.map fun i => (type.field i).ident := by
  rw [mapM_eq_ok_iff, ← List.forall₂_eq_eq_eq, List.forall₂_map_right_iff]
  simp only [requireField_eq_ok_iff, @eq_comm String]

/-- The fields of a list of columns are those that have the columns. -/
theorem resolve_eq_ok_iff {t : Table type} {columns : List String} {fields : List type.Index} :
    t.resolve columns = .ok fields ↔ columns = fields.map t.column := by
  rw [resolve, mapM_eq_ok_iff, ← List.forall₂_eq_eq_eq, List.forall₂_map_right_iff]
  simp only [requireColumn_eq_ok_iff, @eq_comm String]

/-- The first column that no field has is reported. -/
theorem resolve_of_first_unknown {t : Table type} {before after : List String} {name : String}
    (known : ∀ column ∈ before, ∃ i, t.column i = column) (unknown : ∀ i, t.column i ≠ name) :
    t.resolve (before ++ name :: after) = .error (.unknownColumn name) := by
  apply mapM_eq_error_of_first
  · intro column hcolumn
    obtain ⟨i, hi⟩ := known column hcolumn
    exact ⟨i, requireColumn_eq_ok_iff.2 hi⟩
  · exact requireColumn_eq_error unknown

/-- The search for a name finds the field that has it. -/
theorem indexOf?_eq_some_iff (t : Table type) {name : String} {i : type.Index} :
    type.indexOf? name = some i ↔ (type.field i).ident = name := by
  rw [RecordType.indexOf?, RecordType.indices, find?_finRange_eq_some_iff]
  · exact beq_iff_eq
  · intro j hj hi
    exact t.ident_injective ((beq_iff_eq.1 hj).trans (beq_iff_eq.1 hi).symm)

/-- The field of a column, searched for among all. -/
def indexOfColumn? (t : Table type) (name : String) : Option type.Index :=
  type.indices.find? fun i => t.column i == name

/-- The search for a column finds the field that has it. -/
theorem indexOfColumn?_eq_some_iff {t : Table type} {name : String} {i : type.Index} :
    t.indexOfColumn? name = some i ↔ t.column i = name := by
  rw [indexOfColumn?, RecordType.indices, find?_finRange_eq_some_iff]
  · exact beq_iff_eq
  · intro j hj hi
    exact t.column_injective ((beq_iff_eq.1 hj).trans (beq_iff_eq.1 hi).symm)

/-- The field of a column is the one that has it. -/
@[simp]
theorem indexOfColumn?_column (t : Table type) (i : type.Index) :
    t.indexOfColumn? (t.column i) = some i :=
  indexOfColumn?_eq_some_iff.2 rfl

/-- The column of the field with a name. -/
def columnOf? (t : Table type) (name : String) : Option String :=
  (type.indexOf? name).map t.column

/-- The column of a field is found by its name. -/
@[simp]
theorem columnOf?_ident (t : Table type) (i : type.Index) :
    t.columnOf? (type.field i).ident = some (t.column i) := by
  rw [columnOf?, t.indexOf?_eq_some_iff.2 rfl, Option.map_some]

/-- A field that is searched for by its name has the value of its content. -/
theorem valueOf?_ident (t : Table type) (record : Record type) (i : type.Index) :
    record.valueOf? (type.field i).ident = some ((type.field i).type.toValue (record i)) := by
  rw [Record.valueOf?, t.indexOf?_eq_some_iff.2 rfl, Option.map_some]

/-- In either mode a field is read by its name, and what is read is the value of what the field
contains. -/
@[simp]
theorem readField_ident (t : Table type) (mode : DecodeMode) (record : Record type)
    (i : type.Index) :
    t.readField mode record (type.field i).ident
      = .ok ((type.field i).type.toValue (record i)) := by
  rw [readField, requireField_eq_ok_iff.2 rfl]
  dsimp only
  split
  · rfl
  · rfl

end Table

/-! ## A small table -/

/-- Notes with a number, a title that may be missing, and a weight. -/
def RecordType.note : RecordType where
  name := "Note"
  shape := .record
  tableHook := none
  fields :=
    [⟨"id", .required (.unsigned .w32), none, false⟩,
      ⟨"title", .optional .text, some "column=heading", true⟩,
      ⟨"weight", .required .single, none, true⟩]

/-- The table of notes. -/
def Table.note : Table RecordType.note where
  name := "note"
  infos :=
    [⟨⟨0, by decide⟩, "id"⟩, ⟨⟨1, by decide⟩, "heading"⟩, ⟨⟨2, by decide⟩, "weight"⟩]
  byField := ⟨[("weight", 2), ("title", 1), ("id", 0)]⟩
  byColumn := ⟨[("weight", 2), ("heading", 1), ("id", 0)]⟩
  fields_infos := by decide
  located := by decide

-- The table of notes is the one that its type has.
example : Table.ofType RecordType.note = .ok Table.note := by rfl

/-- No column of a note has a back-tick. -/
theorem Table.note_plain : ∀ i, '\x60' ∉ (Table.note.column i).toList := by decide

end RecordSql
