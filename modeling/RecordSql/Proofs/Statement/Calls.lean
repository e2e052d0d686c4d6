import RecordSql.Proofs.Statement.Assignment

/-!
# Calls on builders

A statement comes about by calls on a builder, and every call gives something of one kind: the name
of the table, columns to read or fields to write, records, a value for a field, or conditions. Each
kind has its own part of the builder (`after_eq`), so calls of different kinds may come in any
order, and of the calls of one kind only what they give counts: of the names of the table the last,
and of columns, fields, records and conditions all, one behind the other. The mode in which records
are read makes no difference either.
-/

set_option autoImplicit false

namespace RecordSql

variable {type : RecordType}

/-! ## Kinds of calls -/

/-- The kinds of calls on builders. -/
inductive CallKind where
  | table | columns | records | assignments | conditions
deriving DecidableEq

/-- Calls that are the same ones within every kind, in the same order, however the kinds are
mixed. -/
def SameByKind {α : Type} (kind : α → CallKind) (calls others : List α) : Prop :=
  ∀ k, calls.filter (kind · = k) = others.filter (kind · = k)

namespace SameByKind

variable {α β : Type} {kind : α → CallKind} {calls others : List α}

/-- What only the calls of one kind give is the same. -/
theorem flatMap_eq (h : SameByKind kind calls others) (k : CallKind) {give : α → List β}
    (hgive : ∀ call, kind call ≠ k → give call = []) :
    calls.flatMap give = others.flatMap give := by
  have hfilter (calls : List α) :
      calls.flatMap give = (calls.filter (kind · = k)).flatMap give := by
    induction calls with
    | nil => rfl
    | cons call calls ih =>
      rw [List.flatMap_cons, ih]
      by_cases hkind : kind call = k
      · rw [List.filter_cons_of_pos (by simpa using hkind), List.flatMap_cons]
      · rw [List.filter_cons_of_neg (by simpa using hkind), hgive call hkind, List.nil_append]
  rw [hfilter calls, hfilter others, h k]

/-- So it is with what a call gives at most one of. -/
theorem filterMap_eq (h : SameByKind kind calls others) (k : CallKind) {give? : α → Option β}
    (hgive : ∀ call, kind call ≠ k → give? call = none) :
    calls.filterMap give? = others.filterMap give? := by
  rw [List.filterMap_eq_flatMap_toList, List.filterMap_eq_flatMap_toList]
  apply h.flatMap_eq k
  intro call hkind
  rw [hgive call hkind]
  rfl

end SameByKind

/-! ## SELECT -/

namespace Select

/-- A call on a SELECT. -/
inductive Call where
  /-- Names the table. -/
  | fromTable (name : String)
  /-- Reads some more columns. -/
  | project (columns : List Expr)
  /-- Reads the columns of some more fields. -/
  | projectFields (names : List String)
  /-- Adds conditions. -/
  | filter (conditions : List Condition)

namespace Call

/-- The SELECT that a call leaves. -/
def on (s : Select) : Call → Select
  | .fromTable name => s.fromTable name
  | .project columns => s.project columns
  | .projectFields names => s.projectFields names
  | .filter conditions => s.filter conditions

/-- The kind of a call. -/
def kind : Call → CallKind
  | .fromTable _ => .table
  | .project _ | .projectFields _ => .columns
  | .filter _ => .conditions

/-- The table that a call names. -/
def table? : Call → Option String
  | .fromTable name => some name
  | _ => none

/-- The columns that a call gives. -/
def columns : Call → List Expr
  | .project columns => columns
  | .projectFields names => names.map Expr.field
  | _ => []

/-- The conditions that a call gives. -/
def conditions : Call → List Condition
  | .filter conditions => conditions
  | _ => []

end Call

/-- The SELECT that some calls leave, one after the other. -/
def after (calls : List Call) : Select := calls.foldl Call.on empty

/-- What calls leave of a SELECT, by their kinds. -/
theorem after_eq (calls : List Call) :
    after calls = ⟨(calls.filterMap Call.table?).getLast?, calls.flatMap Call.columns,
      calls.flatMap Call.conditions⟩ := by
  induction calls using List.reverseRecOn with
  | nil => rfl
  | append_singleton calls call ih =>
    rw [after, List.foldl_concat]
    show Call.on (after calls) call = _
    rw [ih]
    cases call with
    | fromTable name => simp [Call.on, fromTable, Call.table?, Call.columns, Call.conditions]
    | project columns => simp [Call.on, project, Call.table?, Call.columns, Call.conditions]
    | projectFields names =>
      simp [Call.on, projectFields, project, Call.table?, Call.columns, Call.conditions]
    | filter conditions => simp [Call.on, filter, Call.table?, Call.columns, Call.conditions]

/-- A call gives only what is of its kind. -/
theorem Call.gives_own_kind (call : Call) :
    (call.kind ≠ .table → call.table? = none) ∧ (call.kind ≠ .columns → call.columns = [])
      ∧ (call.kind ≠ .conditions → call.conditions = []) := by
  cases call <;> simp [kind, table?, columns, conditions]

/-- Calls that are the same within every kind leave the same SELECT. -/
theorem after_congr {calls others : List Call} (h : SameByKind Call.kind calls others) :
    after calls = after others := by
  have htable : calls.filterMap Call.table? = others.filterMap Call.table? :=
    h.filterMap_eq .table fun call => call.gives_own_kind.1
  have hcolumns : calls.flatMap Call.columns = others.flatMap Call.columns :=
    h.flatMap_eq .columns fun call => call.gives_own_kind.2.1
  have hconditions : calls.flatMap Call.conditions = others.flatMap Call.conditions :=
    h.flatMap_eq .conditions fun call => call.gives_own_kind.2.2
  rw [after_eq, after_eq, htable, hcolumns, hconditions]

end Select

/-! ## INSERT -/

namespace Insert

/-- A call on an INSERT. -/
inductive Call (type : RecordType) where
  /-- Names the table. -/
  | intoTable (name : String)
  /-- Writes some more fields. -/
  | onlyFields (names : List String)
  /-- Writes some more records. -/
  | values (records : List (Record type))
  /-- Writes one more record. -/
  | value (record : Record type)

namespace Call

/-- The INSERT that a call leaves. -/
def on (s : Insert type) : Call type → Insert type
  | .intoTable name => s.intoTable name
  | .onlyFields names => s.onlyFields names
  | .values records => s.values records
  | .value record => s.value record

/-- The kind of a call. -/
def kind : Call type → CallKind
  | .intoTable _ => .table
  | .onlyFields _ => .columns
  | .values _ | .value _ => .records

/-- The table that a call names. -/
def table? : Call type → Option String
  | .intoTable name => some name
  | _ => none

/-- The fields that a call gives. -/
def fields : Call type → List String
  | .onlyFields names => names
  | _ => []

/-- The records that a call gives. -/
def records : Call type → List (Record type)
  | .values records => records
  | .value record => [record]
  | _ => []

end Call

/-- The INSERT that some calls leave, one after the other. -/
def after (calls : List (Call type)) : Insert type := calls.foldl Call.on (empty type)

/-- What calls leave of an INSERT, by their kinds. -/
theorem after_eq (calls : List (Call type)) :
    after calls = ⟨(calls.filterMap Call.table?).getLast?, calls.flatMap Call.fields,
      calls.flatMap Call.records⟩ := by
  induction calls using List.reverseRecOn with
  | nil => rfl
  | append_singleton calls call ih =>
    rw [after, List.foldl_concat]
    show Call.on (after calls) call = _
    rw [ih]
    cases call with
    | intoTable name => simp [Call.on, intoTable, Call.table?, Call.fields, Call.records]
    | onlyFields names => simp [Call.on, onlyFields, Call.table?, Call.fields, Call.records]
    | values records => simp [Call.on, values, Call.table?, Call.fields, Call.records]
    | value record => simp [Call.on, value, values, Call.table?, Call.fields, Call.records]

/-- A call gives only what is of its kind. -/
theorem Call.gives_own_kind (call : Call type) :
    (call.kind ≠ .table → call.table? = none) ∧ (call.kind ≠ .columns → call.fields = [])
      ∧ (call.kind ≠ .records → call.records = []) := by
  cases call <;> simp [kind, table?, fields, records]

/-- Calls that are the same within every kind leave the same INSERT. -/
theorem after_congr {calls others : List (Call type)} (h : SameByKind Call.kind calls others) :
    after calls = after others := by
  have htable : calls.filterMap Call.table? = others.filterMap Call.table? :=
    h.filterMap_eq .table fun call => call.gives_own_kind.1
  have hfields : calls.flatMap Call.fields = others.flatMap Call.fields :=
    h.flatMap_eq .columns fun call => call.gives_own_kind.2.1
  have hrecords : calls.flatMap Call.records = others.flatMap Call.records :=
    h.flatMap_eq .records fun call => call.gives_own_kind.2.2
  rw [after_eq, after_eq, htable, hfields, hrecords]

end Insert

/-! ## UPDATE -/

namespace Update

/-- The kind of a call. -/
def Call.kind : Call → CallKind
  | .ofTable _ => .table
  | .set _ _ => .assignments
  | .filter _ => .conditions

/-- Calls that are the same within every kind leave the same UPDATE. -/
theorem after_congr {calls others : List Call} (h : SameByKind Call.kind calls others) :
    after calls = after others := by
  have htable : lastTable? calls = lastTable? others := by
    unfold lastTable?
    rw [h.filterMap_eq .table]
    intro call hkind
    cases call <;> simp [Call.kind] at hkind ⊢
  have hsettings : settings calls = settings others := by
    apply h.filterMap_eq .assignments
    intro call hkind
    cases call <;> simp [Call.kind] at hkind ⊢
  have hconditions : restrictions calls = restrictions others := by
    apply h.flatMap_eq .conditions
    intro call hkind
    cases call <;> simp [Call.kind] at hkind ⊢
  rw [after_eq, after_eq, htable, hsettings, hconditions]

end Update

/-! ## DELETE -/

namespace Delete

/-- A call on a DELETE. -/
inductive Call where
  /-- Names the table. -/
  | fromTable (name : String)
  /-- Adds conditions. -/
  | filter (conditions : List Condition)

namespace Call

/-- The DELETE that a call leaves. -/
def on (s : Delete) : Call → Delete
  | .fromTable name => s.fromTable name
  | .filter conditions => s.filter conditions

/-- The kind of a call. -/
def kind : Call → CallKind
  | .fromTable _ => .table
  | .filter _ => .conditions

/-- The table that a call names. -/
def table? : Call → Option String
  | .fromTable name => some name
  | .filter _ => none

/-- The conditions that a call gives. -/
def conditions : Call → List Condition
  | .fromTable _ => []
  | .filter conditions => conditions

end Call

/-- The DELETE that some calls leave, one after the other. -/
def after (calls : List Call) : Delete := calls.foldl Call.on empty

/-- What calls leave of a DELETE, by their kinds. -/
theorem after_eq (calls : List Call) :
    after calls
      = ⟨(calls.filterMap Call.table?).getLast?, calls.flatMap Call.conditions⟩ := by
  induction calls using List.reverseRecOn with
  | nil => rfl
  | append_singleton calls call ih =>
    rw [after, List.foldl_concat]
    show Call.on (after calls) call = _
    rw [ih]
    cases call with
    | fromTable name => simp [Call.on, fromTable, Call.table?, Call.conditions]
    | filter conditions => simp [Call.on, filter, Call.table?, Call.conditions]

/-- A call gives only what is of its kind. -/
theorem Call.gives_own_kind (call : Call) :
    (call.kind ≠ .table → call.table? = none)
      ∧ (call.kind ≠ .conditions → call.conditions = []) := by
  cases call <;> simp [kind, table?, conditions]

/-- Calls that are the same within every kind leave the same DELETE. -/
theorem after_congr {calls others : List Call} (h : SameByKind Call.kind calls others) :
    after calls = after others := by
  have htable : calls.filterMap Call.table? = others.filterMap Call.table? :=
    h.filterMap_eq .table fun call => call.gives_own_kind.1
  have hconditions : calls.flatMap Call.conditions = others.flatMap Call.conditions :=
    h.flatMap_eq .conditions fun call => call.gives_own_kind.2
  rw [after_eq, after_eq, htable, hconditions]

end Delete

/-! ## Statements -/

/-- Calls on a builder that are the same ones within every kind come to the same statement or the
same fault, however the kinds are mixed, and also if records are read in one mode for the one
statement and in the other for the other. A statement depends on the last name of a table and on the
columns, fields, records and conditions that are given all in all, not on the calls that they are
divided among; one record by itself counts as a list of one, and the names of fields count as their
columns. The values of fields depend on the settings in their order. -/
theorem Table.statements_of_calls (t : Table type) (mode mode' : DecodeMode) :
    (∀ calls others : List Select.Call, SameByKind Select.Call.kind calls others →
        (Select.after calls).build t mode = (Select.after others).build t mode')
      ∧ (∀ calls others : List (Insert.Call type), SameByKind Insert.Call.kind calls others →
        (Insert.after calls).build t mode = (Insert.after others).build t mode')
      ∧ (∀ calls others : List Update.Call, SameByKind Update.Call.kind calls others →
        (Update.after calls).build t mode = (Update.after others).build t mode')
      ∧ (∀ calls others : List Delete.Call, SameByKind Delete.Call.kind calls others →
        (Delete.after calls).build t mode = (Delete.after others).build t mode')
      ∧ (∀ calls : List Select.Call, (Select.after calls).build t mode
        = Select.build t mode' ⟨(calls.filterMap Select.Call.table?).getLast?,
            calls.flatMap Select.Call.columns, calls.flatMap Select.Call.conditions⟩)
      ∧ (∀ calls : List (Insert.Call type), (Insert.after calls).build t mode
        = Insert.build t mode' ⟨(calls.filterMap Insert.Call.table?).getLast?,
            calls.flatMap Insert.Call.fields, calls.flatMap Insert.Call.records⟩)
      ∧ (∀ calls : List Update.Call, (Update.after calls).build t mode
        = Update.build t mode' ⟨Update.lastTable? calls, Update.assignAll (Update.settings calls),
            Update.restrictions calls⟩)
      ∧ (∀ calls : List Delete.Call, (Delete.after calls).build t mode
        = Delete.build t mode' ⟨(calls.filterMap Delete.Call.table?).getLast?,
            calls.flatMap Delete.Call.conditions⟩) := by
  have hmodes := Builder.build_eq_of_modes t mode mode'
  refine ⟨?select, ?insert, ?update, ?delete, ?selected, ?inserted, ?updated, ?deleted⟩
  case select =>
    intro calls others h
    rw [Select.after_congr h]
    exact hmodes (.select (Select.after others))
  case insert =>
    intro calls others h
    rw [Insert.after_congr h]
    exact hmodes (.insert (Insert.after others))
  case update =>
    intro calls others h
    rw [Update.after_congr h]
    exact hmodes (.update (Update.after others))
  case delete =>
    intro calls others h
    rw [Delete.after_congr h]
    exact hmodes (.delete (Delete.after others))
  case selected =>
    intro calls
    rw [Select.after_eq]
    exact hmodes (.select _)
  case inserted =>
    intro calls
    rw [Insert.after_eq]
    exact hmodes (.insert _)
  case updated =>
    intro calls
    rw [Update.after_eq]
    exact hmodes (.update _)
  case deleted =>
    intro calls
    rw [Delete.after_eq]
    exact hmodes (.delete _)

/-- Calls in two orders and records read in two modes: the name of the table is given twice, and the
other calls come before, between and after these. -/
theorem Table.statements_of_calls_note :
    let heavy := Condition.compare .gt "weight" .null
    let record := Record.initial RecordType.note
    let reads : List Select.Call :=
      [.filter [heavy], .fromTable "notes", .projectFields ["id"], .fromTable "drafts"]
    let writes : List (Insert.Call RecordType.note) :=
      [.value record, .intoTable "notes", .onlyFields ["id"], .values [record, record]]
    let changes : List Update.Call :=
      [.set "title" .null, .filter [heavy], .ofTable "notes", .set "title" (.text "draft")]
    let removes : List Delete.Call := [.filter [heavy], .fromTable "notes", .filter []]
    SameByKind Select.Call.kind reads
        [.fromTable "notes", .fromTable "drafts", .projectFields ["id"], .filter [heavy]]
      ∧ (Select.after reads).build Table.note .safe = (Select.after
        [.fromTable "notes", .fromTable "drafts", .projectFields ["id"], .filter [heavy]]).build
          Table.note .offset
      ∧ SameByKind Insert.Call.kind writes
        [.intoTable "notes", .onlyFields ["id"], .value record, .values [record, record]]
      ∧ (Insert.after writes).build Table.note .safe = (Insert.after
        [.intoTable "notes", .onlyFields ["id"], .value record, .values [record, record]]).build
          Table.note .offset
      ∧ SameByKind Update.Call.kind changes
        [.ofTable "notes", .set "title" .null, .set "title" (.text "draft"), .filter [heavy]]
      ∧ (Update.after changes).build Table.note .safe = (Update.after
        [.ofTable "notes", .set "title" .null, .set "title" (.text "draft"),
          .filter [heavy]]).build Table.note .offset
      ∧ SameByKind Delete.Call.kind removes [.fromTable "notes", .filter [heavy], .filter []]
      ∧ (Delete.after removes).build Table.note .safe
        = (Delete.after [.fromTable "notes", .filter [heavy], .filter []]).build
          Table.note .offset := by
  intro heavy record reads writes changes removes
  have hreads : SameByKind Select.Call.kind reads
      [.fromTable "notes", .fromTable "drafts", .projectFields ["id"], .filter [heavy]] := by
    intro k
    cases k <;> rfl
  have hwrites : SameByKind Insert.Call.kind writes
      [.intoTable "notes", .onlyFields ["id"], .value record, .values [record, record]] := by
    intro k
    cases k <;> rfl
  have hchanges : SameByKind Update.Call.kind changes
      [.ofTable "notes", .set "title" .null, .set "title" (.text "draft"), .filter [heavy]] := by
    intro k
    cases k <;> rfl
  have hremoves : SameByKind Delete.Call.kind removes
      [.fromTable "notes", .filter [heavy], .filter []] := by
    intro k
    cases k <;> rfl
  obtain ⟨hselect, hinsert, hupdate, hdelete, -⟩ := Table.note.statements_of_calls .safe .offset
  exact ⟨hreads, hselect _ _ hreads, hwrites, hinsert _ _ hwrites, hchanges, hupdate _ _ hchanges,
    hremoves, hdelete _ _ hremoves⟩

end RecordSql
