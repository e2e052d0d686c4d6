import RecordSql.Proofs.Expr.Acceptance
import RecordSql.Proofs.Statement.Builder
import Mathlib.Data.List.Induction
import Mathlib.Data.Set.List

/-!
# What becomes of an UPDATE

An UPDATE comes about by calls that set fields, add conditions and name the table. Whatever their
order, the list of assignments has every field once in the end: a field has the place at which it
was set first and the value to which it was set last. Without any assignment nothing is written;
then a name that belongs to no field is reported, and only then what is wrong with a condition.
`Update.BuildsTo` lists the outcomes, and `Update.build_after_calls` says that there are no others.
-/

set_option autoImplicit false

namespace RecordSql

variable {type : RecordType}

/-! ## Lists -/

/-- A further item counts if it is not among the items already. -/
theorem eraseDups_concat (xs : List String) (x : String) :
    (xs ++ [x]).eraseDups = if x ∈ xs then xs.eraseDups else xs.eraseDups ++ [x] := by
  rw [List.eraseDups_append]
  split
  · rename_i hx
    simp [List.removeAll, hx]
  · rename_i hx
    have hnew : [x].removeAll xs = [x] := by simp [List.removeAll, hx]
    rw [hnew]
    rfl

/-- Without its repetitions a list has none. -/
theorem nodup_eraseDups (xs : List String) : xs.eraseDups.Nodup := by
  induction xs using List.reverseRecOn with
  | nil => exact List.nodup_nil
  | append_singleton xs x ih =>
    rw [eraseDups_concat]
    split
    · exact ih
    · rename_i hx
      rw [← List.concat_eq_append, List.nodup_concat, List.mem_eraseDups]
      exact ⟨hx, ih⟩

/-- What is found first is not a repetition. -/
theorem findSome?_eraseDups {α : Type} (f : String → Option α) (xs : List String) :
    xs.eraseDups.findSome? f = xs.findSome? f := by
  induction xs using List.reverseRecOn with
  | nil => rfl
  | append_singleton xs x ih =>
    rw [eraseDups_concat, List.findSome?_append]
    split
    · rename_i hx
      cases hfound : xs.findSome? f with
      | some a => rw [ih, hfound, Option.some_or]
      | none =>
        have hnone : f x = none := List.findSome?_eq_none_iff.1 hfound x hx
        simp [ih, hfound, hnone]
    · rw [List.findSome?_append, ih]

/-- A list of names with values is found again from its names and what they stand for. -/
theorem eq_of_names_eq {α : Type} (value? : String → Option α) {xs ys : List (String × α)}
    (names : xs.map Prod.fst = ys.map Prod.fst) (hxs : ∀ x ∈ xs, value? x.1 = some x.2)
    (hys : ∀ y ∈ ys, value? y.1 = some y.2) : xs = ys := by
  have hpaired (zs : List (String × α)) (hzs : ∀ z ∈ zs, value? z.1 = some z.2) :
      zs.map (Prod.map id some) = (zs.map Prod.fst).map fun name => (name, value? name) := by
    rw [List.map_map]
    apply List.map_congr_left
    intro z hz
    exact Prod.ext rfl (hzs z hz).symm
  have hinjective : Function.Injective (Prod.map (id : String → String) (some : α → Option α)) :=
    Function.injective_id.prodMap (Option.some_injective α)
  apply List.map_injective_iff.2 hinjective
  rw [hpaired xs hxs, hpaired ys hys, names]

/-- The first item with a name is found. -/
theorem lookup_cons_eq_ite {α : Type} (name : String) (x : String × α) (xs : List (String × α)) :
    (x :: xs).lookup name = if name = x.1 then some x.2 else xs.lookup name := by
  rw [List.lookup_cons]
  split
  · rename_i heq
    rw [if_pos (beq_iff_eq.1 heq)]
  · rename_i hne
    rw [if_neg (beq_eq_false_iff_ne.1 hne)]

/-- Among distinct names each finds its own value. -/
theorem lookup_eq_of_mem {α : Type} {xs : List (String × α)} {x : String × α}
    (names : (xs.map Prod.fst).Nodup) (hx : x ∈ xs) : xs.lookup x.1 = some x.2 := by
  induction xs with
  | nil => exact absurd hx List.not_mem_nil
  | cons y xs ih =>
    obtain ⟨hy, hxs⟩ := List.nodup_cons.1 names
    rw [lookup_cons_eq_ite]
    obtain rfl | hmem := List.mem_cons.1 hx
    · rw [if_pos rfl]
    · have hne : x.1 ≠ y.1 := by
        intro heq
        exact hy (heq ▸ List.mem_map_of_mem hmem)
      rw [if_neg hne]
      exact ih hxs hmem

namespace Update

/-! ## Calls -/

/-- A call on an UPDATE. -/
inductive Call where
  /-- Names the table. -/
  | ofTable (name : String)
  /-- Sets a field. -/
  | set (field : String) (value : Value)
  /-- Adds conditions. -/
  | filter (conditions : List Condition)

/-- The UPDATE that a call leaves. -/
def Call.on (s : Update) : Call → Update
  | .ofTable name => s.ofTable name
  | .set field value => s.set field value
  | .filter conditions => s.filter conditions

/-- The UPDATE that some calls leave, one after the other. -/
def after (calls : List Call) : Update := calls.foldl Call.on empty

/-- The table that was named last. -/
def lastTable? (calls : List Call) : Option String :=
  (calls.filterMap fun | .ofTable name => some name | _ => none).getLast?

/-- The fields that were set with their values, in the order of the calls. -/
def settings (calls : List Call) : List (String × Value) :=
  calls.filterMap fun | .set field value => some (field, value) | _ => none

/-- All conditions that were added, in the order of the calls. -/
def restrictions (calls : List Call) : List Condition :=
  calls.flatMap fun | .filter conditions => conditions | _ => []

/-- The assignments that are left when some fields were set. -/
def assignAll (settings : List (String × Value)) : List (String × Value) :=
  settings.foldl (fun held a => assign a.1 a.2 held) []

/-- One more setting is assigned behind those before it. -/
theorem assignAll_concat (settings : List (String × Value)) (a : String × Value) :
    assignAll (settings ++ [a]) = assign a.1 a.2 (assignAll settings) :=
  List.foldl_concat ..

/-- Each sort of call has its own part of the UPDATE, so only the order within a sort matters. -/
theorem after_eq (calls : List Call) :
    after calls = ⟨lastTable? calls, assignAll (settings calls), restrictions calls⟩ := by
  induction calls using List.reverseRecOn with
  | nil => rfl
  | append_singleton calls call ih =>
    rw [after, List.foldl_concat]
    show Call.on (after calls) call = _
    rw [ih]
    cases call with
    | ofTable name => simp [Call.on, Update.ofTable, lastTable?, settings, restrictions]
    | set field value =>
      simp [Call.on, Update.set, lastTable?, settings, restrictions, assignAll_concat]
    | filter conditions => simp [Call.on, Update.filter, lastTable?, settings, restrictions]

/-! ## Assignments -/

/-- Assigning a field adds its name if it is new. -/
theorem names_assign (field : String) (value : Value) (held : List (String × Value)) :
    (assign field value held).map Prod.fst
      = if field ∈ held.map Prod.fst then held.map Prod.fst else held.map Prod.fst ++ [field] := by
  induction held with
  | nil => rfl
  | cons a held ih =>
    rw [assign]
    by_cases hfield : a.1 = field
    · simp [hfield]
    · have hmem : field ∈ (a :: held).map Prod.fst ↔ field ∈ held.map Prod.fst := by
        simp [Ne.symm hfield]
      rw [if_neg hfield, List.map_cons, ih]
      simp only [hmem]
      split
      · rfl
      · rfl

/-- The field that was assigned has the new value, and the others have theirs. -/
theorem lookup_assign (field other : String) (value : Value) (held : List (String × Value)) :
    (assign field value held).lookup other
      = if other = field then some value else held.lookup other := by
  induction held with
  | nil => exact lookup_cons_eq_ite other (field, value) []
  | cons a held ih =>
    rw [assign]
    by_cases hfield : a.1 = field
    · rw [if_pos hfield, lookup_cons_eq_ite, lookup_cons_eq_ite, hfield]
      split
      · rfl
      · rfl
    · rw [if_neg hfield, lookup_cons_eq_ite, lookup_cons_eq_ite, ih]
      -- The name in front and the one that is set differ, so the order of the questions is free.
      by_cases hother : other = a.1
      · simp [hother, hfield]
      · simp [hother]

/-- Every name that was set has one assignment, in the order in which the names were set first. -/
theorem names_assignAll (settings : List (String × Value)) :
    (assignAll settings).map Prod.fst = (settings.map Prod.fst).eraseDups := by
  induction settings using List.reverseRecOn with
  | nil => rfl
  | append_singleton settings a ih =>
    rw [assignAll_concat, names_assign, ih, List.map_append, List.map_singleton, eraseDups_concat]
    simp only [List.mem_eraseDups]

/-- A name has the value to which it was set last. -/
theorem lookup_assignAll (settings : List (String × Value)) (name : String) :
    (assignAll settings).lookup name = settings.reverse.lookup name := by
  induction settings using List.reverseRecOn with
  | nil => rfl
  | append_singleton settings a ih =>
    rw [assignAll_concat, lookup_assign, ih, List.reverse_concat, lookup_cons_eq_ite]

/-- Assignments to fields that come of settings. -/
structure Assigns (settings : List (String × Value)) (fields : List (type.Index × Value)) :
    Prop where
  /-- Every name that was set is that of one field, in the order in which the names were set
  first. -/
  names : fields.map (fun a => (type.field a.1).ident) = (settings.map Prod.fst).eraseDups
  /-- Every field has the value of the last setting of its name. -/
  values : ∀ a ∈ fields, ∃ before after,
    settings = before ++ ((type.field a.1).ident, a.2) :: after
      ∧ ∀ later ∈ after, later.1 ≠ (type.field a.1).ident

/-- Finding a name from behind is finding its last value. -/
theorem lookup_reverse_eq_some_iff {settings : List (String × Value)} {name : String}
    {value : Value} :
    settings.reverse.lookup name = some value
      ↔ ∃ before after, settings = before ++ (name, value) :: after
        ∧ ∀ later ∈ after, later.1 ≠ name := by
  have hlast (after : List (String × Value)) :
      (∀ later ∈ after.reverse, (name != later.1) = true) ↔ ∀ later ∈ after, later.1 ≠ name := by
    simp only [List.mem_reverse, bne_iff_ne, ne_comm]
  rw [List.lookup_eq_some_iff]
  constructor
  · rintro ⟨after, before, hsettings, hafter⟩
    rw [List.reverse_eq_iff, List.reverse_append, List.reverse_cons, List.append_assoc] at hsettings
    refine ⟨before.reverse, after.reverse, hsettings, (hlast _).1 ?_⟩
    rwa [List.reverse_reverse]
  · rintro ⟨before, after, rfl, hafter⟩
    refine ⟨after.reverse, before.reverse, ?_, (hlast after).2 hafter⟩
    rw [List.reverse_append, List.reverse_cons, List.append_assoc]
    rfl

/-- An assignment that is left is the last setting of its name. -/
theorem lookup_reverse_of_mem_assignAll {settings : List (String × Value)} {a : String × Value}
    (ha : a ∈ assignAll settings) : settings.reverse.lookup a.1 = some a.2 := by
  have hnodup : ((assignAll settings).map Prod.fst).Nodup := by
    rw [names_assignAll]
    exact nodup_eraseDups _
  rw [← lookup_assignAll]
  exact lookup_eq_of_mem hnodup ha

/-- There is only one way to assign what was set. -/
theorem Assigns.eq_assignAll {settings : List (String × Value)}
    {fields : List (type.Index × Value)} (h : Assigns settings fields) :
    fields.map (fun a => ((type.field a.1).ident, a.2)) = assignAll settings := by
  have hvalues : ∀ x ∈ fields.map (fun a => ((type.field a.1).ident, a.2)),
      settings.reverse.lookup x.1 = some x.2 := by
    intro x hx
    obtain ⟨a, ha, rfl⟩ := List.mem_map.1 hx
    exact lookup_reverse_eq_some_iff.2 (h.values a ha)
  apply eq_of_names_eq (fun name => settings.reverse.lookup name) ?_ hvalues
    fun a => lookup_reverse_of_mem_assignAll
  rw [names_assignAll, ← h.names, List.map_map]
  rfl

/-- What was set is assigned if all names are those of fields. -/
theorem exists_assigns {settings : List (String × Value)}
    (declared : ∀ a ∈ settings, ∃ i, (type.field i).ident = a.1) :
    ∃ fields : List (type.Index × Value), Assigns settings fields := by
  have hrange : assignAll settings ∈ Set.range (List.map
      fun a : type.Index × Value => ((type.field a.1).ident, a.2)) := by
    rw [Set.range_list_map]
    intro a ha
    have hname : a.1 ∈ (assignAll settings).map Prod.fst := List.mem_map_of_mem ha
    rw [names_assignAll, List.mem_eraseDups, List.mem_map] at hname
    obtain ⟨b, hb, hba⟩ := hname
    obtain ⟨i, hi⟩ := declared b hb
    exact ⟨(i, a.2), Prod.ext (hi.trans hba) rfl⟩
  obtain ⟨fields, hfields⟩ := hrange
  refine ⟨fields, ?_, fun a ha => ?_⟩
  · rw [← names_assignAll, ← hfields, List.map_map]
    rfl
  · apply lookup_reverse_eq_some_iff.1
    have hmem : ((type.field a.1).ident, a.2) ∈ assignAll settings := by
      rw [← hfields]
      exact List.mem_map_of_mem ha
    exact lookup_reverse_of_mem_assignAll hmem

/-- The columns of assigned fields are distinct. -/
theorem Assigns.nodup_columns {settings : List (String × Value)}
    {fields : List (type.Index × Value)} (h : Assigns settings fields) (t : Table type) :
    (fields.map fun a => t.column a.1).Nodup := by
  have hidents : (fields.map fun a => (type.field a.1).ident).Nodup := by
    rw [h.names]
    exact nodup_eraseDups _
  have hfields : (fields.map Prod.fst).Nodup := by
    apply List.Nodup.of_map fun i => (type.field i).ident
    rwa [List.map_map]
  have hcolumns := hfields.map t.column_injective
  rwa [List.map_map] at hcolumns

/-! ## The statement -/

/-- The text of a statement that changes some fields: each column with a placeholder, and behind
them what the conditions come to. -/
def text (t : Table type) (own : Option String) (fields : List (type.Index × Value))
    (clause : Statement) : String :=
  "UPDATE " ++ inBackticks (own.getD t.name) ++ " SET "
    ++ ", ".intercalate (fields.map fun a => inBackticks (t.column a.1) ++ " = ?") ++ clause.sql
    ++ ";"

/-- An assignment writes a column with a placeholder and binds its value. -/
theorem statement_renderAssignment (t : Table type) (a : type.Index × Value) :
    (renderAssignment t ((type.field a.1).ident, a.2)).statement
      = .ok ⟨inBackticks (t.column a.1) ++ " = ?", [a.2]⟩ := by
  have hfield : t.renderField (type.field a.1).ident = .name (t.column a.1) :=
    Table.renderField_eq_done_iff.2 ⟨a.1, rfl, rfl⟩
  have hleft := Rendering.statement_append (Rendering.statement_name (t.column a.1))
    (Rendering.statement_sql " = ")
  have hall := Rendering.statement_append hleft (Rendering.statement_bind a.2)
  rw [renderAssignment, hfield, hall, String.append_assoc]
  rfl

/-- A statement is written if its assignments are to fields and its conditions are in order. -/
theorem build_of_fields {t : Table type} (mode : DecodeMode) {s : Update}
    {fields : List (type.Index × Value)} {clause : Statement} (assigned : s.assignments ≠ [])
    (hfields : fields.map (fun a => ((type.field a.1).ident, a.2)) = s.assignments)
    (hwhere : (t.renderWhere s.conditions).statement = .ok clause) :
    s.build t mode = .ok ⟨text t s.table fields clause, fields.map Prod.snd ++ clause.args⟩ := by
  have hsome : s.assignments.isEmpty = false := by simpa using assigned
  have hset := Rendering.statement_separated ", " (statement_renderAssignment t) fields
  have hhead := Rendering.statement_append (Rendering.statement_append
    (Rendering.statement_sql "UPDATE ") (Rendering.statement_name (s.table.getD t.name)))
    (Rendering.statement_sql " SET ")
  have hall := Rendering.statement_append (Rendering.statement_append
    (Rendering.statement_append hhead hset) hwhere) (Rendering.statement_sql ";")
  have hmap : s.assignments.map (renderAssignment t)
      = fields.map fun a => renderAssignment t ((type.field a.1).ident, a.2) := by
    rw [← hfields, List.map_map]
    rfl
  rw [build, render, hsome, if_neg Bool.false_ne_true, Table.nameFor, hmap, hall]
  simp only [List.append_nil, List.nil_append, ← List.map_eq_flatMap]
  rfl

/-- What stops a statement with assignments is the first of their names that belongs to no field, or
else the first fault of the conditions. -/
theorem fault_render (t : Table type) {s : Update} (assigned : s.assignments ≠ []) :
    (s.render t).fault
      = ((s.assignments.map Prod.fst).findSome? fun name => (Expr.field name).topFault? type).or
        (t.renderWhere s.conditions).fault := by
  have hsome : s.assignments.isEmpty = false := by simpa using assigned
  have hassign (a : String × Value) :
      (renderAssignment t a).fault = (Expr.field a.1).topFault? type := by
    rw [renderAssignment, Rendering.fault_append, Rendering.fault_append, t.fault_renderField]
    simp [Rendering.sql, Rendering.bind, Rendering.piece]
  rw [render, hsome, if_neg Bool.false_ne_true]
  simp only [Rendering.fault_append, Rendering.fault_separated, List.findSome?_map,
    Function.comp_def, hassign]
  simp [Rendering.sql, Rendering.name, Rendering.piece]

/-! ## Outcomes -/

/-- What an UPDATE may come to after some calls. -/
inductive BuildsTo (t : Table type) (calls : List Call) : Except Fault Statement → Prop where
  /-- Nothing was set, whatever the conditions. -/
  | nothingSet (set : settings calls = []) : BuildsTo t calls (.error .emptySet)
  /-- A name that was set belongs to no field. The one that was set first is reported, whatever the
  conditions. -/
  | unknown (before : List (String × Value)) (name : String) (value : Value)
      (after : List (String × Value)) (set : settings calls = before ++ (name, value) :: after)
      (known : ∀ earlier ∈ before, ∃ i, (type.field i).ident = earlier.1)
      (unknown : ∀ i, (type.field i).ident ≠ name) :
      BuildsTo t calls (.error (.unknownField name))
  /-- All names that were set belong to fields, and a condition is refused. -/
  | refused (set : settings calls ≠ []) (fault : Fault)
      (known : ∀ a ∈ settings calls, ∃ i, (type.field i).ident = a.1)
      (conditions : (t.renderWhere (restrictions calls)).statement = .error fault) :
      BuildsTo t calls (.error fault)
  /-- All names that were set belong to fields, and the conditions are in order. -/
  | built (set : settings calls ≠ []) (fields : List (type.Index × Value)) (clause : Statement)
      (assigns : Assigns (settings calls) fields)
      (distinct : (fields.map fun a => t.column a.1).Nodup)
      (conditions : (t.renderWhere (restrictions calls)).statement = .ok clause) :
      BuildsTo t calls (.ok ⟨text t (lastTable? calls) fields clause,
        fields.map Prod.snd ++ clause.args⟩)

/-- Whatever was set, something is assigned. -/
theorem assignAll_ne_nil {settings : List (String × Value)} (h : settings ≠ []) :
    assignAll settings ≠ [] := by
  intro hnil
  have hnames := names_assignAll settings
  obtain ⟨a, ha⟩ := List.exists_mem_of_ne_nil settings h
  have hmem : a.1 ∈ (settings.map Prod.fst).eraseDups :=
    List.mem_eraseDups.2 (List.mem_map_of_mem ha)
  rw [← hnames, hnil] at hmem
  exact absurd hmem List.not_mem_nil

/-- What stops an UPDATE in which something was set. -/
theorem fault_render_after (t : Table type) {calls : List Call} (set : settings calls ≠ []) :
    ((after calls).render t).fault
      = ((settings calls).findSome? fun a => (Expr.field a.1).topFault? type).or
        (t.renderWhere (restrictions calls)).fault := by
  rw [after_eq, fault_render t (assignAll_ne_nil set), names_assignAll, findSome?_eraseDups,
    List.findSome?_map]
  rfl

/-- The outcome is what the statement is built to. -/
theorem BuildsTo.build_eq {t : Table type} {calls : List Call} {outcome : Except Fault Statement}
    (h : BuildsTo t calls outcome) (mode : DecodeMode) : (after calls).build t mode = outcome := by
  cases h with
  | nothingSet set =>
    rw [after_eq, set]
    rfl
  | unknown before name value after set known unknown =>
    have hsome : settings calls ≠ [] := by simp [set]
    rw [build, Rendering.statement_eq_error_iff, fault_render_after t hsome, set,
      List.findSome?_append, List.findSome?_cons]
    have hbefore : (before.findSome? fun a => (Expr.field a.1).topFault? type) = none := by
      rw [List.findSome?_eq_none_iff]
      intro earlier hearlier
      exact Expr.topFault?_eq_none_iff.2 (known earlier hearlier)
    have hname : (Expr.field name).topFault? type = some (.unknownField name) := by
      rw [Expr.topFault?, if_neg (not_exists.2 unknown)]
    rw [hbefore, hname]
    rfl
  | refused set fault known conditions =>
    have hknown : ((settings calls).findSome? fun a => (Expr.field a.1).topFault? type) = none := by
      rw [List.findSome?_eq_none_iff]
      intro a ha
      exact Expr.topFault?_eq_none_iff.2 (known a ha)
    rw [build, Rendering.statement_eq_error_iff, fault_render_after t set, hknown, Option.none_or]
    exact Rendering.statement_eq_error_iff.1 conditions
  | built set fields clause assigns distinct conditions =>
    rw [after_eq]
    exact build_of_fields mode (assignAll_ne_nil set) assigns.eq_assignAll conditions

/-- There is always an outcome. -/
theorem exists_buildsTo (t : Table type) (calls : List Call) :
    ∃ outcome, BuildsTo t calls outcome := by
  by_cases set : settings calls = []
  · exact ⟨_, .nothingSet set⟩
  · obtain known | ⟨before, a, after, hset, known, ha⟩ :=
      owned_or_first_unowned (fun i => (type.field i).ident) Prod.fst (settings calls)
    · cases hwhere : (t.renderWhere (restrictions calls)).statement with
      | error fault => exact ⟨_, .refused set fault known hwhere⟩
      | ok clause =>
        obtain ⟨fields, hfields⟩ := exists_assigns known
        exact ⟨_, .built set fields clause hfields (hfields.nodup_columns t) hwhere⟩
    · exact ⟨_, .unknown before a.1 a.2 after hset known ha⟩

/-- What an UPDATE is built to is an outcome. -/
theorem buildsTo_build (t : Table type) (mode : DecodeMode) (calls : List Call) :
    BuildsTo t calls ((after calls).build t mode) := by
  obtain ⟨outcome, houtcome⟩ := exists_buildsTo t calls
  rw [houtcome.build_eq]
  exact houtcome

/-- No condition is to blame for a missing assignment. -/
theorem statement_renderWhere_ne_emptySet (t : Table type) (conditions : List Condition) :
    (t.renderWhere conditions).statement ≠ .error .emptySet := by
  rw [Ne, Rendering.statement_eq_error_iff, t.fault_renderWhere]
  intro hfault
  obtain ⟨c, -, hc⟩ := List.exists_of_findSome?_eq_some hfault
  obtain ⟨_, node, _, -, -, hnode⟩ := Expr.head?_faults_eq_some_iff.1 hc
  cases node <;> simp [Expr.topFault?] at hnode

/-- An UPDATE comes to exactly one outcome after any calls, in either mode. It lacks assignments if
and only if no field was set. Otherwise the name that was set first among those of no field is at
fault, then the conditions are, and else the statement assigns to every field that was set, once and
in the order of the first settings, the value of the last, and has these values for arguments in
front of those of the conditions. -/
theorem build_after_calls (t : Table type) (mode : DecodeMode) (calls : List Call) :
    (∀ outcome, (after calls).build t mode = outcome ↔ BuildsTo t calls outcome)
      ∧ ((after calls).build t mode = .error .emptySet ↔ settings calls = []) := by
  constructor
  · intro outcome
    constructor
    · rintro rfl
      exact buildsTo_build t mode calls
    · exact fun h => h.build_eq mode
  · constructor
    · intro hempty
      have houtcome := buildsTo_build t mode calls
      rw [hempty] at houtcome
      cases houtcome with
      | nothingSet set => exact set
      | refused set fault known conditions =>
        exact absurd conditions (statement_renderWhere_ne_emptySet t _)
    · exact fun set => BuildsTo.build_eq (.nothingSet set) mode

/-- A title that is set again stays in front and becomes NULL. -/
example : (after [.set "title" (.text "first"), .set "weight" (.bool true), .ofTable "drafts",
      .set "title" .null]).build Table.note .safe
    = .ok ⟨"UPDATE \x60drafts\x60 SET \x60heading\x60 = ?, \x60weight\x60 = ?;",
      [.null, .bool true]⟩ := by
  rfl

end Update

end RecordSql
