import RecordSql.Proofs.Fault
import RecordSql.Statement.Kind

/-!
# Faults of registration and of building

Whatever keeps a record type from being registered or a statement from being built is a fault of
construction. Renderings are gone through in the way in which they are put together: a rendering
stops with a fault of one of its steps, and every step that stops by itself does so with such a
fault.
-/

set_option autoImplicit false

namespace RecordSql

variable {type : RecordType}

/-! ## Registration -/

/-- A tag is refused with a fault of construction. -/
theorem Tag.failsOnly_parse (tag : String) : FailsOnly Fault.Early (parse tag) := by
  apply FailsOnly.mapM
  intro piece
  unfold setting
  split
  · exact .ok _
  · exact .error rfl

/-- The column of a field is refused with a fault of construction. -/
theorem FieldDecl.failsOnly_column (decl : FieldDecl) : FailsOnly Fault.Early decl.column := by
  unfold column
  cases decl.tag with
  | none =>
    simp only [pure_bind]
    split <;> exact .ok _
  | some tag =>
    apply (Tag.failsOnly_parse tag).bind
    intro settings _
    dsimp only
    split <;> exact .ok _

namespace ColumnIndex

/-- A field is refused with a fault of construction. -/
theorem failsOnly_add (x : ColumnIndex type) (i : type.Index) :
    FailsOnly Fault.Early (x.add i) := by
  unfold add
  have hcolumn := (type.field i).failsOnly_column
  split
  · rename_i fault hfault
    exact .error (hcolumn fault hfault)
  · dsimp only
    split
    · exact .error rfl
    · split
      · exact .error rfl
      · exact .ok _

/-- The fields of a type are refused with a fault of construction. -/
theorem failsOnly_ofFields (type : RecordType) : FailsOnly Fault.Early (ofFields type) :=
  .foldlM failsOnly_add type.indices empty

end ColumnIndex

namespace Table

/-- A record type is refused with a fault of construction. -/
theorem failsOnly_ofType (type : RecordType) : FailsOnly Fault.Early (ofType type) := by
  unfold ofType
  split
  · exact .error rfl
  · have hfields := ColumnIndex.failsOnly_ofFields type
    split
    · rename_i fault hfault
      exact .error (hfields fault hfault)
    · exact .ok _

/-- A name that no field has is a fault of construction. -/
theorem failsOnly_requireField (t : Table type) (name : String) :
    FailsOnly Fault.Early (t.requireField name) := by
  unfold requireField
  split
  · exact .ok _
  · exact .error rfl

/-- A field is read, or its name is a fault of construction. -/
theorem failsOnly_readField (t : Table type) (mode : DecodeMode) (record : Record type)
    (name : String) : FailsOnly Fault.Early (t.readField mode record name) := by
  unfold readField
  have hfield := t.failsOnly_requireField name
  split
  · rename_i fault hfault
    exact .error (hfield fault hfault)
  · split
    · exact .ok _
    · exact .ok _

end Table

/-! ## Renderings -/

namespace Rendering

/-- A rendering that stops only with faults of construction. -/
def StopsEarly (r : Rendering) : Prop := ∀ fault ∈ r.fault, fault.Early

/-- A piece does not stop. -/
theorem stopsEarly_piece (p : Piece) : (piece p).StopsEarly := by
  intro fault h
  cases h

/-- Nothing does not stop. -/
theorem stopsEarly_empty : empty.StopsEarly := by
  intro fault h
  cases h

/-- A step that fails stops with its fault. -/
theorem stopsEarly_fail {fault : Fault} (h : fault.Early) : (fail fault).StopsEarly := by
  intro found hfound
  cases hfound
  exact h

/-- Of two steps one stops early if either does. -/
theorem StopsEarly.append {a b : Rendering} (ha : a.StopsEarly) (hb : b.StopsEarly) :
    (a ++ b).StopsEarly := by
  obtain ⟨draft, fault⟩ := a
  cases fault with
  | none => exact hb
  | some fault => exact ha

/-- Parentheses do not stop. -/
theorem StopsEarly.grouped {r : Rendering} (h : r.StopsEarly) (inGroup : Bool) :
    (Rendering.grouped inGroup r).StopsEarly := by
  unfold Rendering.grouped
  split
  · exact ((stopsEarly_piece _).append h).append (stopsEarly_piece _)
  · exact h

/-- Steps with a text between them stop as one of them does. -/
theorem stopsEarly_separated {α : Type} (separator : String) {f : α → Rendering}
    (h : ∀ x, (f x).StopsEarly) (items : List α) :
    (separated separator (items.map f)).StopsEarly := by
  cases items with
  | nil => exact stopsEarly_empty
  | cons x items =>
    have hfold (first : Rendering) (hfirst : first.StopsEarly) : StopsEarly
        ((items.map f).foldl (fun done next => done ++ sql separator ++ next) first) := by
      induction items generalizing first with
      | nil => exact hfirst
      | cons y items ih => exact ih _ ((hfirst.append (stopsEarly_piece _)).append (h y))
    exact hfold (f x) (h x)

/-- A rendering that stops early leaves a fault of construction. -/
theorem StopsEarly.failsOnly_statement {r : Rendering} (h : r.StopsEarly) :
    FailsOnly Fault.Early r.statement := by
  unfold statement
  cases hfault : r.fault with
  | none => exact .ok _
  | some fault => exact .error (h fault hfault)

end Rendering

/-! ## Building -/

/-- What is rendered of a field stops with a fault of construction, if at all. -/
theorem Table.stopsEarly_renderField (t : Table type) (name : String) :
    (t.renderField name).StopsEarly := by
  unfold renderField
  have hfield := t.failsOnly_requireField name
  split
  · exact Rendering.stopsEarly_piece _
  · rename_i fault hfault
    exact Rendering.stopsEarly_fail (hfield fault hfault)

namespace Expr

open Rendering

/-- What is rendered of an expression stops with a fault of construction, if at all. -/
theorem stopsEarly_render (t : Table type) (e : Expr) (parent : Option Operator) :
    (e.render t parent).StopsEarly := by
  induction e generalizing parent with
  | field name => exact t.stopsEarly_renderField name
  | literal value => exact stopsEarly_piece _
  | aggregate function name =>
    cases function with
    | none => exact t.stopsEarly_renderField name
    | some f =>
      unfold render
      have hfield := t.failsOnly_requireField name
      split
      · exact (((stopsEarly_piece _).append (stopsEarly_piece _)).append
          (stopsEarly_piece _)).append (stopsEarly_piece _)
      · rename_i fault hfault
        exact stopsEarly_fail (hfield fault hfault)
  | unary op right ih =>
    unfold render
    split
    · exact ((stopsEarly_piece _).append (ih (some op))).grouped _
    · exact stopsEarly_fail rfl
  | binary op left right ihl ihr =>
    unfold render
    split
    · exact stopsEarly_fail rfl
    · exact (((ihl (some op)).append (stopsEarly_piece _)).append (ihr (some op))).grouped _

/-- What is rendered of a projected column stops with a fault of construction, if at all. -/
theorem stopsEarly_renderProjection (t : Table type) (e : Expr) :
    (e.renderProjection t).StopsEarly := by
  cases e with
  | field name => exact (field name).stopsEarly_render t none
  | aggregate function name => exact (aggregate function name).stopsEarly_render t none
  | _ => exact stopsEarly_fail rfl

end Expr

/-- What is rendered of conditions stops with a fault of construction, if at all. -/
theorem Table.stopsEarly_renderWhere (t : Table type) (conditions : List Condition) :
    (t.renderWhere conditions).StopsEarly := by
  unfold renderWhere
  split
  · exact Rendering.stopsEarly_empty
  · exact (Rendering.stopsEarly_piece _).append (Expr.stopsEarly_render t _ none)

open Rendering

/-- What is rendered of a SELECT stops with a fault of construction, if at all. -/
theorem Select.stopsEarly_render (t : Table type) (s : Select) : (s.render t).StopsEarly := by
  have hcolumns : (s.renderColumns t).StopsEarly := by
    unfold renderColumns
    split
    · exact stopsEarly_separated _ (fun _ => stopsEarly_piece _) _
    · exact stopsEarly_separated _ (Expr.stopsEarly_renderProjection t) _
  unfold render
  exact (((((stopsEarly_piece _).append hcolumns).append (stopsEarly_piece _)).append
    (stopsEarly_piece _)).append (t.stopsEarly_renderWhere _)).append (stopsEarly_piece _)

namespace Insert

/-- The fields of an INSERT are refused with a fault of construction. -/
theorem failsOnly_targets (t : Table type) (s : Insert type) :
    FailsOnly Fault.Early (s.targets t) := by
  unfold Insert.targets
  split
  · exact .ok _
  · exact .mapM t.failsOnly_requireField s.fields

/-- What is rendered of a field of a record stops with a fault of construction, if at all. -/
theorem stopsEarly_renderValue (t : Table type) (mode : DecodeMode) (record : Record type)
    (i : type.Index) : (renderValue t mode record i).StopsEarly := by
  unfold renderValue
  have hread := t.failsOnly_readField mode record (type.field i).ident
  split
  · exact stopsEarly_piece _
  · rename_i fault hfault
    exact stopsEarly_fail (hread fault hfault)

/-- What is rendered of the rows stops with a fault of construction, if at all. -/
theorem stopsEarly_renderRows (t : Table type) (mode : DecodeMode) (s : Insert type)
    (targets : List type.Index) : (s.renderRows t mode targets).StopsEarly := by
  have hcolumns : (separated ", " (targets.map fun i => name (t.column i))).StopsEarly :=
    stopsEarly_separated _ (fun _ => stopsEarly_piece _) _
  have hrow (record : Record type) : (renderRow t mode targets record).StopsEarly := by
    unfold renderRow
    exact ((stopsEarly_piece _).append
      (stopsEarly_separated _ (stopsEarly_renderValue t mode record) _)).append (stopsEarly_piece _)
  have hrows : (separated ", " (s.records.map (renderRow t mode targets))).StopsEarly :=
    stopsEarly_separated _ hrow _
  unfold renderRows
  exact ((((((stopsEarly_piece _).append (stopsEarly_piece _)).append
    (stopsEarly_piece _)).append hcolumns).append (stopsEarly_piece _)).append hrows).append
      (stopsEarly_piece _)

/-- What is rendered of an INSERT stops with a fault of construction, if at all. -/
theorem stopsEarly_render (t : Table type) (mode : DecodeMode) (s : Insert type) :
    (s.render t mode).StopsEarly := by
  have htargets := s.failsOnly_targets t
  unfold render
  split
  · exact stopsEarly_fail rfl
  · split
    · rename_i fault hfault
      exact stopsEarly_fail (htargets fault hfault)
    · split
      · exact stopsEarly_fail rfl
      · exact s.stopsEarly_renderRows t mode _

end Insert

/-- What is rendered of an UPDATE stops with a fault of construction, if at all. -/
theorem Update.stopsEarly_render (t : Table type) (s : Update) : (s.render t).StopsEarly := by
  have hassignment (a : String × Value) : (renderAssignment t a).StopsEarly :=
    ((t.stopsEarly_renderField a.1).append (stopsEarly_piece _)).append (stopsEarly_piece _)
  unfold render
  split
  · exact stopsEarly_fail rfl
  · exact (((((stopsEarly_piece _).append (stopsEarly_piece _)).append
      (stopsEarly_piece _)).append (stopsEarly_separated _ hassignment _)).append
        (t.stopsEarly_renderWhere _)).append (stopsEarly_piece _)

/-- What is rendered of a DELETE stops with a fault of construction, if at all. -/
theorem Delete.stopsEarly_render (t : Table type) (s : Delete) : (s.render t).StopsEarly := by
  unfold render
  exact (((stopsEarly_piece _).append (stopsEarly_piece _)).append
    (t.stopsEarly_renderWhere _)).append (stopsEarly_piece _)

/-- A query is refused with a fault of construction. -/
theorem Query.failsOnly_build (t : Table type) (mode : DecodeMode) (q : Query) :
    FailsOnly Fault.Early (q.build t mode) := by
  cases q with
  | select s => exact (s.stopsEarly_render t).failsOnly_statement
  | raw s =>
    show FailsOnly Fault.Early s.build
    unfold Raw.build
    split
    · exact .error rfl
    · exact .ok _

/-- A command is refused with a fault of construction. -/
theorem Command.failsOnly_build (t : Table type) (mode : DecodeMode) (c : Command type) :
    FailsOnly Fault.Early (c.build t mode) := by
  cases c with
  | insert s => exact (s.stopsEarly_render t mode).failsOnly_statement
  | update s => exact (s.stopsEarly_render t).failsOnly_statement
  | delete s => exact (s.stopsEarly_render t).failsOnly_statement

end RecordSql
