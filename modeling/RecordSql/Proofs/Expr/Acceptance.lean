import RecordSql.Proofs.Expr.Contents

/-!
# Which expressions are accepted

A tree may be put together in any shape, so a node may name a field that does not exist, and an
operator may have too few or too many operands. `Expr.nodes` lists the nodes of a tree, each before
its operands and those on the left before those on the right. A tree is rendered if every node in
this list is well-formed by itself, and otherwise the fault is that of the first node that is not.
The conditions of a statement are looked through in their order.
-/

set_option autoImplicit false

namespace RecordSql

variable {type : RecordType}

namespace Expr

/-- The nodes of an expression, each before its operands, and the left operand before the right. -/
def nodes : Expr → List Expr
  | .field name => [.field name]
  | .literal value => [.literal value]
  | .aggregate function name => [.aggregate function name]
  | .unary op right => .unary op right :: right.nodes
  | .binary op left right => .binary op left right :: (left.nodes ++ right.nodes)

/-- The node at the top of an expression is well-formed: a field or an aggregate names a field of
the type, and an operator has a left operand unless it is `NOT`. -/
def TopWellFormed (type : RecordType) : Expr → Prop
  | .field name | .aggregate _ name => ∃ i, (type.field i).ident = name
  | .literal _ => True
  | .unary op _ => op = .not
  | .binary op _ _ => op ≠ .not

/-- The fault of the node at the top of an expression, if it has one. -/
def topFault? (type : RecordType) : Expr → Option Fault
  | .field name | .aggregate _ name =>
    if ∃ i, (type.field i).ident = name then none else some (.unknownField name)
  | .literal _ => none
  | .unary op _ =>
    if op = .not then none
    else some (.unsupportedExpression (op.symbol ++ " without a left operand"))
  | .binary op _ _ =>
    if op = .not then some (.unsupportedExpression "NOT takes a single operand") else none

/-- Every node of an expression is well-formed. -/
def WellFormed (type : RecordType) (e : Expr) : Prop := ∀ node ∈ e.nodes, node.TopWellFormed type

/-- The first node of an expression that is not well-formed has a fault. -/
def FirstFault (type : RecordType) (e : Expr) (fault : Fault) : Prop :=
  ∃ before node after, e.nodes = before ++ node :: after
    ∧ (∀ earlier ∈ before, earlier.TopWellFormed type) ∧ node.topFault? type = some fault

/-- The faults of the nodes of an expression, in their order. -/
def faults (type : RecordType) (e : Expr) : List Fault := e.nodes.filterMap (topFault? type)

/-- A node is well-formed at its top exactly if it has no fault there. -/
theorem topFault?_eq_none_iff {e : Expr} : e.topFault? type = none ↔ e.TopWellFormed type := by
  cases e with
  | literal value => exact iff_of_true rfl trivial
  | field name => simp [topFault?, TopWellFormed]
  | aggregate function name => simp [topFault?, TopWellFormed]
  | unary op right => simp [topFault?, TopWellFormed]
  | binary op left right => simp [topFault?, TopWellFormed]

/-- An expression without a fault at any node is well-formed. -/
theorem head?_faults_eq_none_iff {e : Expr} :
    (e.faults type).head? = none ↔ e.WellFormed type := by
  rw [faults, List.head?_filterMap, List.findSome?_eq_none_iff]
  exact forall₂_congr fun node _ => topFault?_eq_none_iff

/-- The first of the faults of an expression is that of the first node that has one. -/
theorem head?_faults_eq_some_iff {e : Expr} {fault : Fault} :
    (e.faults type).head? = some fault ↔ e.FirstFault type fault := by
  rw [faults, List.head?_filterMap, List.findSome?_eq_some_iff]
  constructor
  · rintro ⟨before, node, after, hnodes, hnode, hbefore⟩
    exact ⟨before, node, after, hnodes,
      fun earlier hmem => topFault?_eq_none_iff.1 (hbefore earlier hmem), hnode⟩
  · rintro ⟨before, node, after, hnodes, hbefore, hnode⟩
    exact ⟨before, node, after, hnodes, hnode,
      fun earlier hmem => topFault?_eq_none_iff.2 (hbefore earlier hmem)⟩

end Expr

/-! ## What stops a rendering -/

namespace Table

/-- What stops the look-up of a field is the fault of a node that names it. -/
theorem topFault?_field (t : Table type) (name : String) :
    (Expr.field name).topFault? type
      = match t.requireField name with
        | .ok _ => none
        | .error fault => some fault := by
  rw [Expr.topFault?]
  by_cases hname : ∃ i, (type.field i).ident = name
  · obtain ⟨i, hi⟩ := hname
    rw [if_pos ⟨i, hi⟩, requireField_eq_ok_iff.2 hi]
  · rw [if_neg hname, requireField_eq_error (not_exists.1 hname)]

/-- A field is at fault exactly if the type does not have it. -/
theorem fault_renderField (t : Table type) (name : String) :
    (t.renderField name).fault = (Expr.field name).topFault? type := by
  rw [topFault?_field, renderField]
  cases t.requireField name with
  | ok i => rfl
  | error fault => rfl

end Table

namespace Expr

/-- What stops the rendering of an expression is the first of its faults. -/
theorem fault_render (t : Table type) (e : Expr) (parent : Option Operator) :
    (e.render t parent).fault = (e.faults type).head? := by
  have hleaf (e : Expr) (h : e.nodes = [e]) : (e.faults type).head? = e.topFault? type := by
    rw [faults, h, List.head?_filterMap, List.findSome?_singleton]
  induction e generalizing parent with
  | field name => rw [hleaf _ rfl, render, t.fault_renderField]
  | literal value => rfl
  | aggregate function name =>
    rw [hleaf _ rfl]
    cases function with
    | none => exact t.fault_renderField name
    | some f =>
      show _ = (Expr.field name).topFault? type
      rw [render, t.topFault?_field]
      cases t.requireField name with
      | ok i => rfl
      | error fault => rfl
  | unary op right ih =>
    by_cases hop : op = .not
    · rw [render, if_pos hop, Rendering.fault_grouped, Rendering.fault_append, ih]
      simp [faults, nodes, topFault?, hop, Rendering.sql, Rendering.piece]
    · rw [render, if_neg hop]
      simp [faults, nodes, topFault?, hop, Rendering.fail, missingLeft]
  | binary op left right ihl ihr =>
    by_cases hop : op = .not
    · rw [render, if_pos hop]
      simp [faults, nodes, topFault?, hop, Rendering.fail, negationOfTwo]
    · rw [render, if_neg hop, Rendering.fault_grouped, Rendering.fault_append,
        Rendering.fault_append, ihl, ihr]
      simp [faults, nodes, topFault?, hop, Rendering.sql, Rendering.piece]

end Expr

/-- What stops the restriction of a statement is the first fault of its conditions, in order. -/
theorem Table.fault_renderWhere (t : Table type) (conditions : List Condition) :
    (t.renderWhere conditions).fault
      = conditions.findSome? fun c => (c.expr.faults type).head? := by
  rw [renderWhere, ← List.head?_flatMap]
  cases hall : Condition.conjunction conditions with
  | none =>
    cases conditions with
    | cons c cs => cases hall
    | nil => rfl
  | some all =>
    have hfaults : all.expr.faults type = conditions.flatMap fun c => c.expr.faults type :=
      Condition.flatMap_of_conjunction
        (fun a b => by simp [Expr.faults, Expr.nodes, Expr.topFault?]) hall
    rw [← hfaults, ← Expr.fault_render t all.expr none]
    simp [Rendering.fault_append, Rendering.sql, Rendering.piece, Expr.compile]

/-! ## Acceptance -/

/-- An expression is rendered exactly if all its nodes are well-formed, and what it is refused with
is the fault of the first node that is not. Conditions are rendered exactly if all of them are
well-formed, and what they are refused with is the first fault of the first that is not. -/
theorem Table.accepts_well_formed (t : Table type) :
    (∀ e : Expr,
      ((∃ stmt, (e.compile t).statement = .ok stmt) ↔ e.WellFormed type)
        ∧ ∀ fault, (e.compile t).statement = .error fault ↔ e.FirstFault type fault)
      ∧ ∀ conditions : List Condition,
        ((∃ stmt, (t.renderWhere conditions).statement = .ok stmt)
            ↔ ∀ c ∈ conditions, c.expr.WellFormed type)
          ∧ ∀ fault, (t.renderWhere conditions).statement = .error fault
            ↔ ∃ before c after, conditions = before ++ c :: after
              ∧ (∀ earlier ∈ before, earlier.expr.WellFormed type)
              ∧ c.expr.FirstFault type fault := by
  refine ⟨fun e => ⟨?_, fun fault => ?_⟩, fun conditions => ⟨?_, fun fault => ?_⟩⟩
  · rw [Rendering.exists_statement_iff, Expr.compile, Expr.fault_render,
      Expr.head?_faults_eq_none_iff]
  · rw [Rendering.statement_eq_error_iff, Expr.compile, Expr.fault_render,
      Expr.head?_faults_eq_some_iff]
  · rw [Rendering.exists_statement_iff, fault_renderWhere, List.findSome?_eq_none_iff]
    exact forall₂_congr fun c _ => Expr.head?_faults_eq_none_iff
  · rw [Rendering.statement_eq_error_iff, fault_renderWhere, List.findSome?_eq_some_iff]
    constructor
    · rintro ⟨before, c, after, hconditions, hc, hbefore⟩
      exact ⟨before, c, after, hconditions,
        fun earlier hmem => Expr.head?_faults_eq_none_iff.1 (hbefore earlier hmem),
        Expr.head?_faults_eq_some_iff.1 hc⟩
    · rintro ⟨before, c, after, hconditions, hbefore, hc⟩
      exact ⟨before, c, after, hconditions, Expr.head?_faults_eq_some_iff.2 hc,
        fun earlier hmem => Expr.head?_faults_eq_none_iff.2 (hbefore earlier hmem)⟩

/-- A negation of two operands is refused before the unknown field in the first of them. -/
example : ((Expr.binary .not (.field "gone") (.unary .or (.field "id"))).compile
    Table.note).statement = .error (.unsupportedExpression "NOT takes a single operand") :=
  rfl

end RecordSql
