import RecordSql.Expr.Rendering
import RecordSql.Proofs.Rendering
import Mathlib.Data.List.Induction

/-!
# How chains are grouped

Chains of `AND` and chains of `OR` render alike however they are associated, wherever in an
expression they stand. A chain of one operator never puts parentheses around a part of itself, as an
operand of the operator is rendered under that very operator.

Conditions that are joined by `AND` in their order, whatever the association, are one chain, and so
are those of a list that is folded. It is therefore all the same whether a condition of a list is
given as one or as some conditions that it joins.
-/

set_option autoImplicit false

namespace RecordSql

variable {type : RecordType}

namespace Expr

/-- The expressions are the same up to the association of chains of `AND` and chains of `OR`. A
chain may begin with an operator that lacks its left operand. -/
inductive Regroups : Expr → Expr → Prop where
  /-- A chain of three operands. -/
  | rotate (op : Operator) (a b c : Expr) (chains : op = .and ∨ op = .or) :
      Regroups (.binary op (.binary op a b) c) (.binary op a (.binary op b c))
  /-- A chain of two operands that lacks the first. -/
  | rotateHeadless (op : Operator) (b c : Expr) (chains : op = .and ∨ op = .or) :
      Regroups (.binary op (.unary op b) c) (.unary op (.binary op b c))
  /-- Under an operator with one operand. -/
  | unary (op : Operator) {a b : Expr} (operand : Regroups a b) :
      Regroups (.unary op a) (.unary op b)
  /-- Under an operator with two operands. -/
  | binary (op : Operator) {a b c d : Expr} (left : Regroups a b) (right : Regroups c d) :
      Regroups (.binary op a c) (.binary op b d)
  /-- Nothing is done. -/
  | refl (a : Expr) : Regroups a a
  /-- Backwards. -/
  | symm {a b : Expr} (h : Regroups a b) : Regroups b a
  /-- One after another. -/
  | trans {a b c : Expr} (first : Regroups a b) (second : Regroups b c) : Regroups a c

/-- An operand of a chain that goes on with the same operator is not put in parentheses. -/
theorem render_same (t : Table type) {op : Operator} (chains : op = .and ∨ op = .or) (a b : Expr) :
    render t (some op) (.binary op a b)
      = render t (some op) a ++ .sql op.sql ++ render t (some op) b := by
  obtain rfl | rfl := chains <;> rfl

/-- A chain is rendered the same whichever way it is associated, under any operator. -/
theorem render_rotate (t : Table type) (parent : Option Operator) {op : Operator}
    (chains : op = .and ∨ op = .or) (a b c : Expr) :
    render t parent (.binary op (.binary op a b) c)
      = render t parent (.binary op a (.binary op b c)) := by
  have hflat : render t (some op) (.binary op a b) ++ .sql op.sql ++ render t (some op) c
      = render t (some op) a ++ .sql op.sql ++ render t (some op) (.binary op b c) := by
    rw [render_same t chains, render_same t chains]
    simp only [Rendering.append_assoc]
  rw [render.eq_def t parent (.binary op (.binary op a b) c),
    render.eq_def t parent (.binary op a (.binary op b c))]
  simp only [hflat]

/-- An operator that lacks its left operand stops the chain that it begins. -/
theorem outcome_render_headless (t : Table type) (parent : Option Operator) {op : Operator}
    (chains : op = .and ∨ op = .or) (b c : Expr) :
    (render t parent (.binary op (.unary op b) c)).outcome = .error (missingLeft op) := by
  have hop : op ≠ .not := by
    rintro rfl
    simp at chains
  rw [render, if_neg hop, render, if_neg hop]
  cases (op.isComparison || groupsLogical parent op) <;> rfl

/-- Expressions that are the same up to association come to the same under every operator. -/
theorem Regroups.outcome_render (t : Table type) {e e' : Expr} (h : Regroups e e')
    (parent : Option Operator) : (e.render t parent).outcome = (e'.render t parent).outcome := by
  induction h generalizing parent with
  | rotate op a b c chains => rw [render_rotate t parent chains]
  | rotateHeadless op b c chains =>
    rw [outcome_render_headless t parent chains]
    obtain rfl | rfl := chains <;> rfl
  | unary op _ ih =>
    rw [render, render]
    split
    · apply Rendering.outcome_grouped_congr
      exact Rendering.outcome_append_congr rfl (ih (some op))
    · rfl
  | binary op _ _ ihleft ihright =>
    rw [render, render]
    split
    · rfl
    · apply Rendering.outcome_grouped_congr
      have hleft := Rendering.outcome_append_congr (b := .sql op.sql) (ihleft (some op)) rfl
      exact Rendering.outcome_append_congr hleft (ihright (some op))
  | refl => rfl
  | symm _ ih => exact (ih parent).symm
  | trans _ _ ih ih' => exact (ih parent).trans (ih' parent)

end Expr

namespace Condition

/-- A condition joins others by `AND` in their order, with any association. -/
inductive Joins : List Condition → Condition → Prop where
  /-- One condition by itself. -/
  | one (c : Condition) : Joins [c] c
  /-- Some conditions, and those next to them. -/
  | and {cs ds : List Condition} {c d : Condition} (left : Joins cs c) (right : Joins ds d) :
      Joins (cs ++ ds) (c.and d)

/-- A fold begins anywhere. -/
theorem regroups_foldl (a b : Condition) (cs : List Condition) :
    (a.and (cs.foldl and b)).expr.Regroups (cs.foldl and (a.and b)).expr := by
  induction cs using List.reverseRecOn with
  | nil => exact .refl _
  | append_singleton cs c ih =>
    rw [List.foldl_concat, List.foldl_concat]
    have hrotate : (a.and ((cs.foldl and b).and c)).expr.Regroups
        ((a.and (cs.foldl and b)).and c).expr :=
      (Expr.Regroups.rotate .and a.expr (cs.foldl and b).expr c.expr (.inl rfl)).symm
    exact hrotate.trans (.binary .and ih (.refl c.expr))

/-- The conjunction of two lists regroups into that of their conjunctions. -/
theorem exists_conjunction_append {cs ds : List Condition} {c d : Condition}
    (hc : conjunction cs = some c) (hd : conjunction ds = some d) :
    ∃ all, conjunction (cs ++ ds) = some all ∧ (c.and d).expr.Regroups all.expr := by
  cases cs with
  | nil => cases hc
  | cons first cs =>
    cases ds with
    | nil => cases hd
    | cons second ds =>
      cases hc
      cases hd
      have hall : conjunction (first :: cs ++ second :: ds)
          = some (ds.foldl and ((cs.foldl and first).and second)) := by
        rw [List.cons_append, conjunction, List.foldl_append, List.foldl_cons]
      exact ⟨_, hall, regroups_foldl (cs.foldl and first) second ds⟩

/-- Conditions that are joined are those of the list up to association. -/
theorem Joins.exists_conjunction {cs : List Condition} {c : Condition} (h : Joins cs c) :
    ∃ all, conjunction cs = some all ∧ c.expr.Regroups all.expr := by
  induction h with
  | one c => exact ⟨c, rfl, .refl _⟩
  | and _ _ ihleft ihright =>
    obtain ⟨left, hleft, hc⟩ := ihleft
    obtain ⟨right, hright, hd⟩ := ihright
    obtain ⟨all, hall, hregroups⟩ := exists_conjunction_append hleft hright
    exact ⟨all, hall, .trans (.binary .and hc hd) hregroups⟩

/-- A fold over conditions joins all that they join. -/
theorem Joins.foldl {groups : List (List Condition)} {ds cs : List Condition} {c : Condition}
    (hfirst : Joins cs c) (h : List.Forall₂ Joins groups ds) :
    Joins (cs ++ groups.flatten) (ds.foldl Condition.and c) := by
  induction h generalizing cs c with
  | nil =>
    rw [List.flatten_nil, List.append_nil]
    exact hfirst
  | cons hgroup _ ih =>
    rw [List.flatten_cons, ← List.append_assoc]
    exact ih (hfirst.and hgroup)

end Condition

/-- Conditions restrict a statement as those do that they join. -/
theorem Table.outcome_renderWhere_flatten (t : Table type) {groups : List (List Condition)}
    {ds : List Condition} (h : List.Forall₂ Condition.Joins groups ds) :
    (t.renderWhere ds).outcome = (t.renderWhere groups.flatten).outcome := by
  cases h with
  | nil => rfl
  | @cons group d groups ds hgroup hgroups =>
    obtain ⟨all, hall, hregroups⟩ := (hgroup.foldl hgroups).exists_conjunction
    rw [renderWhere, renderWhere, List.flatten_cons, hall]
    exact Rendering.outcome_append_congr rfl (hregroups.outcome_render t none)

end RecordSql
