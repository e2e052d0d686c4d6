import RecordSql.Proofs.Expr.Regrouping
import RecordSql.Statement.Kind
import RecordSql.Proofs.Schema.Table

/-!
# Conditions in parts

The conditions of a statement may be given in one call or in many, and some that come next to each
other may be joined before they are given. The statement is the same, or it fails in the same way,
as what comes of its conditions does not depend on how they are grouped.
-/

set_option autoImplicit false

namespace RecordSql

variable {type : RecordType}

/-- Calls that give conditions in their order, each call some of them, of which neighbours may be
joined. -/
def Distributes (cs : List Condition) (calls : List (List Condition)) : Prop :=
  ∃ groups : List (List Condition), groups.flatten = cs
    ∧ List.Forall₂ Condition.Joins groups calls.flatten

/-- Conditions may be given in one call, none of them joined. -/
theorem distributes_singleton (cs : List Condition) : Distributes cs [cs] := by
  have hgroups : ∃ groups : List (List Condition), groups.flatten = cs
      ∧ List.Forall₂ Condition.Joins groups cs := by
    induction cs with
    | nil => exact ⟨[], rfl, .nil⟩
    | cons c cs ih =>
      obtain ⟨groups, hflatten, hjoins⟩ := ih
      exact ⟨[c] :: groups, congrArg (c :: ·) hflatten, .cons (.one c) hjoins⟩
  rw [Distributes, List.flatten_singleton]
  exact hgroups

/-- Calls that give some conditions and then calls that give others give both. -/
theorem Distributes.append {cs ds : List Condition} {calls others : List (List Condition)}
    (h : Distributes cs calls) (h' : Distributes ds others) :
    Distributes (cs ++ ds) (calls ++ others) := by
  obtain ⟨groups, rfl, hgroups⟩ := h
  obtain ⟨more, rfl, hmore⟩ := h'
  refine ⟨groups ++ more, List.flatten_append, ?_⟩
  rw [List.flatten_append]
  exact List.rel_append hgroups hmore

/-- Whatever conditions were given before, those that are given in parts restrict a statement as
those given at once. -/
theorem Distributes.outcome_renderWhere {cs : List Condition} {calls : List (List Condition)}
    (h : Distributes cs calls) (t : Table type) (given : List Condition) :
    (t.renderWhere (given ++ calls.flatten)).outcome = (t.renderWhere (given ++ cs)).outcome := by
  obtain ⟨groups, hflatten, hgroups⟩ := (distributes_singleton given).append h
  rw [List.singleton_append, List.flatten_cons] at hgroups
  rw [← hflatten]
  exact t.outcome_renderWhere_flatten hgroups

/-- What is given call by call is given at once, if nothing is given by a call without conditions
and two calls give what one gives with the conditions of both. -/
theorem foldl_eq_flatten {σ : Type} {give : σ → List Condition → σ} (hnil : ∀ s, give s [] = s)
    (happend : ∀ s cs ds, give (give s cs) ds = give s (cs ++ ds)) (s : σ)
    (calls : List (List Condition)) : calls.foldl give s = give s calls.flatten := by
  induction calls generalizing s with
  | nil => exact (hnil s).symm
  | cons cs calls ih => rw [List.foldl_cons, ih, happend, List.flatten_cons]

namespace Select

/-- Restricting a SELECT call by call is restricting it at once. -/
theorem foldl_filter (s : Select) (calls : List (List Condition)) :
    calls.foldl filter s = s.filter calls.flatten := by
  apply foldl_eq_flatten
  · intro s
    simp [filter]
  · intro s cs ds
    simp [filter]

/-- A SELECT depends on its conditions only by what becomes of them. -/
theorem build_congr {t : Table type} {mode : DecodeMode} {s : Select} {cs ds : List Condition}
    (h : (t.renderWhere (s.conditions ++ cs)).outcome
      = (t.renderWhere (s.conditions ++ ds)).outcome) :
    (s.filter cs).build t mode = (s.filter ds).build t mode := by
  exact Rendering.statement_append_congr h _ (.sql ";")

end Select

namespace Update

/-- Restricting an UPDATE call by call is restricting it at once. -/
theorem foldl_filter (s : Update) (calls : List (List Condition)) :
    calls.foldl filter s = s.filter calls.flatten := by
  apply foldl_eq_flatten
  · intro s
    simp [filter]
  · intro s cs ds
    simp [filter]

/-- An UPDATE depends on its conditions only by what becomes of them. -/
theorem build_congr {t : Table type} {mode : DecodeMode} {s : Update} {cs ds : List Condition}
    (h : (t.renderWhere (s.conditions ++ cs)).outcome
      = (t.renderWhere (s.conditions ++ ds)).outcome) :
    (s.filter cs).build t mode = (s.filter ds).build t mode := by
  unfold build render filter
  cases s.assignments.isEmpty with
  | true => rfl
  | false => exact Rendering.statement_append_congr h _ (.sql ";")

end Update

namespace Delete

/-- Restricting a DELETE call by call is restricting it at once. -/
theorem foldl_filter (s : Delete) (calls : List (List Condition)) :
    calls.foldl filter s = s.filter calls.flatten := by
  apply foldl_eq_flatten
  · intro s
    simp [filter]
  · intro s cs ds
    simp [filter]

/-- A DELETE depends on its conditions only by what becomes of them. -/
theorem build_congr {t : Table type} {mode : DecodeMode} {s : Delete} {cs ds : List Condition}
    (h : (t.renderWhere (s.conditions ++ cs)).outcome
      = (t.renderWhere (s.conditions ++ ds)).outcome) :
    (s.filter cs).build t mode = (s.filter ds).build t mode := by
  exact Rendering.statement_append_congr h _ (.sql ";")

end Delete

/-- Statements do not depend on how conditions are grouped: neither on how the chains in an
expression are associated, nor on how conditions are given in parts. -/
theorem Table.statements_regrouped (t : Table type) (mode : DecodeMode) :
    (∀ e e' : Expr, e.Regroups e' → (e.compile t).statement = (e'.compile t).statement)
      ∧ ∀ cs calls, Distributes cs calls →
        (∀ s : Select, (calls.foldl .filter s).build t mode = (s.filter cs).build t mode)
          ∧ (∀ s : Update, (calls.foldl .filter s).build t mode = (s.filter cs).build t mode)
          ∧ ∀ s : Delete, (calls.foldl .filter s).build t mode = (s.filter cs).build t mode := by
  constructor
  · intro e e' h
    rw [Rendering.statement_eq_map_outcome, Rendering.statement_eq_map_outcome, Expr.compile,
      Expr.compile, h.outcome_render t none]
  · intro cs calls h
    refine ⟨fun s => ?_, fun s => ?_, fun s => ?_⟩
    · rw [s.foldl_filter]
      exact Select.build_congr (h.outcome_renderWhere t s.conditions)
    · rw [s.foldl_filter]
      exact Update.build_congr (h.outcome_renderWhere t s.conditions)
    · rw [s.foldl_filter]
      exact Delete.build_congr (h.outcome_renderWhere t s.conditions)

/-- Three conditions at once, and in three calls of which one gives nothing and one joins two. -/
theorem Table.statements_regrouped_note :
    let a := Condition.compare .eq "title" (.text "draft")
    let b := (Condition.compare .eq "id" .null).or (Condition.compare .eq "weight" .null)
    let c := (Condition.compare .eq "title" .null).not
    ((a.and b).and c).not.expr.Regroups (a.and (b.and c)).not.expr
      ∧ (((a.and b).and c).not.expr.compile Table.note).statement
        = ((a.and (b.and c)).not.expr.compile Table.note).statement
      ∧ Distributes [a, b, c] [[a], [], [b.and c]]
      ∧ ([[a], [], [b.and c]].foldl Select.filter Select.empty).build Table.note .safe
        = (Select.empty.filter [a, b, c]).build Table.note .safe := by
  intro a b c
  have hregroups : ((a.and b).and c).not.expr.Regroups (a.and (b.and c)).not.expr :=
    .unary .not (.rotate .and a.expr b.expr c.expr (.inl rfl))
  have hdistributes : Distributes [a, b, c] [[a], [], [b.and c]] :=
    ⟨[[a], [b, c]], rfl, .cons (.one a) (.cons (.and (.one b) (.one c)) .nil)⟩
  obtain ⟨hchains, hparts⟩ := Table.note.statements_regrouped .safe
  exact ⟨hregroups, hchains _ _ hregroups, hdistributes, (hparts _ _ hdistributes).1 Select.empty⟩

end RecordSql
