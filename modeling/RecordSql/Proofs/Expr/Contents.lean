import RecordSql.Proofs.Rendering
import RecordSql.Proofs.Schema.Table
import RecordSql.Expr.Rendering

/-!
# What expressions carry into a statement

The names in the text of an expression are the columns of the fields it names, and the arguments of
the text are its literals, both in the order in which the expression writes them. The condition that
several conditions make carries what these carry one behind the other.
-/

set_option autoImplicit false

namespace RecordSql

variable {type : RecordType}

/-- A field that was rendered is the column of the field with its name. -/
theorem Table.renderField_eq_done_iff {t : Table type} {name : String} {d : Draft} :
    t.renderField name = .done d
      ↔ ∃ i, (type.field i).ident = name ∧ d = [.name (t.column i)] := by
  rcases t.requireField_cases name with ⟨fault, hfound, hnone⟩ | ⟨i, hfound, honly⟩
  · simp [renderField, hfound, hnone]
  · simp [renderField, hfound, honly, @eq_comm Draft]

namespace Expr

/-- The columns of the fields that an expression names, in order. -/
def columns (t : Table type) : Expr → List String
  | .field name | .aggregate _ name => (t.columnOf? name).toList
  | .literal _ => []
  | .unary _ right => right.columns t
  | .binary _ left right => left.columns t ++ right.columns t

/-- The literals of an expression, from left to right. -/
def literals : Expr → List Value
  | .field _ | .aggregate .. => []
  | .literal value => [value]
  | .unary _ right => right.literals
  | .binary _ left right => left.literals ++ right.literals

/-- An aggregate that was rendered is the function applied to the column of its field. -/
theorem render_aggregate_eq_done_iff {t : Table type} {parent : Option Operator}
    {f : Aggregate} {name : String} {d : Draft} :
    (aggregate (some f) name).render t parent = .done d
      ↔ ∃ i, (type.field i).ident = name
        ∧ d = [.sql f.sql, .sql "(", .name (t.column i), .sql ")"] := by
  rcases t.requireField_cases name with ⟨fault, hfound, hnone⟩ | ⟨i, hfound, honly⟩
  · simp [render, hfound, hnone]
  · simp [render, hfound, honly, @eq_comm Draft]

/-- A rendered expression carries the columns of its fields and its literals. -/
theorem carries_render {t : Table type} (e : Expr) {parent : Option Operator} {d : Draft}
    (h : e.render t parent = .done d) : d.Carries (e.columns t) e.literals := by
  have hfield (name : String) (d : Draft) (h : t.renderField name = .done d) :
      d.Carries (t.columnOf? name).toList [] := by
    obtain ⟨i, rfl, rfl⟩ := Table.renderField_eq_done_iff.1 h
    rw [Table.columnOf?_ident]
    exact ⟨rfl, rfl⟩
  induction e generalizing parent d with
  | field name => exact hfield name d h
  | literal v =>
    rw [render, Rendering.bind_eq_done, Rendering.done_inj] at h
    subst h
    exact ⟨rfl, rfl⟩
  | aggregate function name =>
    cases function with
    | none => exact hfield name d h
    | some f =>
      obtain ⟨i, rfl, rfl⟩ := render_aggregate_eq_done_iff.1 h
      rw [columns, Table.columnOf?_ident]
      exact ⟨rfl, rfl⟩
  | unary op right ih =>
    rw [render] at h
    split at h
    · obtain ⟨inner, hinner, rfl⟩ := Rendering.grouped_eq_done_iff.1 h
      rw [Rendering.sql_eq_done, Rendering.done_append_eq_done_iff] at hinner
      obtain ⟨dr, hr, rfl⟩ := hinner
      exact ((ih hr).sql_cons _).grouped _
    · exact absurd h (Rendering.fail_ne_done _ _)
  | binary op left right ihl ihr =>
    rw [render] at h
    split at h
    · exact absurd h (Rendering.fail_ne_done _ _)
    · obtain ⟨inner, hinner, rfl⟩ := Rendering.grouped_eq_done_iff.1 h
      obtain ⟨dl, dr, hl, hr, rfl⟩ := Rendering.append_sql_append_eq_done_iff.1 hinner
      exact ((ihl hl).append ((ihr hr).sql_cons _)).grouped _

/-- An expression names columns of its table. -/
theorem exists_of_mem_columns {t : Table type} {e : Expr} {ident : String}
    (h : ident ∈ e.columns t) : ∃ i, ident = t.column i := by
  have hfield (name : String) (h : ident ∈ (t.columnOf? name).toList) :
      ∃ i, ident = t.column i := by
    rw [Option.mem_toList, Table.columnOf?, Option.map_eq_some_iff] at h
    obtain ⟨i, -, rfl⟩ := h
    exact ⟨i, rfl⟩
  induction e with
  | field name => exact hfield name h
  | literal v => cases h
  | aggregate function name => exact hfield name h
  | unary op right ih => exact ih h
  | binary op left right ihl ihr =>
    rw [columns, List.mem_append] at h
    rcases h with h | h
    · exact ihl h
    · exact ihr h

end Expr

/-! ## Conditions -/

namespace Condition

/-- What is collected from both sides of an `AND`, one behind the other, is collected from the
conjunction of conditions as from these in order. -/
theorem flatMap_of_conjunction {α : Type} {collect : Expr → List α}
    (hand : ∀ a b, collect (.binary .and a b) = collect a ++ collect b)
    {conditions : List Condition} {all : Condition} (h : conjunction conditions = some all) :
    collect all.expr = conditions.flatMap fun c => collect c.expr := by
  have hfold (c : Condition) (cs : List Condition) :
      collect (cs.foldl Condition.and c).expr
        = collect c.expr ++ cs.flatMap fun c => collect c.expr := by
    induction cs generalizing c with
    | nil => simp
    | cons next cs ih =>
      rw [List.foldl_cons, ih, Condition.and, hand, List.flatMap_cons, List.append_assoc]
  cases conditions with
  | nil => cases h
  | cons c cs =>
    cases h
    rw [hfold, List.flatMap_cons]

/-- The columns in a condition made of several are those of each, in order. -/
theorem columns_conjunction {t : Table type} {conditions : List Condition} {all : Condition}
    (h : conjunction conditions = some all) :
    all.expr.columns t = conditions.flatMap fun c => c.expr.columns t :=
  flatMap_of_conjunction (fun _ _ => rfl) h

/-- The literals of a condition made of several are those of each, in order. -/
theorem literals_conjunction {conditions : List Condition} {all : Condition}
    (h : conjunction conditions = some all) :
    all.expr.literals = conditions.flatMap fun c => c.expr.literals :=
  flatMap_of_conjunction (fun _ _ => rfl) h

end Condition

/-- What restricts a statement carries what its conditions carry. -/
theorem Table.carries_renderWhere {t : Table type} {conditions : List Condition} {d : Draft}
    (h : t.renderWhere conditions = .done d) :
    d.Carries (conditions.flatMap fun c => c.expr.columns t)
      (conditions.flatMap fun c => c.expr.literals) := by
  rw [renderWhere] at h
  cases hall : Condition.conjunction conditions with
  | none =>
    rw [hall] at h
    cases h
    cases conditions with
    | cons c cs => cases hall
    | nil => exact ⟨rfl, rfl⟩
  | some all =>
    simp only [hall, Rendering.sql_eq_done, Rendering.done_append_eq_done_iff] at h
    obtain ⟨dc, hrender, rfl⟩ := h
    rw [← Condition.columns_conjunction hall, ← Condition.literals_conjunction hall]
    exact (all.expr.carries_render hrender).sql_cons _

end RecordSql
