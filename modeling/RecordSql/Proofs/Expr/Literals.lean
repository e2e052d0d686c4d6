import RecordSql.Proofs.Expr.Structure

/-!
# The literals of expressions

The values that an expression compares with, in the order in which they are written. Neither
associating chains to the left nor reading an expression back from its text changes their order.
-/

set_option autoImplicit false

namespace RecordSql

open Sql

variable {type : RecordType}

namespace Expr

/-- Joining an expression to a chain puts its literals behind those of the chain. -/
theorem literals_attach (op : Operator) (left e : Expr) :
    (left.attach op e).literals = left.literals ++ e.literals := by
  induction e with
  | binary found a b iha _ =>
    by_cases h : found = op
    · simp only [attach, if_pos h, literals, iha, List.append_assoc]
    · simp only [attach, if_neg h, literals]
  | _ => rfl

/-- Associating to the left keeps the order of the literals. -/
theorem literals_leftAssociated (e : Expr) : e.leftAssociated.literals = e.literals := by
  induction e with
  | field name => rfl
  | literal value => rfl
  | aggregate function name => cases function <;> rfl
  | unary op right ih => exact ih
  | binary op left right ihl ihr =>
    rw [leftAssociated]
    split
    · rw [literals_attach, ihl, ihr, literals]
    · rw [literals, ihl, ihr, literals]

end Expr

namespace Sql.Phrase

/-- What stands in the places of a phrase, from left to right. -/
def values {α : Type} : Phrase α → List α
  | .column _ | .call .. => []
  | .value a => [a]
  | .negation operand => operand.values
  | .binary _ left right => left.values ++ right.values

/-- The values in a phrase are the literals of its expression. -/
theorem values_of_toExpr? {t : Table type} {phrase : Phrase Value} {e : Expr}
    (h : phrase.toExpr? t = some e) : phrase.values = e.literals := by
  induction phrase generalizing e with
  | column name => obtain ⟨i, -, rfl⟩ := Option.map_eq_some_iff.1 h; rfl
  | value v => cases h; rfl
  | call f name => obtain ⟨i, -, rfl⟩ := Option.map_eq_some_iff.1 h; rfl
  | negation operand ih =>
    obtain ⟨a, ha, rfl⟩ := Option.map_eq_some_iff.1 h
    rw [values, ih ha, Expr.literals]
  | binary op left right ihl ihr =>
    rw [toExpr?] at h
    split at h
    · rename_i a b ha hb
      cases h
      rw [values, ihl ha, ihr hb, Expr.literals]
    · cases h

end Sql.Phrase

end RecordSql
