import RecordSql.Proofs.Value.Conversion

/-!
# Fields and the values of their columns

The value of a field is of the kind of its column, and the field that is given its own value back
has the content it had. An integer keeps its number whichever kind of integers it passes through.
-/

set_option autoImplicit false

namespace RecordSql

/-- What a field reads from a cell. -/
def FieldType.read (ft : FieldType) (cell : Value) : Except Mismatch ft.Content :=
  match ft.convert cell with
  | .error m => .error m
  | .ok v => ft.ofValue v

/-- A field reads a cell that converts into a value that it takes up. -/
theorem FieldType.read_eq_ok_iff {ft : FieldType} {cell : Value} {content : ft.Content} :
    ft.read cell = .ok content ↔ ∃ v, ft.convert cell = .ok v ∧ ft.ofValue v = .ok content := by
  rw [read]
  cases ft.convert cell <;> simp

/-! ## Contents and values -/

namespace Scalar

/-- The value of a scalar is of the kind of its column. -/
theorem kind?_toValue (s : Scalar) (content : s.Content) :
    (s.toValue content).kind? = some s.kind := by
  cases s <;> rfl

/-- A scalar takes its own value back. -/
theorem ofValue_toValue (s : Scalar) (content : s.Content) :
    s.ofValue (s.toValue content) = .ok content := by
  cases s with
  | signed width =>
    have hnumber : SignedInt.ofInt? width.bits (SignedInt.widen content).val = some content :=
      SignedInt.ofInt?_val content
    simp only [toValue, ofValue, integer?, hnumber]
  | unsigned width =>
    have hnumber : UnsignedInt.ofInt? width.bits ((UnsignedInt.widen content).val : Int)
        = some content := UnsignedInt.ofInt?_val content
    simp only [toValue, ofValue, integer?, hnumber]
  | single => exact congrArg Except.ok (BinaryFloat.convert_binary32_convert_binary64 content)
  | _ => rfl

end Scalar

namespace FieldType

/-- An optional field takes a value other than NULL as its scalar does. -/
theorem ofValue_optional {s : Scalar} {v : Value} (h : v.isNull = false) :
    (optional s).ofValue v = (s.ofValue v).map some := by
  cases v with
  | null => cases h
  | _ =>
    simp only [ofValue]
    cases s.ofValue _ <;> rfl

/-- A column holds a value of its own kind as it is. -/
theorem convert_of_kind {ft : FieldType} {v : Value} (h : v.kind? = some ft.kind) :
    ft.convert v = .ok v := by
  rw [convert, Value.convert, h]
  exact if_pos rfl

/-- A field reads its own value back. -/
theorem read_toValue (ft : FieldType) (content : ft.Content) :
    ft.convert (ft.toValue content) = .ok (ft.toValue content)
      ∧ ft.ofValue (ft.toValue content) = .ok content := by
  cases ft with
  | required s => exact ⟨convert_of_kind (s.kind?_toValue content), s.ofValue_toValue content⟩
  | optional s =>
    cases content with
    | none => exact ⟨rfl, rfl⟩
    | some content =>
      have hkind : (s.toValue content).kind? = some s.kind := s.kind?_toValue content
      have hnull : (s.toValue content).isNull = false := by cases s <;> rfl
      refine ⟨convert_of_kind hkind, ?_⟩
      rw [toValue, ofValue_optional hnull, s.ofValue_toValue]
      rfl

end FieldType

/-! ## Integers -/

/-- A value that is turned into an integer of either kind keeps its number. -/
theorem Value.integer?_of_convertKind {kind : Kind} {v w : Value}
    (hkind : kind = .int ∨ kind = .uint) (h : convertKind kind v = .ok w) :
    Scalar.integer? w = Scalar.integer? v := by
  cases converts_of_convertKind h with
  | int n m hval => exact congrArg some hval
  | uint n m hval => exact congrArg some hval
  | _ => rcases hkind with hkind | hkind <;> cases hkind

/-- A value that converts into a kind of integers keeps its number. -/
theorem Value.integer?_of_convert {kind : Kind} {nullable : Bool} {v w : Value}
    (hkind : kind = .int ∨ kind = .uint) (h : v.convert kind nullable = .ok w) :
    Scalar.integer? w = Scalar.integer? v := by
  rw [convert] at h
  split at h
  · rename_i hnone
    rw [kind?_eq_none_iff] at hnone
    split at h <;> cases h
    rw [hnone]
  · split at h
    · cases h; rfl
    · exact integer?_of_convertKind hkind h

/-- The number of an integer field is that of the value it was given. -/
theorem Scalar.integer?_of_ofValue {s : Scalar} {v : Value} {content : s.Content}
    (hkind : s.kind = .int ∨ s.kind = .uint) (h : s.ofValue v = .ok content) :
    integer? (s.toValue content) = integer? v := by
  cases s with
  | signed width =>
    rw [ofValue] at h
    split at h
    · rename_i n hn
      split at h
      · rename_i m hm
        cases h
        rw [hn, SignedInt.ofInt?_eq_some_iff.1 hm]
        rfl
      · cases h
    · cases h
  | unsigned width =>
    rw [ofValue] at h
    split at h
    · rename_i n hn
      split at h
      · rename_i m hm
        cases h
        rw [hn, UnsignedInt.ofInt?_eq_some_iff.1 hm]
        rfl
      · cases h
    · cases h
  | _ => rcases hkind with hkind | hkind <;> cases hkind

/-- An integer field holds the number of the cell that it read. -/
theorem FieldType.integer?_of_read {ft : FieldType} {cell : Value} {content : ft.Content}
    (hkind : ft.kind = .int ∨ ft.kind = .uint) (h : ft.read cell = .ok content) :
    Scalar.integer? (ft.toValue content) = Scalar.integer? cell := by
  rw [read] at h
  split at h
  · cases h
  · rename_i v hconvert
    rw [← Value.integer?_of_convert hkind hconvert]
    cases ft with
    | required s => exact Scalar.integer?_of_ofValue hkind h
    | optional s =>
      cases hnull : v.isNull with
      | true =>
        cases v <;> cases hnull
        cases h
        rfl
      | false =>
        rw [ofValue_optional hnull] at h
        cases hvalue : s.ofValue v with
        | error m => rw [hvalue] at h; cases h
        | ok c =>
          rw [hvalue] at h
          cases h
          exact Scalar.integer?_of_ofValue hkind hvalue

end RecordSql
