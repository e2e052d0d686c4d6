import RecordSql.Proofs.Schema.FieldType

/-!
# What a column holds fits its field

A value becomes the content of a field in two steps: it converts into the kind of the field's
column, and what it converts into is taken up by the field. The two fit together. A converted value
is of the kind of the column and converts into itself, and the field takes it up unless it is an
integer beyond the width of the field. A value that the field takes up as it stands also gets there
by way of the column, and whichever step refuses a value names the kind of the column as the
expected one.
-/

set_option autoImplicit false

namespace RecordSql

/-! ## Converted values -/

namespace Value

/-- What a value converts into is of the kind that was asked for. -/
theorem Converts.kind?_eq {kind : Kind} {v r : Value} (h : Converts kind v r) :
    r.kind? = some kind := by
  cases h <;> rfl

/-- A converted value is of the kind that was asked for, or it is the NULL that it was before. -/
theorem kind?_of_convert {kind : Kind} {nullable : Bool} {v r : Value}
    (h : v.convert kind nullable = .ok r) :
    r.kind? = some kind ∨ r = .null ∧ v = .null ∧ nullable = true := by
  by_cases hnull : v = .null
  · subst hnull
    cases nullable with
    | true =>
      cases h
      exact .inr ⟨rfl, rfl, rfl⟩
    | false => cases h
  · obtain ⟨hkind, rfl⟩ | ⟨-, hconverts⟩ := convert_cases hnull h
    · exact .inl hkind
    · exact .inl hconverts.kind?_eq

/-- A value that does not convert is refused in view of the kind that was asked for. -/
theorem expected_of_convertKind {kind : Kind} {v : Value} {m : Mismatch}
    (h : convertKind kind v = .error m) : m.expected = kind := by
  obtain ⟨signed, hsigned⟩ : ∃ f, SignedInt.ofInt? 64 = f := ⟨_, rfl⟩
  obtain ⟨unsigned, hunsigned⟩ : ∃ f, UnsignedInt.ofInt? 64 = f := ⟨_, rfl⟩
  unfold convertKind at h
  rw [hsigned, hunsigned] at h
  split at h
  case h_3 | h_4 | h_6 | h_7 => cases h
  case h_5 =>
    split at h
    · cases h
    · split at h
      · cases h
      · cases h
        rfl
  case h_10 =>
    cases h
    rfl
  all_goals
    split at h
    · cases h
    · cases h
      rfl

/-- A value that cannot be converted, NULL included, is refused in view of the kind. -/
theorem expected_of_convert {kind : Kind} {nullable : Bool} {v : Value} {m : Mismatch}
    (h : v.convert kind nullable = .error m) : m.expected = kind := by
  unfold convert at h
  split at h
  · split at h
    · cases h
    · cases h
      rfl
  · split at h
    · cases h
    · exact expected_of_convertKind h

end Value

/-! ## Contents -/

namespace Scalar

/-- An integer of the kind of a scalar of fewer than 64 bits that is beyond its bounds. -/
inductive Overflows : Scalar → Value → Prop where
  /-- A signed integer below the least or above the greatest of its width. -/
  | signed {width : Width} (n : SignedInt 64) (narrow : width ≠ .w64)
      (beyond : n.val < -(twoPow (width.bits - 1) : Int)
        ∨ (twoPow (width.bits - 1) : Int) ≤ n.val) :
      Overflows (.signed width) (.int n)
  /-- An unsigned integer above the greatest of its width. -/
  | unsigned {width : Width} (n : UnsignedInt 64) (narrow : width ≠ .w64)
      (beyond : twoPow width.bits ≤ n.val) : Overflows (.unsigned width) (.uint n)

/-- Whether a scalar takes a value up, and if not, why. -/
theorem ofValue_cases (s : Scalar) (v : Value) :
    (∃ content, s.ofValue v = .ok content) ∨ s.ofValue v = .error (.ofKind s.kind v)
      ∨ s.ofValue v = .error (.ofRange s.kind v) := by
  cases s with
  | signed width =>
    simp only [ofValue]
    cases integer? v with
    | none => exact .inr (.inl rfl)
    | some n =>
      dsimp only
      cases SignedInt.ofInt? width.bits n with
      | none => exact .inr (.inr rfl)
      | some m => exact .inl ⟨m, rfl⟩
  | unsigned width =>
    simp only [ofValue]
    cases integer? v with
    | none => exact .inr (.inl rfl)
    | some n =>
      dsimp only
      cases UnsignedInt.ofInt? width.bits n with
      | none => exact .inr (.inr rfl)
      | some m => exact .inl ⟨m, rfl⟩
  | single | double =>
    simp only [ofValue]
    cases number? v with
    | none => exact .inr (.inl rfl)
    | some x => exact .inl ⟨_, rfl⟩
  | _ => cases v <;> first | exact .inl ⟨_, rfl⟩ | exact .inr (.inl rfl)

/-- A scalar refuses a value in view of its kind. -/
theorem expected_of_ofValue {s : Scalar} {v : Value} {m : Mismatch} (h : s.ofValue v = .error m) :
    m.expected = s.kind := by
  obtain ⟨content, hok⟩ | hkind | hrange := s.ofValue_cases v
  · rw [hok] at h
    cases h
  · rw [hkind] at h
    cases h
    rfl
  · rw [hrange] at h
    cases h
    rfl

/-- A signed integer is refused for its size only. -/
theorem ofValue_signed_eq_error_iff {width : Width} {n : SignedInt 64} {m : Mismatch} :
    (signed width).ofValue (.int n) = .error m
      ↔ m = .ofRange .int (.int n) ∧ (signed width).Overflows (.int n) := by
  simp only [ofValue, integer?]
  cases hfits : SignedInt.ofInt? width.bits n.val with
  | some k =>
    have hval : n.val = k.val := SignedInt.ofInt?_eq_some_iff.1 hfits
    have hlower := k.lower
    have hupper := k.upper
    simp only [reduceCtorEq, false_iff, not_and]
    intro _ hoverflows
    cases hoverflows with
    | signed _ _ hbeyond => omega
  | none =>
    have hbeyond := SignedInt.ofInt?_eq_none_iff.1 hfits
    have hnarrow : width ≠ .w64 := by
      rintro rfl
      rcases hbeyond with h | h
      · exact absurd n.lower (not_le.2 h)
      · exact absurd n.upper (not_lt.2 h)
    simp only [Except.error.injEq, @eq_comm _ _ m, Overflows.signed n hnarrow hbeyond, and_true]

/-- An unsigned integer is refused for its size only. -/
theorem ofValue_unsigned_eq_error_iff {width : Width} {n : UnsignedInt 64} {m : Mismatch} :
    (unsigned width).ofValue (.uint n) = .error m
      ↔ m = .ofRange .uint (.uint n) ∧ (unsigned width).Overflows (.uint n) := by
  simp only [ofValue, integer?]
  cases hfits : UnsignedInt.ofInt? width.bits n.val with
  | some k =>
    have hval : (n.val : Int) = k.val := UnsignedInt.ofInt?_eq_some_iff.1 hfits
    have hupper := k.upper
    simp only [reduceCtorEq, false_iff, not_and]
    intro _ hoverflows
    cases hoverflows with
    | unsigned _ _ hbeyond => omega
  | none =>
    have hbeyond : twoPow width.bits ≤ n.val := by
      have hrange := UnsignedInt.ofInt?_eq_none_iff.1 hfits
      omega
    have hnarrow : width ≠ .w64 := by
      rintro rfl
      exact absurd n.upper (not_lt.2 hbeyond)
    simp only [Except.error.injEq, @eq_comm _ _ m, Overflows.unsigned n hnarrow hbeyond, and_true]

/-- A value of the kind of a scalar is refused if it is an integer beyond the scalar's bounds. -/
theorem ofValue_eq_error_iff {s : Scalar} {v : Value} (hkind : v.kind? = some s.kind)
    {m : Mismatch} : s.ofValue v = .error m ↔ m = .ofRange s.kind v ∧ s.Overflows v := by
  cases s with
  | signed width =>
    cases v with
    | int n => exact ofValue_signed_eq_error_iff
    | _ => cases hkind
  | unsigned width =>
    cases v with
    | uint n => exact ofValue_unsigned_eq_error_iff
    | _ => cases hkind
  | _ =>
    cases v <;> cases hkind
    constructor
    · intro h
      cases h
    · rintro ⟨-, h⟩
      cases h

/-! ## From a value straight into a field -/

/-- A value that an integer takes up converts into the value of that integer. -/
theorem convert_of_ofValue_integer {s : Scalar} (hs : s.kind = .int ∨ s.kind = .uint) {v : Value}
    {content : s.Content} (h : s.ofValue v = .ok content) (nullable : Bool) :
    v.convert s.kind nullable = .ok (s.toValue content) := by
  have hnumber : integer? (s.toValue content) = integer? v := integer?_of_ofValue hs h
  cases s with
  | signed width =>
    rw [toValue] at hnumber ⊢
    obtain ⟨m, rfl, hm⟩ | ⟨m, rfl, hm⟩ := Value.cases_of_integer? hnumber.symm
    · rw [SignedInt.ext hm]
      rfl
    · exact ((Value.convert_int_uint m nullable).1 _).2 hm.symm
  | unsigned width =>
    rw [toValue] at hnumber ⊢
    obtain ⟨m, rfl, hm⟩ | ⟨m, rfl, hm⟩ := Value.cases_of_integer? hnumber.symm
    · exact ((Value.convert_uint_int m nullable).1 _).2 hm.symm
    · rw [UnsignedInt.ext (Int.natCast_inj.1 hm)]
      rfl
  | _ => rcases hs with hs | hs <;> cases hs

/-- A value that a scalar takes up converts into one that it takes up as the same content. -/
theorem exists_convert_of_ofValue {s : Scalar} {v : Value} {content : s.Content}
    (h : s.ofValue v = .ok content) (nullable : Bool) :
    ∃ r, v.convert s.kind nullable = .ok r ∧ s.ofValue r = .ok content := by
  cases s with
  | signed width =>
    exact ⟨_, convert_of_ofValue_integer (.inl rfl) h nullable, ofValue_toValue _ content⟩
  | unsigned width =>
    exact ⟨_, convert_of_ofValue_integer (.inr rfl) h nullable, ofValue_toValue _ content⟩
  | single | double =>
    cases v with
    | float x => exact ⟨_, rfl, h⟩
    | int n => exact ⟨_, rfl, h⟩
    | uint n => exact ⟨_, rfl, h⟩
    | _ => cases h
  | _ =>
    cases v <;> first | exact ⟨_, rfl, h⟩ | cases h

end Scalar

namespace FieldType

variable {ft : FieldType} {v : Value}

/-- An optional field takes up what a required one would, unless it is NULL. -/
theorem ofValue_optional_eq_ok_iff {s : Scalar} (hnull : v.isNull = false) {content : s.Content} :
    (optional s).ofValue v = .ok (some content) ↔ s.ofValue v = .ok content := by
  rw [ofValue_optional hnull]
  cases s.ofValue v with
  | error m => simp [Except.map]
  | ok c =>
    constructor
    · intro h
      cases h
      rfl
    · intro h
      cases h
      rfl

/-- An optional field refuses what a required one would, unless it is NULL. -/
theorem ofValue_optional_eq_error_iff {s : Scalar} (hnull : v.isNull = false) {m : Mismatch} :
    (optional s).ofValue v = .error m ↔ s.ofValue v = .error m := by
  rw [ofValue_optional hnull]
  cases s.ofValue v with
  | ok c => simp [Except.map]
  | error found =>
    constructor
    · intro h
      cases h
      rfl
    · intro h
      cases h
      rfl

/-- A value of a kind is not NULL. -/
theorem isNull_eq_false {kind : Kind} (hkind : v.kind? = some kind) : v.isNull = false := by
  cases v with
  | null => cases hkind
  | _ => rfl

/-- A value of the kind of a field's column is refused if it is an integer beyond the field's
bounds. -/
theorem ofValue_eq_error_iff (hkind : v.kind? = some ft.kind) {m : Mismatch} :
    ft.ofValue v = .error m ↔ m = .ofRange ft.kind v ∧ ft.scalar.Overflows v := by
  cases ft with
  | required s => exact Scalar.ofValue_eq_error_iff hkind
  | optional s =>
    rw [ofValue_optional_eq_error_iff (isNull_eq_false hkind)]
    exact Scalar.ofValue_eq_error_iff hkind

/-- What comes of a value that was converted for a column: its kind, what a second conversion does
to it, and whether the field takes it up. -/
theorem of_convert {r : Value} (h : ft.convert v = .ok r) :
    (r.kind? = some ft.kind ∨ r = .null ∧ v = .null ∧ ft.nullable = true)
      ∧ ft.convert r = .ok r
      ∧ ∀ m, ft.ofValue r = .error m ↔ m = .ofRange ft.kind r ∧ ft.scalar.Overflows r := by
  have hcases := Value.kind?_of_convert h
  refine ⟨hcases, ?_⟩
  obtain hkind | ⟨rfl, -, hnullable⟩ := hcases
  · exact ⟨convert_of_kind hkind, fun m => ofValue_eq_error_iff hkind⟩
  · cases ft with
    | required s => cases hnullable
    | optional s =>
      refine ⟨rfl, fun m => ⟨fun hrefused => ?_, fun ⟨_, hoverflows⟩ => ?_⟩⟩
      · cases hrefused
      · cases hoverflows

/-- A value that a field takes up converts into one that it takes up as the same content. -/
theorem exists_convert_of_ofValue {content : ft.Content} (h : ft.ofValue v = .ok content) :
    ∃ r, ft.convert v = .ok r ∧ ft.ofValue r = .ok content := by
  cases ft with
  | required s => exact Scalar.exists_convert_of_ofValue h false
  | optional s =>
    cases hnull : v.isNull with
    | true =>
      cases v <;> cases hnull
      exact ⟨.null, rfl, h⟩
    | false =>
      cases content with
      | none =>
        rw [ofValue_optional hnull] at h
        cases hvalue : s.ofValue v <;> rw [hvalue] at h <;> cases h
      | some c =>
        rw [ofValue_optional_eq_ok_iff hnull] at h
        obtain ⟨r, hconvert, htaken⟩ := Scalar.exists_convert_of_ofValue h true
        have hsome : r.isNull = false := by
          obtain hkind | ⟨-, rfl, -⟩ := Value.kind?_of_convert hconvert
          · exact isNull_eq_false hkind
          · cases hnull
        exact ⟨r, hconvert, (ofValue_optional_eq_ok_iff hsome).2 htaken⟩

/-- Whichever step refuses a value, it expected the kind of the field's column. -/
theorem expected_of_ofValue {m : Mismatch} (h : ft.ofValue v = .error m) :
    m.expected = ft.kind := by
  cases ft with
  | required s => exact Scalar.expected_of_ofValue h
  | optional s =>
    cases hnull : v.isNull with
    | true =>
      cases v <;> cases hnull
      cases h
    | false => exact Scalar.expected_of_ofValue ((ofValue_optional_eq_error_iff hnull).1 h)

/-- Converting a value for a column and taking it up into the field fit together. A value that is
converted is of the kind of the column, or it is NULL as before in a field that may hold NULL. It
converts into itself, and the field takes it up unless it is an integer beyond the bounds of a field
of fewer than 64 bits; then it is refused as out of range. A value that the field takes up as it
stands converts, too, and then becomes the same content. Whichever step refuses a value, it expected
the kind of the column. -/
theorem convert_fits_ofValue (ft : FieldType) (v : Value) :
    (∀ r, ft.convert v = .ok r →
        (r.kind? = some ft.kind ∨ r = .null ∧ v = .null ∧ ft.nullable = true)
          ∧ ft.convert r = .ok r
          ∧ ∀ m, ft.ofValue r = .error m ↔ m = .ofRange ft.kind r ∧ ft.scalar.Overflows r)
      ∧ (∀ content, ft.ofValue v = .ok content →
        ∃ r, ft.convert v = .ok r ∧ ft.ofValue r = .ok content)
      ∧ ∀ m, ft.convert v = .error m ∨ ft.ofValue v = .error m → m.expected = ft.kind := by
  refine ⟨fun r hconvert => of_convert hconvert, fun content => exists_convert_of_ofValue, ?_⟩
  rintro m (hconvert | hvalue)
  · exact Value.expected_of_convert hconvert
  · exact expected_of_ofValue hvalue

/-- An unsigned number in the column of a signed byte that may be absent: it converts, and then it
is out of range. -/
theorem convert_fits_ofValue_byte :
    (optional (.signed .w8)).convert (.uint ⟨200, by decide⟩)
        = .ok (.int ⟨200, by decide, by decide⟩)
      ∧ (optional (.signed .w8)).convert (.int ⟨200, by decide, by decide⟩)
        = .ok (.int ⟨200, by decide, by decide⟩)
      ∧ (optional (.signed .w8)).ofValue (.int ⟨200, by decide, by decide⟩)
        = .error ⟨.int, .outOfRange, .int ⟨200, by decide, by decide⟩⟩ := by
  have hconvert : (optional (.signed .w8)).convert (.uint ⟨200, by decide⟩)
      = .ok (.int ⟨200, by decide, by decide⟩) := rfl
  obtain ⟨-, hagain, hrefused⟩ :=
    (convert_fits_ofValue (optional (.signed .w8)) (.uint ⟨200, by decide⟩)).1 _ hconvert
  refine ⟨hconvert, hagain, (hrefused _).2 ⟨rfl, ?_⟩⟩
  exact .signed _ (by decide) (.inr (by decide))

end FieldType

end RecordSql
