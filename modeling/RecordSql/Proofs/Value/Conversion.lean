import RecordSql.Proofs.Number.WholeNumber
import RecordSql.Schema.FieldType

/-!
# What a conversion keeps

A value that is converted into another kind stands for the same number or the same point in time
as before, with one exception: an integer of more than 53 significant bits that becomes a
floating-point number is rounded. What a value stands for is its `Value.quantity?`, which forgets
the kind, and the kind together with the quantity gives an integer, a truth value or a point in time
back. So two values of one kind that convert into the same value were the same, unless one of them
was rounded.
-/

set_option autoImplicit false

namespace RecordSql

namespace Value

/-- The number or the point in time that a value stands for, whichever kind it is of. -/
def quantity? : Value → Option (ℚ ⊕ Timestamp)
  | .bool b => some (.inl (if b then 1 else 0))
  | .int n => some (.inl n.val)
  | .uint n => some (.inl n.val)
  | .float x => x.toRat?.map .inl
  | .timestamp t | .timestamptz t => some (.inr t)
  | _ => none

/-- A value is not rounded on its way into a kind: an integer that becomes a floating-point number
has at most 53 significant bits. -/
def KeptBy (kind : Kind) (v : Value) : Prop :=
  kind = .float → ∀ n, Scalar.integer? v = some n → HasSignificantBits 53 n

/-- What a conversion into another kind does to a value. -/
inductive Converts : Kind → Value → Value → Prop where
  /-- An unsigned integer within the range of the signed ones. -/
  | int (n : UnsignedInt 64) (m : SignedInt 64) (h : m.val = n.val) :
    Converts .int (.uint n) (.int m)
  /-- A signed integer that is not negative. -/
  | uint (n : SignedInt 64) (m : UnsignedInt 64) (h : (m.val : Int) = n.val) :
    Converts .uint (.int n) (.uint m)
  /-- A signed integer becomes the nearest floating-point number. -/
  | floatOfInt (n : SignedInt 64) : Converts .float (.int n) (.float (.ofInt binary64 n.val))
  /-- An unsigned integer becomes the nearest floating-point number. -/
  | floatOfUInt (n : UnsignedInt 64) : Converts .float (.uint n) (.float (.ofInt binary64 n.val))
  /-- Zero and one become truth values. -/
  | bool (n : SignedInt 64) (b : Bool) (h : n.val = if b then 1 else 0) :
    Converts .bool (.int n) (.bool b)
  /-- A point in time loses its time zone. -/
  | timestamp (t : Timestamp) : Converts .timestamp (.timestamptz t) (.timestamp t)
  /-- A point in time is put into UTC. -/
  | timestamptz (t : Timestamp) : Converts .timestamptz (.timestamp t) (.timestamptz t)
  /-- A text becomes the identifier that it spells. -/
  | uuid (s : String) (u : Uuid) (h : Uuid.read? s = some u) : Converts .uuid (.text s) (.uuid u)
  /-- A text becomes the JSON value that it spells. -/
  | json (s : String) (j : Json) (h : Json.read? s = some j) : Converts .json (.text s) (.json j)

/-- What a value converts into is one of the conversions. -/
theorem converts_of_convertKind {kind : Kind} {v r : Value} (h : convertKind kind v = .ok r) :
    Converts kind v r := by
  -- The range checks are named, as the bounds are too large to be computed with.
  obtain ⟨signed, hsigned⟩ : ∃ f, SignedInt.ofInt? 64 = f := ⟨_, rfl⟩
  obtain ⟨unsigned, hunsigned⟩ : ∃ f, UnsignedInt.ofInt? 64 = f := ⟨_, rfl⟩
  unfold convertKind at h
  rw [hsigned, hunsigned] at h
  split at h
  case h_1 n =>
    split at h
    · rename_i m hm
      cases h
      rw [← hsigned, SignedInt.ofInt?_eq_some_iff] at hm
      exact .int n m hm.symm
    · cases h
  case h_2 n =>
    split at h
    · rename_i m hm
      cases h
      rw [← hunsigned, UnsignedInt.ofInt?_eq_some_iff] at hm
      exact .uint n m hm.symm
    · cases h
  case h_3 n => cases h; exact .floatOfInt n
  case h_4 n => cases h; exact .floatOfUInt n
  case h_5 n =>
    split at h
    · rename_i hn
      cases h
      exact .bool n false hn
    · split at h
      · rename_i hn
        cases h
        exact .bool n true hn
      · cases h
  case h_6 t => cases h; exact .timestamp t
  case h_7 t => cases h; exact .timestamptz t
  case h_8 s =>
    split at h
    · rename_i u hu
      cases h
      exact .uuid s u hu
    · cases h
  case h_9 s =>
    split at h
    · rename_i j hj
      cases h
      exact .json s j hj
    · cases h
  case h_10 => cases h

/-- A conversion leaves a value of the kind as it is, and converts any other one. -/
theorem convert_cases {kind : Kind} {nullable : Bool} {v r : Value} (hnull : v ≠ .null)
    (h : v.convert kind nullable = .ok r) :
    (v.kind? = some kind ∧ r = v) ∨ (v.kind? ≠ some kind ∧ Converts kind v r) := by
  unfold convert at h
  split at h
  · rename_i hnone
    exact absurd (kind?_eq_none_iff.1 hnone) hnull
  · rename_i held hheld
    rw [hheld]
    split at h
    · rename_i heq
      cases h
      exact .inl ⟨congrArg some heq, rfl⟩
    · rename_i hne
      exact .inr ⟨fun heq => hne (Option.some.inj heq), converts_of_convertKind h⟩

/-! ## Quantities -/

/-- The values of an integer are of one of the two kinds. -/
theorem cases_of_integer? {v : Value} {n : Int} (h : Scalar.integer? v = some n) :
    (∃ m : SignedInt 64, v = .int m ∧ m.val = n)
      ∨ ∃ m : UnsignedInt 64, v = .uint m ∧ m.val = n := by
  cases v with
  | int m => exact .inl ⟨m, rfl, Option.some.inj h⟩
  | uint m => exact .inr ⟨m, rfl, Option.some.inj h⟩
  | _ => cases h

/-- Integers of 64 bits are within the range where the floating-point numbers of 64 bits have room
for them. -/
theorem natAbs_le_of_integer? {v : Value} {n : Int} (h : Scalar.integer? v = some n) :
    n.natAbs ≤ twoPow 64 := by
  cases v with
  | int m =>
    cases h
    have hlower := m.lower
    have hupper := m.upper
    have hpow : twoPow 64 = twoPow (64 - 1) * 2 := rfl
    omega
  | uint m =>
    cases h
    exact m.upper.le
  | _ => cases h

/-- A value that is not rounded stands for the same after its conversion. -/
theorem Converts.quantity?_eq {kind : Kind} {v r : Value} (h : Converts kind v r)
    (hkept : v.KeptBy kind) : r.quantity? = v.quantity? := by
  cases h with
  | int n m h => simp [quantity?, h]
  | uint n m h => simp [quantity?, ← h]
  | floatOfInt n =>
    have hn : (BinaryFloat.ofInt binary64 n.val).toRat? = some (n.val : ℚ) :=
      (BinaryFloat.toRat?_ofInt_binary64 (natAbs_le_of_integer? (v := .int n) rfl)).2
        (hkept rfl n.val rfl)
    simp [quantity?, hn]
  | floatOfUInt n =>
    have hn : (BinaryFloat.ofInt binary64 n.val).toRat? = some ((n.val : Int) : ℚ) :=
      (BinaryFloat.toRat?_ofInt_binary64 (natAbs_le_of_integer? (v := .uint n) rfl)).2
        (hkept rfl n.val rfl)
    simp [quantity?, hn]
  | bool n b h => cases b <;> simp [quantity?, h]
  | timestamp t => rfl
  | timestamptz t => rfl
  | uuid s u h => rfl
  | json s j h => rfl

/-- Values that compare as equal stand for the same. -/
theorem quantity?_eq_of_equal {v w : Value} (h : v.equal w = true) :
    v.quantity? = w.quantity? := by
  unfold equal at h
  split at h
  case h_2 a b => rw [beq_iff_eq.1 h]
  case h_3 a b => simp [quantity?, beq_iff_eq.1 h]
  case h_4 a b => simp [quantity?, beq_iff_eq.1 h]
  case h_5 a b => simp [quantity?, BinaryFloat.toRat?_eq_of_numericEq h]
  case h_9 a b => rw [beq_iff_eq.1 h]
  case h_10 a b => rw [beq_iff_eq.1 h]
  case h_14 => cases h
  all_goals rfl

/-- A value that was converted and is not a text is given by its kind and by what it stands for. -/
theorem Converts.eq_of_quantity? {kind : Kind} {v w r s : Value} (hv : Converts kind v r)
    (hw : Converts kind w s) (htext : v.kind? ≠ some .text) (hkind : v.kind? = w.kind?)
    (h : v.quantity? = w.quantity?) : v = w := by
  have hint (n m : SignedInt 64) (h : (Value.int n).quantity? = (Value.int m).quantity?) :
      Value.int n = .int m := by
    have hval : n.val = m.val := by simpa [quantity?] using h
    rw [SignedInt.ext hval]
  have huint (n m : UnsignedInt 64) (h : (Value.uint n).quantity? = (Value.uint m).quantity?) :
      Value.uint n = .uint m := by
    have hval : n.val = m.val := by simpa [quantity?] using h
    rw [UnsignedInt.ext hval]
  cases hv with
  | int n m hn => cases hw with | int n' m' hn' => exact huint n n' h
  | uint n m hn => cases hw with | uint n' m' hn' => exact hint n n' h
  | floatOfInt n =>
    cases hw with
    | floatOfInt n' => exact hint n n' h
    | floatOfUInt n' => cases hkind
  | floatOfUInt n =>
    cases hw with
    | floatOfInt n' => cases hkind
    | floatOfUInt n' => exact huint n n' h
  | bool n b hn => cases hw with | bool n' b' hn' => exact hint n n' h
  | timestamp t => cases hw with | timestamp t' => cases h; rfl
  | timestamptz t => cases hw with | timestamptz t' => cases h; rfl
  | uuid s u hs => exact absurd rfl htext
  | json s j hs => exact absurd rfl htext

/-- A value that converts is equal to itself. -/
theorem Converts.equal_self {kind : Kind} {v r : Value} (h : Converts kind v r) :
    v.equal v = true := by
  cases h <;> simp [equal]

/-- If two values of one kind that is not text convert into the same value without being rounded,
they were the same. -/
theorem eq_of_convert {kind : Kind} {nullable : Bool} {v w r s : Value} (hnull : v ≠ .null)
    (hkind : v.kind? = w.kind?) (htext : v.kind? ≠ some .text) (hv : v.KeptBy kind)
    (hw : w.KeptBy kind) (hr : v.convert kind nullable = .ok r)
    (hs : w.convert kind nullable = .ok s) :
    (r = s → v = w) ∧ (r.equal s = true → v.equal w = true) := by
  have hwnull : w ≠ .null := by
    rintro rfl
    exact hnull (kind?_eq_none_iff.1 hkind)
  rcases convert_cases hnull hr with ⟨hsame, rfl⟩ | ⟨hother, hr⟩
  · rcases convert_cases hwnull hs with ⟨-, rfl⟩ | ⟨hother, -⟩
    · exact ⟨id, id⟩
    · exact absurd (hkind ▸ hsame) hother
  · rcases convert_cases hwnull hs with ⟨hsame, -⟩ | ⟨-, hs⟩
    · exact absurd (hkind.trans hsame) hother
    · have heq (h : r.quantity? = s.quantity?) : v = w := by
        rw [hr.quantity?_eq hv, hs.quantity?_eq hw] at h
        exact hr.eq_of_quantity? hs htext hkind h
      constructor
      · intro h
        exact heq (congrArg quantity? h)
      · intro h
        rw [← heq (quantity?_eq_of_equal h)]
        exact hr.equal_self

/-! ## Between numbers -/

/-- An integer becomes the nearest floating-point number, for a column as for a field. -/
theorem convert_float_of_integer? {v : Value} {n : Int} (h : Scalar.integer? v = some n)
    (nullable : Bool) :
    v.convert .float nullable = .ok (.float (.ofInt binary64 n))
      ∧ Scalar.double.ofValue v = .ok (.ofInt binary64 n) := by
  cases v with
  | int m => cases h; exact ⟨rfl, rfl⟩
  | uint m => cases h; exact ⟨rfl, rfl⟩
  | _ => cases h

/-- A value of another kind is converted by its kind. -/
theorem convert_of_ne {kind held : Kind} {nullable : Bool} {v : Value} (hheld : v.kind? = some held)
    (hne : held ≠ kind) : v.convert kind nullable = convertKind kind v := by
  rw [convert, hheld]
  exact if_neg hne

/-- An unsigned integer converts into a signed one if it fits. -/
theorem convertKind_int_uint (n : UnsignedInt 64) {check : Int → Option (SignedInt 64)}
    (hcheck : SignedInt.ofInt? 64 = check) :
    convertKind .int (.uint n) = match check n.val with
      | some m => .ok (.int m)
      | none => .error (.ofRange .int (.uint n)) := by
  -- The kind and the value are named, or else the range check would be computed with.
  obtain ⟨kind, hkind⟩ : ∃ kind, kind = Kind.int := ⟨_, rfl⟩
  obtain ⟨v, hv⟩ : ∃ v, v = uint n := ⟨_, rfl⟩
  rw [← hkind, ← hv]
  unfold convertKind
  rw [hcheck]
  subst hkind hv
  rfl

/-- A signed integer converts into an unsigned one if it fits. -/
theorem convertKind_uint_int (n : SignedInt 64) {check : Int → Option (UnsignedInt 64)}
    (hcheck : UnsignedInt.ofInt? 64 = check) :
    convertKind .uint (.int n) = match check n.val with
      | some m => .ok (.uint m)
      | none => .error (.ofRange .uint (.int n)) := by
  obtain ⟨kind, hkind⟩ : ∃ kind, kind = Kind.uint := ⟨_, rfl⟩
  obtain ⟨v, hv⟩ : ∃ v, v = int n := ⟨_, rfl⟩
  rw [← hkind, ← hv]
  unfold convertKind
  rw [hcheck]
  subst hkind hv
  rfl

/-- An unsigned integer becomes the same signed one, unless it is beyond them all. -/
theorem convert_int_uint (n : UnsignedInt 64) (nullable : Bool) :
    (∀ m, (uint n).convert .int nullable = .ok (.int m) ↔ m.val = n.val)
      ∧ ((uint n).convert .int nullable = .error (.ofRange .int (.uint n))
        ↔ twoPow 63 ≤ n.val) := by
  obtain ⟨check, hcheck⟩ : ∃ check, SignedInt.ofInt? 64 = check := ⟨_, rfl⟩
  rw [convert_of_ne rfl (by decide), convertKind_int_uint n hcheck]
  cases hm : check n.val with
  | some m =>
    rw [← hcheck, SignedInt.ofInt?_eq_some_iff] at hm
    have hupper : m.val < (twoPow 63 : Nat) := m.upper
    simp only [Except.ok.injEq, Value.int.injEq, reduceCtorEq, false_iff]
    refine ⟨fun k => ?_, ?_⟩
    · rw [hm, SignedInt.ext_iff, eq_comm]
    · omega
  | none =>
    rw [← hcheck, SignedInt.ofInt?_eq_none_iff] at hm
    have hrange : (n.val : Int) < -(twoPow 63 : Int) ∨ (twoPow 63 : Int) ≤ n.val := hm
    simp only [reduceCtorEq, false_iff, true_iff]
    refine ⟨fun m hval => ?_, ?_⟩
    · have hlower : -(twoPow 63 : Int) ≤ m.val := m.lower
      have hupper : m.val < (twoPow 63 : Int) := m.upper
      omega
    · omega

/-- A signed integer becomes the same unsigned one, unless it is negative. -/
theorem convert_uint_int (n : SignedInt 64) (nullable : Bool) :
    (∀ m, (int n).convert .uint nullable = .ok (.uint m) ↔ (m.val : Int) = n.val)
      ∧ ((int n).convert .uint nullable = .error (.ofRange .uint (.int n)) ↔ n.val < 0) := by
  obtain ⟨check, hcheck⟩ : ∃ check, UnsignedInt.ofInt? 64 = check := ⟨_, rfl⟩
  rw [convert_of_ne rfl (by decide), convertKind_uint_int n hcheck]
  cases hm : check n.val with
  | some m =>
    rw [← hcheck, UnsignedInt.ofInt?_eq_some_iff] at hm
    simp only [Except.ok.injEq, Value.uint.injEq, reduceCtorEq, false_iff]
    refine ⟨fun k => ?_, ?_⟩
    · rw [hm, UnsignedInt.ext_iff, eq_comm, Int.natCast_inj]
    · omega
  | none =>
    rw [← hcheck, UnsignedInt.ofInt?_eq_none_iff] at hm
    have hupper : n.val < (twoPow 63 : Int) := n.upper
    have hpow : twoPow 64 = twoPow 63 * 2 := rfl
    simp only [reduceCtorEq, false_iff, true_iff]
    refine ⟨fun m hval => ?_, ?_⟩
    · have hbound : m.val < twoPow 64 := m.upper
      omega
    · omega

/-! ## All conversions -/

/-- Conversions lose nothing but the bits of an integer that a floating-point number has no room
for. Two values of one kind that is not text, neither of them rounded, convert into the same value,
or into equal ones, only if they were the same, or equal. An integer always becomes the nearest
floating-point number, for a column as for a field, and this is the integer itself exactly if it has
at most 53 significant bits. The two kinds of integers become each other exactly on the range that
they share, and a point in time passes through the other kind unchanged. -/
theorem convert_loses_bits_only (nullable : Bool) :
    (∀ (kind : Kind) (v w r s : Value), v ≠ .null → v.kind? = w.kind? → v.kind? ≠ some .text →
        v.KeptBy kind → w.KeptBy kind →
        v.convert kind nullable = .ok r → w.convert kind nullable = .ok s →
        (r = s → v = w) ∧ (r.equal s = true → v.equal w = true))
      ∧ (∀ (v : Value) n, Scalar.integer? v = some n →
        ∃ x : Binary64, v.convert .float nullable = .ok (.float x)
          ∧ Scalar.double.ofValue v = .ok x
          ∧ (x.toRat? = some (n : ℚ) ↔ HasSignificantBits 53 n))
      ∧ (∀ n, (∀ m, (uint n).convert .int nullable = .ok (.int m) ↔ m.val = n.val)
        ∧ ((uint n).convert .int nullable = .error (.ofRange .int (.uint n))
          ↔ twoPow 63 ≤ n.val))
      ∧ (∀ n, (∀ m, (int n).convert .uint nullable = .ok (.uint m) ↔ (m.val : Int) = n.val)
        ∧ ((int n).convert .uint nullable = .error (.ofRange .uint (.int n)) ↔ n.val < 0))
      ∧ ∀ t, ((timestamp t).convert .timestamptz nullable).bind (convert .timestamp nullable)
            = .ok (.timestamp t)
          ∧ ((timestamptz t).convert .timestamp nullable).bind (convert .timestamptz nullable)
            = .ok (.timestamptz t) := by
  refine ⟨?_, ?_, fun n => convert_int_uint n nullable, fun n => convert_uint_int n nullable,
    fun t => ⟨rfl, rfl⟩⟩
  · intro kind v w r s hnull hkind htext hv hw hr hs
    exact eq_of_convert hnull hkind htext hv hw hr hs
  · intro v n hn
    obtain ⟨hconvert, hvalue⟩ := convert_float_of_integer? hn nullable
    exact ⟨_, hconvert, hvalue, BinaryFloat.toRat?_ofInt_binary64 (natAbs_le_of_integer? hn)⟩

/-- Two neighbours among the integers that become themselves stay apart. -/
theorem convert_loses_bits_only_neighbours : ∃ r s,
    (int ⟨9007199254740992, by decide, by decide⟩).convert .float false = .ok r
      ∧ (int ⟨9007199254740994, by decide, by decide⟩).convert .float false = .ok s
      ∧ r ≠ s
      ∧ ∃ x : Binary64, r = .float x ∧ x.toRat? = some ((9007199254740992 : Int) : ℚ) := by
  have hfirst : HasSignificantBits 53 9007199254740992 := ⟨1, 53, rfl, by decide⟩
  have hsecond : HasSignificantBits 53 9007199254740994 := ⟨4503599627370497, 1, rfl, by decide⟩
  obtain ⟨hinjective, hfloat, -⟩ := convert_loses_bits_only false
  refine ⟨_, _, rfl, rfl, ?_, ?_⟩
  · intro h
    have heq := (hinjective .float (int ⟨9007199254740992, by decide, by decide⟩)
      (int ⟨9007199254740994, by decide, by decide⟩) _ _ (by simp) rfl (by simp [kind?])
      (fun _ n hn => by cases hn; exact hfirst) (fun _ n hn => by cases hn; exact hsecond)
      rfl rfl).1 h
    simp at heq
  · obtain ⟨x, hconvert, -, hexact⟩ :=
      hfloat (int ⟨9007199254740992, by decide, by decide⟩) 9007199254740992 rfl
    exact ⟨x, Except.ok.inj hconvert, hexact.2 hfirst⟩

/-- Two different integers become one floating-point number, which is only one of them. -/
theorem convert_float_merges : ∃ x : Binary64,
    (int ⟨9007199254740993, by decide, by decide⟩).convert .float false = .ok (.float x)
      ∧ (int ⟨9007199254740992, by decide, by decide⟩).convert .float false = .ok (.float x)
      ∧ (float x).equal (.float x) = true
      ∧ (int ⟨9007199254740993, by decide, by decide⟩).equal
        (.int ⟨9007199254740992, by decide, by decide⟩) = false
      ∧ Scalar.double.ofValue (.int ⟨9007199254740993, by decide, by decide⟩) = .ok x
      ∧ x.toRat? = some ((9007199254740992 : Int) : ℚ) := by
  refine ⟨.ofInt binary64 9007199254740992, rfl, rfl, rfl, rfl, rfl, ?_⟩
  exact (BinaryFloat.toRat?_ofInt_binary64 (by decide)).2 ⟨1, 53, rfl, by decide⟩

end Value

end RecordSql
