import RecordSql.Proofs.Text.CaseTable

/-!
# What snake case keeps of a name

A name that begins with a letter from `A` to `Z` and has letters and digits of ASCII only is in
Pascal case, and it is found again from its snake case (`pascalCase_snakeCase`): an underscore
stands in front of every capital but the first and nowhere else. Of any other name snake case keeps
the capitals that have no lower-case form, and these alone make it change once more when it is put
into snake case again, as each gets another underscore unless it comes first.
-/

set_option autoImplicit false

namespace RecordSql

/-! ## Character by character -/

/-- The snake case of a list of characters. -/
def snakeChars : List Char → List Char
  | [] => []
  | c :: cs => snakeChar true c ++ cs.flatMap (snakeChar false)

/-- Snake case goes through the characters of a name. -/
@[simp]
theorem toList_snakeCase (name : String) : (snakeCase name).toList = snakeChars name.toList := by
  unfold snakeCase
  split
  · rename_i hname
    rw [hname]
    rfl
  · rename_i hname
    rw [hname, String.toList_ofList]
    rfl

/-- A character that is no capital is written as it is. -/
theorem snakeChar_of_not_isUppercase {isFirst : Bool} {c : Char} (h : isUppercase c = false) :
    snakeChar isFirst c = [c] := by
  rw [snakeChar, h]
  rfl

/-- A capital is written in lower case, behind an underscore unless it comes first. -/
theorem snakeChar_of_isUppercase {isFirst : Bool} {c : Char} (h : isUppercase c = true) :
    snakeChar isFirst c = (if isFirst then [] else ['_']) ++ lowercase c :=
  if_pos h

/-! ## Back to Pascal case -/

/-- A name in Pascal case. -/
structure PascalCase (name : String) : Prop where
  /-- The first character is a letter from `A` to `Z`. -/
  first : ∃ c ∈ name.toList.head?, c.isUpper = true
  /-- All characters are letters and digits of ASCII. -/
  alphanumeric : ∀ c ∈ name.toList, c.isAlphanum = true

/-- A text without its underscores, with every letter behind one in upper case, and the first letter
too if `capital` says so. -/
def joinWords (capital : Bool) : List Char → List Char
  | [] => []
  | c :: cs =>
    if c = '_' then joinWords true cs
    else (if capital then c.toUpper else c) :: joinWords false cs

/-- The Pascal case of a name in snake case: its words without the underscores between them, each
with its first letter in upper case. -/
def pascalCase (name : String) : String := String.ofList (joinWords true name.toList)

/-- A character other than an underscore goes on with its word. -/
theorem joinWords_cons_of_ne {capital : Bool} {c : Char} {cs : List Char} (h : c ≠ '_') :
    joinWords capital (c :: cs) = (if capital then c.toUpper else c) :: joinWords false cs :=
  if_neg h

/-- Letters and digits of ASCII are below the accented letters. -/
theorem toNat_lt_of_isAlphanum {c : Char} (h : c.isAlphanum = true) : c.toNat < 0x80 := by
  have hkinds : c.isAlphanum = (c.isUpper || c.isLower || c.isDigit) := rfl
  have hnine : '9'.toNat = 0x39 := rfl
  rw [hkinds, Bool.or_eq_true, Bool.or_eq_true] at h
  rcases h with (hupper | hlower) | hdigit
  · have hlast := (isUpper_iff_toNat.1 hupper).2
    omega
  · have hlast := (isLower_iff_toNat.1 hlower).2
    omega
  · have hlast := (Char.isDigit_iff_toNat.1 hdigit).2
    omega

section Words

variable {c : Char} {cs : List Char}

/-- A capital that begins a word is found again behind an underscore or at the beginning. -/
theorem joinWords_toLower (h : c.isUpper = true) :
    joinWords true (c.toLower :: cs) = c :: joinWords false cs := by
  have hne : c.toLower ≠ '_' := by
    intro hunderscore
    have hsame := toUpper_toLower_of_isUpper h
    rw [hunderscore] at hsame
    rw [← hsame] at h
    cases h
  rw [joinWords_cons_of_ne hne, if_pos rfl, toUpper_toLower_of_isUpper h]

/-- At the beginning a capital is found again. -/
theorem joinWords_snakeChar_true (h : c.isUpper = true) :
    joinWords true (snakeChar true c ++ cs) = c :: joinWords false cs := by
  have hupper : isUppercase c = true := by
    rw [isUppercase_of_lt, h]
    have hlast := (isUpper_iff_toNat.1 h).2
    omega
  rw [snakeChar_of_isUppercase hupper, lowercase_of_isUpper h]
  exact joinWords_toLower h

/-- Inside of a name a letter or digit is found again whether it begins a word or goes on with
one. -/
theorem joinWords_snakeChar_false (h : c.isAlphanum = true) :
    joinWords false (snakeChar false c ++ cs) = c :: joinWords false cs := by
  have hsame : isUppercase c = c.isUpper :=
    isUppercase_of_lt (by have hlt := toNat_lt_of_isAlphanum h; omega)
  cases hc : c.isUpper with
  | true =>
    rw [snakeChar_of_isUppercase (hsame.trans hc), lowercase_of_isUpper hc]
    exact joinWords_toLower hc
  | false =>
    have hne : c ≠ '_' := by
      rintro rfl
      cases h
    rw [snakeChar_of_not_isUppercase (hsame.trans hc)]
    exact joinWords_cons_of_ne hne

/-- A text of letters and digits is found again inside of a name. -/
theorem joinWords_flatMap (h : ∀ c ∈ cs, c.isAlphanum = true) :
    joinWords false (cs.flatMap (snakeChar false)) = cs := by
  induction cs with
  | nil => rfl
  | cons c cs ih =>
    rw [List.forall_mem_cons] at h
    rw [List.flatMap_cons, joinWords_snakeChar_false h.1, ih h.2]

end Words

/-- A name in Pascal case is found again from its snake case. -/
theorem pascalCase_snakeCase {name : String} (h : PascalCase name) :
    pascalCase (snakeCase name) = name := by
  obtain ⟨⟨c, hfirst, hc⟩, hall⟩ := h
  obtain ⟨cs, hname⟩ : ∃ cs, name.toList = c :: cs := by
    exact List.head?_eq_some_iff.1 hfirst
  rw [hname, List.forall_mem_cons] at hall
  rw [pascalCase, toList_snakeCase, hname, snakeChars, joinWords_snakeChar_true hc,
    joinWords_flatMap hall.2, ← hname, String.ofList_toList]

/-- Names in Pascal case with one snake case are the same. -/
theorem snakeCase_inj {a b : String} (ha : PascalCase a) (hb : PascalCase b) :
    snakeCase a = snakeCase b ↔ a = b := by
  constructor
  · intro h
    rw [← pascalCase_snakeCase ha, ← pascalCase_snakeCase hb, h]
  · rintro rfl
    rfl

/-! ## Capitals that stay -/

section Capitals

variable {isFirst : Bool} {c : Char} {cs : List Char}

/-- No character vanishes in snake case. -/
theorem snakeChar_ne_nil (isFirst : Bool) (c : Char) : snakeChar isFirst c ≠ [] := by
  cases hc : isUppercase c with
  | false =>
    rw [snakeChar_of_not_isUppercase hc]
    exact List.cons_ne_nil c []
  | true =>
    rw [snakeChar_of_isUppercase hc]
    exact List.append_ne_nil_of_right_ne_nil _ (lowercase_ne_nil c)

/-- A capital without a lower-case form stays, behind an underscore unless it comes first. -/
theorem snakeChar_of_isFixedCapital (h : isFixedCapital c = true) :
    snakeChar isFirst c = (if isFirst then [] else ['_']) ++ [c] := by
  obtain ⟨hupper, hlower⟩ := isFixedCapital_eq_true_iff.1 h
  rw [snakeChar_of_isUppercase hupper, hlower]

/-- Of the characters that a character is written with only the character itself can be a capital,
and it is one exactly if it has no lower-case form. -/
theorem filter_snakeChar (isFirst : Bool) (c : Char) :
    (snakeChar isFirst c).filter isUppercase = if isFixedCapital c then [c] else [] := by
  have hmark : isUppercase '_' = false := isUppercase_of_lt (by decide)
  cases hc : isUppercase c with
  | false =>
    have hfixed : isFixedCapital c = false := by simp [isFixedCapital, hc]
    rw [snakeChar_of_not_isUppercase hc]
    simp [hc, hfixed]
  | true =>
    cases hfixed : isFixedCapital c with
    | true =>
      rw [snakeChar_of_isFixedCapital hfixed]
      cases isFirst <;> simp [hc, hmark]
    | false =>
      have hlower : (lowercase c).filter isUppercase = [] := by
        rw [List.filter_eq_nil_iff]
        intro d hd
        simp [isUppercase_of_mem_lowercase hfixed hc hd]
      rw [snakeChar_of_isUppercase hc, List.filter_append, hlower]
      cases isFirst <;> simp [hmark]

/-- What is left of the capitals in a text that goes on with a name. -/
theorem filter_flatMap_snakeChar (cs : List Char) :
    (cs.flatMap (snakeChar false)).filter isUppercase = cs.filter isFixedCapital := by
  induction cs with
  | nil => rfl
  | cons c cs ih =>
    rw [List.flatMap_cons, List.filter_append, filter_snakeChar, ih, List.filter_cons]
    cases isFixedCapital c <;> rfl

/-- The capitals in the snake case of a text are those of its capitals that have no lower-case
form, in their order. -/
theorem filter_snakeChars (cs : List Char) :
    (snakeChars cs).filter isUppercase = cs.filter isFixedCapital := by
  cases cs with
  | nil => rfl
  | cons c cs =>
    rw [snakeChars, List.filter_append, filter_snakeChar, filter_flatMap_snakeChar,
      List.filter_cons]
    cases isFixedCapital c <;> rfl

/-- Every capital beyond the first character makes a text longer. -/
theorem length_add_countP_le (cs : List Char) :
    cs.length + cs.countP isUppercase ≤ (cs.flatMap (snakeChar false)).length := by
  induction cs with
  | nil => exact Nat.le_refl 0
  | cons c cs ih =>
    rw [List.flatMap_cons, List.length_append, List.length_cons]
    cases hc : isUppercase c with
    | false =>
      rw [List.countP_cons_of_neg (by simp [hc]), snakeChar_of_not_isUppercase hc,
        List.length_singleton]
      omega
    | true =>
      have hpos : 0 < (lowercase c).length := List.length_pos_of_ne_nil (lowercase_ne_nil c)
      rw [List.countP_cons_of_pos hc, snakeChar_of_isUppercase hc]
      simp only [Bool.false_eq_true, if_false, List.singleton_append, List.length_cons]
      omega

/-- A text without capitals goes on as it is. -/
theorem flatMap_snakeChar_of_not_isUppercase (h : ∀ c ∈ cs, isUppercase c = false) :
    cs.flatMap (snakeChar false) = cs := by
  calc cs.flatMap (snakeChar false) = cs.flatMap fun c => [c] :=
        List.flatMap_congr fun c hc => snakeChar_of_not_isUppercase (h c hc)
    _ = cs := List.flatMap_singleton' cs

end Capitals

/-! ## Texts that snake case leaves as they are -/

/-- A text that snake case leaves as it is: it has no capital, save that the first character may be
a capital without a lower-case form. -/
structure IsSnakeCase (cs : List Char) : Prop where
  /-- A capital at the beginning has no lower-case form. -/
  head : ∀ c ∈ cs.head?, isUppercase c = true → isFixedCapital c = true
  /-- There is no other capital. -/
  tail : ∀ c ∈ cs.tail, isUppercase c = false

/-- A text is left as it is exactly if it has the form that snake case gives it. -/
theorem snakeChars_eq_self_iff {cs : List Char} : snakeChars cs = cs ↔ IsSnakeCase cs := by
  cases cs with
  | nil => exact iff_of_true rfl ⟨fun _ h => (nomatch h), fun _ h => (nomatch h)⟩
  | cons c cs =>
    constructor
    · intro h
      -- Nothing is shorter than it was, so a character takes one place and a capital no other.
      have hlength := congrArg List.length h
      have hrest := length_add_countP_le cs
      have hfirst := List.length_pos_of_ne_nil (snakeChar_ne_nil true c)
      rw [snakeChars, List.length_append, List.length_cons] at hlength
      have htail : ∀ d ∈ cs, isUppercase d = false := by
        have hcount : cs.countP isUppercase = 0 := by omega
        simpa using hcount
      rw [snakeChars, flatMap_snakeChar_of_not_isUppercase htail] at h
      have hsame : snakeChar true c = [c] := (List.append_left_inj cs).1 h
      refine ⟨?_, htail⟩
      rintro _ ⟨⟩ hc
      rw [snakeChar_of_isUppercase hc] at hsame
      exact isFixedCapital_eq_true_iff.2 ⟨hc, hsame⟩
    · rintro ⟨hhead, htail⟩
      rw [List.tail_cons] at htail
      have hsame : snakeChar true c = [c] := by
        cases hc : isUppercase c with
        | false => exact snakeChar_of_not_isUppercase hc
        | true => exact snakeChar_of_isFixedCapital (hhead c rfl hc)
      rw [snakeChars, hsame, flatMap_snakeChar_of_not_isUppercase htail]
      rfl

/-- A capital that is left in snake case has no lower-case form. -/
theorem isFixedCapital_of_mem_snakeChars {c : Char} {cs : List Char} (h : c ∈ snakeChars cs)
    (hc : isUppercase c = true) : isFixedCapital c = true := by
  have hmem : c ∈ (snakeChars cs).filter isUppercase := List.mem_filter.2 ⟨h, hc⟩
  rw [filter_snakeChars] at hmem
  exact (List.mem_filter.1 hmem).2

/-- What is left of the capitals behind the first character. -/
theorem filter_tail_snakeChars (cs : List Char) :
    (snakeChars cs).tail.filter isUppercase = cs.tail.filter isFixedCapital := by
  cases cs with
  | nil => rfl
  | cons c cs =>
    have hfirst : (snakeChar true c).tail.filter isUppercase = [] := by
      cases hfixed : isFixedCapital c with
      | true =>
        rw [snakeChar_of_isFixedCapital hfixed]
        rfl
      | false =>
        have hnone := filter_snakeChar true c
        rw [hfixed, if_neg Bool.false_ne_true] at hnone
        exact List.eq_nil_of_sublist_nil (hnone ▸ (List.tail_sublist _).filter isUppercase)
    rw [snakeChars, List.tail_append_of_ne_nil (snakeChar_ne_nil true c), List.filter_append,
      hfirst, filter_flatMap_snakeChar]
    rfl

/-- The snake case of a text is left as it is by snake case exactly if no capital of the text
beyond the first character is without a lower-case form. -/
theorem isSnakeCase_snakeChars_iff {cs : List Char} :
    IsSnakeCase (snakeChars cs) ↔ ∀ c ∈ cs.tail, isFixedCapital c = false := by
  have htail : (∀ c ∈ (snakeChars cs).tail, isUppercase c = false)
      ↔ ∀ c ∈ cs.tail, isFixedCapital c = false := by
    have hsame := filter_tail_snakeChars cs
    constructor
    · intro h
      rw [List.filter_eq_nil_iff.2 (by simpa using h), eq_comm, List.filter_eq_nil_iff] at hsame
      simpa using hsame
    · intro h
      rw [List.filter_eq_nil_iff (p := isFixedCapital).2 (by simpa using h),
        List.filter_eq_nil_iff] at hsame
      simpa using hsame
  rw [← htail]
  constructor
  · exact IsSnakeCase.tail
  · intro h
    refine ⟨?_, h⟩
    intro c hc
    exact isFixedCapital_of_mem_snakeChars (List.mem_of_mem_head? hc)

/-- Snake case writes every capital that has a lower-case form in lower case: the capitals that are
left are those that have none, in their order. Put into snake case once more a name stays the same
exactly if no such capital stands behind its first character, and a name is left as it is from the
start exactly if it has no other capital and none behind its first character. -/
theorem snakeCase_lowers_what_has_lower_case (name : String) :
    (snakeCase name).toList.filter isUppercase = name.toList.filter isFixedCapital
      ∧ (snakeCase (snakeCase name) = snakeCase name
        ↔ ∀ c ∈ name.toList.tail, isFixedCapital c = false)
      ∧ (snakeCase name = name ↔ IsSnakeCase name.toList) := by
  refine ⟨?capitals, ?again, ?once⟩
  case capitals =>
    rw [toList_snakeCase, filter_snakeChars]
  case again =>
    rw [← String.toList_inj, toList_snakeCase (snakeCase name), toList_snakeCase,
      snakeChars_eq_self_iff, isSnakeCase_snakeChars_iff]
  case once =>
    rw [← String.toList_inj, toList_snakeCase, snakeChars_eq_self_iff]

/-- A capital without a lower-case form is a capital still, and its name changes once more. -/
theorem snakeCase_drifts :
    (∃ c ∈ (snakeCase "a\u2102").toList, isUppercase c = true)
      ∧ snakeCase (snakeCase "a\u2102") ≠ snakeCase "a\u2102" := by
  have honce : snakeCase "a\u2102" = "a_\u2102" := rfl
  have htwice : snakeCase "a_\u2102" = "a__\u2102" := rfl
  rw [honce, htwice]
  exact ⟨⟨'\u2102', by decide, by decide +kernel⟩, by decide⟩

end RecordSql
