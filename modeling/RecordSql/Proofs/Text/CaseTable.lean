import RecordSql.Text.SnakeCase
import Mathlib.Data.List.Basic

/-!
# Capitals and their lower-case forms

What the table of upper-case characters says of all of them. The lower-case form of a capital is
not a capital itself, save for the capitals that have none and stay as they are (`isFixedCapital`);
both kinds are told apart by the shifts of their runs. Below the accented letters the table has the
letters from `A` to `Z` only, so there it agrees with the capitals of ASCII.
-/

set_option autoImplicit false

namespace RecordSql

namespace CaseRun

/-! ## Runs that have no character in common -/

/-- The characters of a run by their distance from the first one. -/
theorem contains_iff {run : CaseRun} {code : Nat} :
    run.contains code = true
      ↔ run.first ≤ code ∧ code ≤ run.last ∧ (code - run.first) % run.step = 0 := by
  simp [contains, and_assoc]

/-- The lower-case forms of the characters of a run. -/
def lowered (run : CaseRun) : CaseRun :=
  ⟨(run.first + run.shift).toNat, (run.last + run.shift).toNat, run.step, 0⟩

/-- Whether two runs are apart: one ends before the other begins, or each takes every second
character, one the even and the other the odd ones. -/
def apart (run other : CaseRun) : Bool :=
  Nat.blt run.last other.first || Nat.blt other.last run.first
    || Nat.beq run.step 2 && Nat.beq other.step 2 && Nat.beq ((run.first + other.first) % 2) 1

/-- No character belongs to two runs that are apart. -/
theorem contains_eq_false_of_apart {run other : CaseRun} (h : run.apart other = true) {code : Nat}
    (hcode : run.contains code = true) : other.contains code = false := by
  obtain ⟨hfirst, hlast, hstep⟩ := contains_iff.1 hcode
  rw [Bool.eq_false_iff, Ne, contains_iff]
  rintro ⟨hotherFirst, hotherLast, hotherStep⟩
  simp only [apart, Bool.or_eq_true, Bool.and_eq_true, Nat.blt_eq, Nat.beq_eq] at h
  obtain (hbefore | hafter) | ⟨⟨htwo, hotherTwo⟩, hparity⟩ := h
  · omega
  · omega
  · rw [htwo] at hstep
    rw [hotherTwo] at hotherStep
    omega

/-- The lower-case form of a character of a run is in the run of the lower-case forms. -/
theorem contains_lowered {run : CaseRun} (hnonneg : 0 ≤ run.first + run.shift) {code : Nat}
    (h : run.contains code = true) : run.lowered.contains (code + run.shift).toNat = true := by
  obtain ⟨hfirst, hlast, hstep⟩ := contains_iff.1 h
  have hdistance : (code + run.shift).toNat - (run.first + run.shift).toNat
      = code - run.first := by
    omega
  rw [contains_iff]
  refine ⟨?_, ?_, ?_⟩
  · exact Int.toNat_le_toNat (by omega)
  · exact Int.toNat_le_toNat (by omega)
  · rw [lowered, hdistance]
    exact hstep

/-! ## The runs of the table -/

/-- No shift leads below zero. -/
theorem first_add_shift_nonneg : ∀ run ∈ all, 0 ≤ run.first + run.shift := by
  decide +kernel

/-- Zero is the code of no capital. -/
theorem first_pos : ∀ run ∈ all, 0 < run.first := by
  decide +kernel

/-- The letters from `A` to `Z`. -/
def latin : CaseRun := ⟨0x41, 0x5A, 1, 32⟩

/-- Behind its first run the table begins with the accented letters. -/
theorem le_first_of_mem_tail : ∀ run ∈ all.tail, 0xC0 ≤ run.first := by
  decide +kernel

/-- Lower-case forms are apart from all capitals. Every pair of runs is compared, by operations on
numbers that the kernel carries out at once. -/
theorem all_lowered_apart :
    all.all (fun run => run.shift == 0 || all.all run.lowered.apart) = true := by
  decide +kernel

/-- The lower-case forms of a run that has any are apart from all runs of capitals. -/
theorem lowered_apart {run other : CaseRun} (hrun : run ∈ all) (hshift : run.shift ≠ 0)
    (hother : other ∈ all) : run.lowered.apart other = true := by
  have hall := List.all_eq_true.1 all_lowered_apart run hrun
  rw [Bool.or_eq_true, beq_iff_eq] at hall
  exact List.all_eq_true.1 (hall.resolve_left hshift) other hother

end CaseRun

/-! ## Capitals -/

variable {c d : Char}

/-- A capital belongs to a run. -/
theorem isUppercase_eq_true_iff :
    isUppercase c = true ↔ ∃ run ∈ CaseRun.all, run.contains c.toNat = true :=
  List.find?_isSome

/-- Any other character belongs to none. -/
theorem isUppercase_eq_false_iff :
    isUppercase c = false ↔ ∀ run ∈ CaseRun.all, run.contains c.toNat = false := by
  rw [Bool.eq_false_iff, Ne, isUppercase_eq_true_iff]
  simp

/-- Whether a character is a capital without a lower-case form, such as the double-struck letters:
in lower case it stays as it is. -/
def isFixedCapital (c : Char) : Bool := isUppercase c && lowercase c == [c]

/-- A capital without a lower-case form is one that is its own. -/
theorem isFixedCapital_eq_true_iff :
    isFixedCapital c = true ↔ isUppercase c = true ∧ lowercase c = [c] := by
  simp [isFixedCapital]

/-- The character of a code has this code, or there is none and it is the one with code zero. -/
theorem toNat_ofNat_cases (code : Nat) :
    (Char.ofNat code).toNat = code ∨ (Char.ofNat code).toNat = 0 := by
  by_cases h : code.isValidChar
  · left
    rw [Char.ofNat, dif_pos h]
    rfl
  · right
    rw [Char.ofNat, dif_neg h]
    rfl

/-- A character whose code is the lower-case form of a code of a run is no capital. Where there is
no such character it is the one with code zero, which is none either. -/
theorem isUppercase_ofNat_shift {run : CaseRun} (hrun : run ∈ CaseRun.all) (hshift : run.shift ≠ 0)
    {code : Nat} (hcode : run.contains code = true) :
    isUppercase (Char.ofNat (code + run.shift).toNat) = false := by
  rw [isUppercase_eq_false_iff]
  intro other hother
  have hlowered : run.lowered.contains (code + run.shift).toNat = true :=
    CaseRun.contains_lowered (CaseRun.first_add_shift_nonneg run hrun) hcode
  obtain hsame | hzero := toNat_ofNat_cases (code + run.shift).toNat
  · rw [hsame]
    exact CaseRun.contains_eq_false_of_apart (CaseRun.lowered_apart hrun hshift hother) hlowered
  · have hpos := CaseRun.first_pos other hother
    rw [hzero, Bool.eq_false_iff, Ne, CaseRun.contains_iff]
    omega

/-- A capital stays as it is in lower case, or no character of its lower-case form is a capital. -/
theorem lowercase_cases (h : isUppercase c = true) :
    lowercase c = [c] ∨ ∀ d ∈ lowercase c, isUppercase d = false := by
  obtain ⟨run, hrun⟩ := Option.isSome_iff_exists.1 h
  have hmem : run ∈ CaseRun.all := List.mem_of_find?_eq_some hrun
  have hcode : run.contains c.toNat = true := by simpa using List.find?_some hrun
  unfold lowercase
  split
  · right
    rw [List.forall_mem_cons, List.forall_mem_singleton]
    exact ⟨isUppercase_eq_false_iff.2 (by decide +kernel),
      isUppercase_eq_false_iff.2 (by decide +kernel)⟩
  · rw [hrun]
    by_cases hshift : run.shift = 0
    · left
      simp [hshift]
    · right
      intro d hd
      rw [List.mem_singleton.1 hd]
      exact isUppercase_ofNat_shift hmem hshift hcode

/-- The lower-case form of a capital that has one is no capital. -/
theorem isUppercase_of_mem_lowercase (h : isFixedCapital c = false) (hc : isUppercase c = true)
    (hd : d ∈ lowercase c) : isUppercase d = false := by
  obtain hfixed | hnone := lowercase_cases hc
  · rw [isFixedCapital_eq_true_iff.2 ⟨hc, hfixed⟩] at h
    cases h
  · exact hnone d hd

/-- No character vanishes in lower case. -/
theorem lowercase_ne_nil (c : Char) : lowercase c ≠ [] := by
  unfold lowercase
  split
  · exact List.cons_ne_nil _ _
  · split <;> exact List.cons_ne_nil _ _

/-! ## The letters of ASCII -/

/-- The capitals of ASCII by their codes. -/
theorem isUpper_iff_toNat : c.isUpper = true ↔ 0x41 ≤ c.toNat ∧ c.toNat ≤ 0x5A :=
  decide_eq_true_iff

/-- The small letters of ASCII by their codes. -/
theorem isLower_iff_toNat : c.isLower = true ↔ 0x61 ≤ c.toNat ∧ c.toNat ≤ 0x7A :=
  Bool.and_eq_true_iff.trans (and_congr decide_eq_true_iff decide_eq_true_iff)

/-- The capitals of ASCII one by one. -/
theorem exists_of_isUpper (h : c.isUpper = true) : ∃ n < 26, c = Char.ofNat (0x41 + n) := by
  obtain ⟨hfirst, hlast⟩ := isUpper_iff_toNat.1 h
  refine ⟨c.toNat - 0x41, by omega, ?_⟩
  rw [Nat.add_sub_cancel' hfirst, Char.ofNat_toNat]

/-- Below the accented letters only the letters from `A` to `Z` are capitals. -/
theorem caseRun?_of_lt (h : c.toNat < 0xC0) :
    caseRun? c = if c.isUpper then some CaseRun.latin else none := by
  have hothers : CaseRun.all.tail.find? (fun run => run.contains c.toNat) = none := by
    rw [List.find?_eq_none]
    intro run hrun
    have hfirst := CaseRun.le_first_of_mem_tail run hrun
    rw [CaseRun.contains_iff]
    omega
  have hlatin : CaseRun.latin.contains c.toNat = c.isUpper := by
    rw [Bool.eq_iff_iff, CaseRun.contains_iff, isUpper_iff_toNat]
    simp [CaseRun.latin, Nat.mod_one]
  change (CaseRun.latin :: CaseRun.all.tail).find? (fun run => run.contains c.toNat) = _
  rw [List.find?_cons, hothers, hlatin]
  cases c.isUpper <;> rfl

/-- So there a character is upper case exactly if it is so in ASCII. -/
theorem isUppercase_of_lt (h : c.toNat < 0xC0) : isUppercase c = c.isUpper := by
  rw [isUppercase, caseRun?_of_lt h]
  cases c.isUpper <;> rfl

/-- A capital of ASCII has the lower-case form that it has in ASCII. -/
theorem lowercase_of_isUpper (h : c.isUpper = true) : lowercase c = [c.toLower] := by
  obtain ⟨n, hn, rfl⟩ := exists_of_isUpper h
  revert n
  decide

/-- It is found again from its lower-case form. -/
theorem toUpper_toLower_of_isUpper (h : c.isUpper = true) : c.toLower.toUpper = c := by
  obtain ⟨n, hn, rfl⟩ := exists_of_isUpper h
  revert n
  decide

end RecordSql
