import RecordSql.Schema.Table
import Mathlib.Data.List.Basic

/-!
# Which tags are read

A tag is well-formed when each of its pieces has one equals sign. Only such tags are read, and what
is wrong with any other one is its first piece with another number of equals signs; an empty piece,
as at the end of a tag after a comma, has none.
-/

set_option autoImplicit false

namespace RecordSql

/-- A text has one piece more than separators. -/
theorem length_pieces (separator : Char) (cs : List Char) :
    (pieces separator cs).length = cs.count separator + 1 := by
  induction cs with
  | nil => rfl
  | cons c cs ih =>
    rw [pieces]
    by_cases hc : c = separator
    · rw [if_pos hc, List.length_cons, ih, hc, List.count_cons_self]
    · rw [if_neg hc, List.count_cons_of_ne hc]
      cases hpieces : pieces separator cs with
      | nil =>
        rw [hpieces] at ih
        cases ih
      | cons first others =>
        rw [hpieces] at ih
        exact ih

namespace Tag

/-- Whether every piece of a tag is a key and a value. -/
def WellFormed (tag : String) : Prop := ∀ piece ∈ pieces ',' tag.toList, piece.count '=' = 1

/-- The first piece of a tag that is not a key and a value. -/
def malformed? (tag : String) : Option (List Char) :=
  (pieces ',' tag.toList).find? fun piece => piece.count '=' != 1

/-- A tag without a malformed piece is well-formed. -/
theorem malformed?_eq_none_iff {tag : String} : malformed? tag = none ↔ WellFormed tag := by
  simp [malformed?, WellFormed]

/-- A piece with one equals sign is a setting. -/
theorem exists_setting {piece : List Char} (h : piece.count '=' = 1) :
    ∃ s, setting piece = .ok s := by
  have hlength := length_pieces '=' piece
  rw [h] at hlength
  obtain ⟨key, value, hpieces⟩ := List.length_eq_two.1 hlength
  simp only [setting, hpieces]
  exact ⟨_, rfl⟩

/-- Any other piece is at fault. -/
theorem setting_eq_error {piece : List Char} (h : piece.count '=' ≠ 1) :
    setting piece = .error (.invalidTag (String.ofList piece)) := by
  have hlength := length_pieces '=' piece
  unfold setting
  split
  · rename_i key value hpieces
    rw [hpieces, List.length_cons, List.length_singleton] at hlength
    omega
  · rfl

/-- Reading a tag fails with its first piece that is not a key and a value, or there is none. -/
theorem parse_cases (tag : String) :
    (∃ piece, malformed? tag = some piece
        ∧ parse tag = .error (.invalidTag (String.ofList piece)))
      ∨ malformed? tag = none ∧ ∃ settings, parse tag = .ok settings := by
  unfold malformed? parse
  induction pieces ',' tag.toList with
  | nil => exact .inr ⟨rfl, [], rfl⟩
  | cons piece others ih =>
    rw [List.mapM_cons]
    by_cases hpiece : piece.count '=' = 1
    · obtain ⟨s, hs⟩ := exists_setting hpiece
      rw [hs, List.find?_cons_of_neg (by simp [hpiece])]
      obtain ⟨first, hfirst, herror⟩ | ⟨hnone, settings, hok⟩ := ih
      · exact .inl ⟨first, hfirst, by rw [herror]; rfl⟩
      · exact .inr ⟨hnone, s :: settings, by rw [hok]; rfl⟩
    · rw [setting_eq_error hpiece, List.find?_cons_of_pos (by simp [hpiece])]
      exact .inl ⟨piece, rfl, rfl⟩

end Tag

namespace FieldDecl

/-- Whether the tag of a field, if it has one, is well-formed. -/
def TagWellFormed (decl : FieldDecl) : Prop := ∀ tag, decl.tag = some tag → Tag.WellFormed tag

/-- A field has a column unless its tag is at fault. -/
theorem column_cases (decl : FieldDecl) :
    (∃ tag piece, decl.tag = some tag ∧ Tag.malformed? tag = some piece
        ∧ decl.column = .error (.invalidTag (String.ofList piece)))
      ∨ decl.TagWellFormed ∧ ∃ column, decl.column = .ok column := by
  unfold column TagWellFormed
  cases htag : decl.tag with
  | none => exact .inr ⟨fun _ h => (nomatch h), snakeCase decl.ident, rfl⟩
  | some tag =>
    obtain ⟨piece, hpiece, herror⟩ | ⟨hnone, settings, hok⟩ := Tag.parse_cases tag
    · refine .inl ⟨tag, piece, rfl, hpiece, ?_⟩
      simp only [herror]
      rfl
    · refine .inr ⟨?_, ?_⟩
      · rintro _ ⟨rfl⟩
        exact Tag.malformed?_eq_none_iff.1 hnone
      · simp only [hok, bind, Except.bind]
        cases Tag.last? Tag.columnKey settings with
        | none => exact ⟨snakeCase decl.ident, rfl⟩
        | some name => exact ⟨if name.isEmpty then snakeCase decl.ident else name, rfl⟩

end FieldDecl

end RecordSql
