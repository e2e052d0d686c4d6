/-!
# Positions under names

Where in a list the item with a name stands, noted while the list is put together. A name has at
most one position: noting another one replaces it and tells which it was, so whoever notes them
learns of a repetition.
-/

set_option autoImplicit false

namespace RecordSql

/-- Names with positions. -/
structure Positions where
  /-- The names, the one noted last in front; of two entries of one name the first counts. -/
  entries : List (String × Nat)
deriving DecidableEq

namespace Positions

/-- No positions yet. -/
def empty : Positions := ⟨[]⟩

/-- The position under a name. -/
def find? (p : Positions) (name : String) : Option Nat := p.entries.lookup name

/-- Notes a position under a name. The position that was there before is given back. -/
def insert (p : Positions) (name : String) (place : Nat) : Option Nat × Positions :=
  (p.find? name, ⟨(name, place) :: p.entries⟩)

/-- The item of a list that stands at the position under a name. -/
def item? {α : Type} (p : Positions) (items : List α) (name : String) : Option α :=
  (p.find? name).bind fun place => items[place]?

/-- A position that was noted is found under its name, and the others are found as before. -/
theorem find?_insert (p : Positions) (name other : String) (place : Nat) :
    (p.insert name place).2.find? other = if other = name then some place else p.find? other := by
  rw [insert, find?, List.lookup_cons]
  by_cases h : other = name
  · rw [if_pos h, h, beq_self_eq_true]
  · rw [if_neg h, beq_eq_false_iff_ne.2 h]
    rfl

/-- The positions are those of a list of names: a name is found where it stands in the list, and
what is not in the list is not found. -/
def Locates (p : Positions) (names : List String) : Prop :=
  ∀ name place, p.find? name = some place ↔ names[place]? = some name

variable {p : Positions} {names : List String}

/-- Without names there are no positions. -/
theorem locates_empty : empty.Locates [] := by
  intro name place
  constructor
  · intro h
    cases h
  · intro h
    cases h

namespace Locates

/-- A position that is found lies in the list. -/
theorem lt_length (h : p.Locates names) {name : String} {place : Nat}
    (hfind : p.find? name = some place) : place < names.length :=
  (List.getElem?_eq_some_iff.1 ((h name place).1 hfind)).1

/-- A name without a position is not in the list. -/
theorem find?_eq_none_iff (h : p.Locates names) {name : String} :
    p.find? name = none ↔ name ∉ names := by
  rw [List.mem_iff_getElem?, not_exists, Option.eq_none_iff_forall_ne_some]
  exact forall_congr' fun place => not_congr (h name place)

/-- No name is in the list twice. -/
theorem nodup (h : p.Locates names) : names.Nodup := by
  rw [List.Nodup, List.pairwise_iff_getElem]
  intro first second hfirst hsecond hlt hsame
  have hfind := (h names[first] first).2 (List.getElem?_eq_getElem hfirst)
  rw [hsame, (h names[second] second).2 (List.getElem?_eq_getElem hsecond), Option.some.injEq]
    at hfind
  omega

/-- A new name is noted at the end of the list. -/
theorem insert (h : p.Locates names) {name : String} (new : name ∉ names) :
    (p.insert name names.length).2.Locates (names ++ [name]) := by
  intro other place
  rw [find?_insert]
  by_cases hother : other = name
  · -- The name itself stands at the end and nowhere else.
    subst hother
    rw [if_pos rfl, Option.some.injEq]
    constructor
    · rintro rfl
      exact List.getElem?_concat_length
    · intro hplace
      by_cases hlt : place < names.length
      · rw [List.getElem?_append_left hlt] at hplace
        exact absurd (List.mem_of_getElem? hplace) new
      · have hend := (List.getElem?_eq_some_iff.1 hplace).1
        rw [List.length_append, List.length_singleton] at hend
        omega
  · rw [if_neg hother, h other place]
    by_cases hlt : place < names.length
    · rw [List.getElem?_append_left hlt]
    · have hold : names[place]? = none := List.getElem?_eq_none (Nat.le_of_not_lt hlt)
      rw [hold, List.getElem?_append_right (Nat.le_of_not_lt hlt)]
      constructor
      · intro hnone
        cases hnone
      · intro hfound
        exact absurd (List.mem_singleton.1 (List.mem_of_getElem? hfound)) hother

end Locates

/-- Whether positions are those of a list is told by the names that have one and those of the
list. -/
instance (p : Positions) (names : List String) : Decidable (p.Locates names) :=
  decidable_of_iff
    ((∀ entry ∈ p.entries, ∀ place ∈ p.find? entry.1, names[place]? = some entry.1)
      ∧ ∀ place : Fin names.length, p.find? (names.get place) = some place.val) <| by
    constructor
    · rintro ⟨hentries, hnames⟩ name place
      constructor
      · intro hfind
        obtain ⟨before, after, hentry, -⟩ := List.lookup_eq_some_iff.1 hfind
        have hmem : (name, place) ∈ p.entries := by
          rw [hentry]
          exact List.mem_append_right _ List.mem_cons_self
        exact hentries _ hmem place hfind
      · intro hplace
        obtain ⟨hlt, rfl⟩ := List.getElem?_eq_some_iff.1 hplace
        exact hnames ⟨place, hlt⟩
    · intro h
      refine ⟨fun entry _ place hplace => (h entry.1 place).1 hplace, fun place => ?_⟩
      exact (h _ _).2 (List.getElem?_eq_getElem place.isLt)

end Positions

end RecordSql
