import RecordSql.Schema.Catalog

/-!
# What catalogs answer

Asked for a type, a catalog answers with what it holds of it, or else with what looking into the
type gives. Asking for a type never changes what the catalog answers for any type: what is held
stays, and what is added is what looking into the type gave.
-/

set_option autoImplicit false

namespace RecordSql

namespace Catalog

variable {κ : Type} {ε : κ → Type} [DecidableEq κ]

/-- What a catalog answers for a type when `ask` is how types are looked into. -/
def answer (c : Catalog κ ε) (ask : (key : κ) → Except Fault (ε key)) (key : κ) :
    Except Fault (ε key) :=
  match c.lookup key with
  | some held => .ok held.item
  | none => ask key

/-- Asking a catalog gives its answer. -/
theorem result_get (c : Catalog κ ε) (ask : (key : κ) → Except Fault (ε key)) (key : κ) :
    (c.get key (ask key)).1.result.map Held.item = c.answer ask key := by
  unfold get answer
  cases hlookup : c.lookup key with
  | some held => rfl
  | none =>
    simp only [register, hlookup]
    cases ask key <;> rfl

/-- An entry at the end is found for its own type if there is none in front of it. -/
theorem findEntry_append (stamp place : Nat) (entries : List (CatalogEntry κ ε))
    (entry : CatalogEntry κ ε) (key : κ) :
    findEntry stamp key place (entries ++ [entry]) = match findEntry stamp key place entries with
      | some held => some held
      | none =>
        if h : entry.key = key then some ⟨stamp, place + entries.length, h ▸ entry.item⟩
        else none := by
  induction entries generalizing place with
  | nil => rfl
  | cons first entries ih =>
    rw [List.cons_append, findEntry, findEntry]
    by_cases h : first.key = key
    · rw [dif_pos h, dif_pos h]
    · rw [dif_neg h, dif_neg h, ih (place + 1), List.length_cons, Nat.add_right_comm,
        Nat.add_assoc place]

/-- Asking for a type changes no answer. -/
theorem answer_get (c : Catalog κ ε) (ask : (key : κ) → Except Fault (ε key)) (asked key : κ) :
    (c.get asked (ask asked)).2.answer ask key = c.answer ask key := by
  unfold get
  cases hlookup : c.lookup asked with
  | some held => rfl
  | none =>
    simp only [register, hlookup]
    cases hask : ask asked with
    | error fault => rfl
    | ok item =>
      unfold answer lookup
      simp only
      rw [findEntry_append]
      cases hfound : findEntry c.stamp key 0 c.entries with
      | some held => rfl
      | none =>
        by_cases heq : asked = key
        · -- The new entry is of the type asked for, and holds what looking into it gave.
          cases heq
          simp only [dite_true]
          exact hask.symm
        · simp only [heq, dite_false]

/-! ## What a catalog holds -/

/-- What is found stands at its place in the catalog. -/
theorem getElem?_of_findEntry {stamp place : Nat} {entries : List (CatalogEntry κ ε)} {key : κ}
    {held : Held (ε key)} (h : findEntry stamp key place entries = some held) :
    held.stamp = stamp ∧ ∃ n, held.place = place + n ∧ entries[n]? = some ⟨key, held.item⟩ := by
  induction entries generalizing place with
  | nil => cases h
  | cons entry entries ih =>
    rw [findEntry] at h
    by_cases heq : entry.key = key
    · cases heq
      rw [dif_pos rfl] at h
      cases h
      exact ⟨rfl, 0, rfl, rfl⟩
    · rw [dif_neg heq] at h
      obtain ⟨hstamp, n, hplace, hentry⟩ := ih h
      exact ⟨hstamp, n + 1, by omega, hentry⟩

/-- A type that is found is held at the place that is given for it. -/
theorem getElem?_of_lookup {c : Catalog κ ε} {key : κ} {held : Held (ε key)}
    (h : c.lookup key = some held) :
    held.stamp = c.stamp ∧ c.entries[held.place]? = some ⟨key, held.item⟩ := by
  obtain ⟨hstamp, n, hplace, hentry⟩ := getElem?_of_findEntry h
  rw [hplace, Nat.zero_add]
  exact ⟨hstamp, hentry⟩

/-- A type is not found if no entry is of it. -/
theorem lookup_eq_none_iff {c : Catalog κ ε} {key : κ} :
    c.lookup key = none ↔ key ∉ c.entries.map CatalogEntry.key := by
  have hfind (place : Nat) : findEntry c.stamp key place c.entries = none
      ↔ key ∉ c.entries.map CatalogEntry.key := by
    induction c.entries generalizing place with
    | nil => simp [findEntry]
    | cons entry entries ih =>
      rw [findEntry]
      by_cases heq : entry.key = key
      · simp [heq]
      · simp [heq, ih, Ne.symm heq]
  exact hfind 0

/-- Whatever is asked for, what a catalog holds stays as it is. -/
theorem lookup_register_of_eq_some {c : Catalog κ ε} {asked key : κ}
    {found : Except Fault (ε asked)} {held : Held (ε key)} (h : c.lookup key = some held) :
    (c.register asked found).2.lookup key = some held := by
  unfold register
  cases c.lookup asked with
  | some other => exact h
  | none =>
    cases found with
    | error fault => exact h
    | ok item =>
      unfold lookup at h ⊢
      simp only
      rw [findEntry_append, h]

/-- All that a registration can do: it finds the type, or it looks into the type and is refused or
adds an entry, which is found from then on. -/
theorem register_cases (c : Catalog κ ε) (key : κ) (found : Except Fault (ε key)) :
    (∃ held, c.lookup key = some held ∧ c.register key found = (.found held, c))
      ∨ (∃ fault, c.lookup key = none ∧ found = .error fault
        ∧ c.register key found = (.refused fault, c))
      ∨ ∃ item, c.lookup key = none ∧ found = .ok item
        ∧ c.register key found
          = (.added ⟨c.stamp, c.size, item⟩, ⟨c.stamp, c.entries ++ [⟨key, item⟩]⟩)
        ∧ (c.register key found).2.lookup key = some ⟨c.stamp, c.size, item⟩ := by
  cases hlookup : c.lookup key with
  | some held => exact .inl ⟨held, rfl, by simp only [register, hlookup]⟩
  | none =>
    cases found with
    | error fault => exact .inr (.inl ⟨fault, rfl, rfl, by simp only [register, hlookup]⟩)
    | ok item =>
      have hregister : c.register key (.ok item)
          = (.added ⟨c.stamp, c.size, item⟩, ⟨c.stamp, c.entries ++ [⟨key, item⟩]⟩) := by
        simp only [register, hlookup, size]
      refine .inr (.inr ⟨item, rfl, rfl, hregister, ?_⟩)
      unfold lookup at hlookup ⊢
      rw [hregister, findEntry_append, hlookup]
      simp [size]

/-- Asking for one type adds no other one. -/
theorem lookup_register_of_ne {c : Catalog κ ε} {asked key : κ} {found : Except Fault (ε asked)}
    (h : asked ≠ key) : (c.register asked found).2.lookup key = c.lookup key := by
  obtain ⟨held, -, heq⟩ | ⟨fault, -, -, heq⟩ | ⟨item, -, -, heq, -⟩ := c.register_cases asked found
  · rw [heq]
  · rw [heq]
  · rw [heq]
    unfold lookup
    rw [findEntry_append]
    cases findEntry c.stamp key 0 c.entries with
    | some held => rfl
    | none => simp [h]

end Catalog

end RecordSql
