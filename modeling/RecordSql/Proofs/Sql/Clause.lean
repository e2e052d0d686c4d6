import RecordSql.Proofs.Sql.Legible
import RecordSql.Proofs.Sql.Precedence

/-!
# The grammar of statements

The four kinds of statements, read clause by clause from their tokens. Lists have commas between
their items, a row of values stands in parentheses, a condition is an expression, and a semicolon
is all that may be left at the end.
-/

set_option autoImplicit false

namespace RecordSql.Sql

variable {α β : Type}

/-- What a statement says, with `α` in the places of its arguments. -/
inductive Clauses (α : Type) where
  /-- The columns to read, the table, and the condition if there is one. -/
  | select (columns : List (Phrase α)) (table : String) (condition : Option (Phrase α))
  /-- The table, the columns to write, and the rows. -/
  | insert (table : String) (columns : List String) (rows : List (List α))
  /-- The table, the columns to change with their new values, and the condition if there is
  one. -/
  | update (table : String) (assignments : List (String × α)) (condition : Option (Phrase α))
  /-- The table, and the condition if there is one. -/
  | delete (table : String) (condition : Option (Phrase α))

/-! ## Readers -/

/-- Whether a token is a comma. -/
def isComma : Token α → Bool
  | .comma => true
  | _ => false

/-- Reads items with commas between them; there must be one. -/
def readCommas (item : Reader α β) : Reader α (List β) := fun tokens =>
  match item tokens with
  | none => none
  | some (first, rest) => readMore isComma item (fun read next => read ++ [next]) [first] rest

/-- Reads a column, or a function applied to one. -/
def readProjected : Reader α (Phrase α)
  | .name column :: rest => some (.column column, rest)
  | .function f :: .opening :: .name column :: .closing :: rest => some (.call f column, rest)
  | _ => none

/-- Reads a name. -/
def readName : Reader α String
  | .name ident :: rest => some (ident, rest)
  | _ => none

/-- Reads the place of an argument. -/
def readValue : Reader α α
  | .value a :: rest => some (a, rest)
  | _ => none

/-- Reads a row of values in parentheses. -/
def readRow : Reader α (List α)
  | .opening :: tokens =>
    match readCommas readValue tokens with
    | some (row, .closing :: rest) => some (row, rest)
    | _ => none
  | _ => none

/-- Reads a column with the value it is set to. -/
def readAssignment : Reader α (String × α)
  | .name column :: .operator .eq :: .value a :: rest => some ((column, a), rest)
  | _ => none

/-- Reads the condition of a statement, if there is one. -/
def readCondition (depth : Nat) : Reader α (Option (Phrase α))
  | .keyword .filter :: tokens =>
    (readExpression depth tokens).map fun (phrase, rest) => (some phrase, rest)
  | tokens => some (none, tokens)

/-- Reads a statement in whose condition parentheses are nested less than `depth` deep. -/
def readStatement (depth : Nat) : Reader α (Clauses α)
  | .keyword .select :: tokens =>
    match readCommas readProjected tokens with
    | some (columns, .keyword .source :: .name table :: rest) =>
      (readCondition depth rest).map fun (condition, rest) =>
        (.select columns table condition, rest)
    | _ => none
  | .keyword .insert :: .keyword .into :: .name table :: .opening :: tokens =>
    match readCommas readName tokens with
    | some (columns, .closing :: .keyword .values :: rest) =>
      (readCommas readRow rest).map fun (rows, rest) => (.insert table columns rows, rest)
    | _ => none
  | .keyword .update :: .name table :: .keyword .set :: tokens =>
    match readCommas readAssignment tokens with
    | none => none
    | some (assignments, rest) =>
      (readCondition depth rest).map fun (condition, rest) =>
        (.update table assignments condition, rest)
  | .keyword .delete :: .keyword .source :: .name table :: rest =>
    (readCondition depth rest).map fun (condition, rest) => (.delete table condition, rest)
  | _ => none

/-- The clauses that a whole list of tokens is, up to the semicolon at its end. -/
def Clauses.read? (tokens : List (Token α)) : Option (Clauses α) :=
  match readStatement (tokens.length + 1) tokens with
  | some (clauses, [.semicolon]) => some clauses
  | _ => none

/-! ## Lists with commas -/

/-- Further items are read behind their commas, up to what is no comma. -/
theorem readMore_commas {item : Reader α β} {tokens : List (List (Token α))} {items : List β}
    (h : List.Forall₂ (fun ts x => ∀ rest, item (ts ++ rest) = some (x, rest)) tokens items)
    {rest : List (Token α)} (hrest : ∀ token ∈ rest.head?, isComma token = false)
    (read : List β) :
    readMore isComma item (fun read next => read ++ [next]) read
        (tokens.flatMap (.comma :: ·) ++ rest)
      = some (read ++ items, rest) := by
  induction h generalizing read with
  | nil => simpa using readMore_stop hrest
  | @cons ts x others items hitem _ ih =>
    rw [List.flatMap_cons, List.cons_append, List.cons_append, List.append_assoc,
      readMore_step rfl (hitem _), ih]
    simp

/-- Items with commas between them are read as the list of the items. -/
theorem readCommas_commas {item : Reader α β} {tokens : List (List (Token α))} {items : List β}
    (h : List.Forall₂ (fun ts x => ∀ rest, item (ts ++ rest) = some (x, rest)) tokens items)
    (hne : items ≠ []) {rest : List (Token α)}
    (hrest : ∀ token ∈ rest.head?, isComma token = false) :
    readCommas item (commas tokens ++ rest) = some (items, rest) := by
  cases h with
  | nil => exact absurd rfl hne
  | @cons ts x others items hitem hothers =>
    rw [commas, List.append_assoc, readCommas, hitem]
    exact readMore_commas hothers hrest [x]

/-- Items that are rendered with commas between them are read one by one. -/
theorem readCommas_separated {ι : Type} {f : ι → Rendering} {item : Reader Value β}
    {means : ι → β → Prop} {items : List ι} {d : Draft}
    (hitem : ∀ x dx, f x = .done dx →
      ∃ tokens y, Spells dx tokens ∧ (∀ rest, item (tokens ++ rest) = some (y, rest)) ∧ means x y)
    (hne : items ≠ []) (h : Rendering.separated ", " (items.map f) = .done d) :
    ∃ tokens ys, Spells d tokens
      ∧ (∀ rest, (∀ token ∈ rest.head?, isComma token = false) →
        readCommas item (tokens ++ rest) = some (ys, rest))
      ∧ List.Forall₂ means items ys := by
  obtain ⟨ds, hds, rfl⟩ := Rendering.separated_eq_done_iff.1 h
  have hread : ∃ tokens ys, List.Forall₂ Spells ds tokens
      ∧ List.Forall₂ (fun ts y => ∀ rest, item (ts ++ rest) = some (y, rest)) tokens ys
      ∧ List.Forall₂ means items ys := by
    clear h hne
    induction hds with
    | nil => exact ⟨[], [], .nil, .nil, .nil⟩
    | cons hx _ ih =>
      obtain ⟨tokens, ys, hspells, hreads, hmeans⟩ := ih
      obtain ⟨ts, y, hspellsx, hreadsx, hmeansx⟩ := hitem _ _ hx
      exact ⟨ts :: tokens, y :: ys, .cons hspellsx hspells, .cons hreadsx hreads,
        .cons hmeansx hmeans⟩
  obtain ⟨tokens, ys, hspells, hreads, hmeans⟩ := hread
  have hds : ds ≠ [] := by
    rintro rfl
    cases hds
    exact hne rfl
  have hys : ys ≠ [] := by
    rintro rfl
    cases hmeans
    exact hne rfl
  exact ⟨commas tokens, ys, spells_commas hspells hds,
    fun rest hrest => readCommas_commas hreads hys hrest, hmeans⟩

end RecordSql.Sql
