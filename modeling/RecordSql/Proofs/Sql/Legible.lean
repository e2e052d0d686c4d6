import RecordSql.Proofs.Sql.Quoting

/-!
# Legible drafts

A draft spells some tokens if its text, with the back-ticks in its names written twice, reads as
these tokens wherever it stands in front of a text that cannot go on with its last word or name, and
if its names and its arguments are those of the tokens. A draft that ends in a blank or a bracket is
sealed: what follows it does not matter. The lemmas follow the ways in which drafts are put
together, so that a whole statement spells the tokens of its parts, whatever its names are. A draft
without back-ticks in its names is legible then: it has the text that it spells.
-/

set_option autoImplicit false

namespace RecordSql.Sql

/-- A text that cannot go on with the word, the name or the comparison that precedes it. -/
def Apart (cs : List Char) : Prop := ∀ c ∈ cs.head?, c.isUpper = false ∧ c ≠ '\x60' ∧ c ≠ '='

/-- A draft that spells some tokens in front of every text that meets a condition, and whose names
and arguments are those of the tokens. -/
structure SpellsBefore (next : List Char → Prop) (d : Draft) (tokens : List (Token Value)) :
    Prop where
  /-- The tokens are what the draft, with doubled back-ticks in its names, reads as. -/
  text : ∀ rest, next rest →
    tokens? (d.spelling ++ rest) = (tokens? rest).map (tokens.map Token.vacate ++ ·)
  /-- The arguments are what the places are for. -/
  args : d.args = tokens.filterMap Token.value?
  /-- The names are those of the tokens. -/
  names : d.names = tokens.filterMap Token.name?

/-- A draft that spells some tokens. -/
abbrev Spells : Draft → List (Token Value) → Prop := SpellsBefore Apart

/-- A draft that spells some tokens whatever follows. -/
abbrev Sealed : Draft → List (Token Value) → Prop := SpellsBefore fun _ => True

/-! ## Putting drafts together -/

/-- Drafts that stand one behind the other read as their tokens do. -/
theorem SpellsBefore.append {p q : List Char → Prop} {a b : Draft}
    {ta tb : List (Token Value)} (ha : SpellsBefore p a ta) (hb : SpellsBefore q b tb)
    (h : ∀ rest, q rest → p (b.spelling ++ rest)) : SpellsBefore q (a ++ b) (ta ++ tb) where
  text rest hrest := by
    have hchars : Draft.spelling (a ++ b) ++ rest = a.spelling ++ (b.spelling ++ rest) := by
      simp [Draft.spelling]
    rw [hchars, ha.text _ (h rest hrest), hb.text _ hrest]
    simp [Function.comp_def]
  args := by
    have hargs : Draft.args (a ++ b) = a.args ++ b.args := List.filterMap_append
    rw [hargs, ha.args, hb.args, List.filterMap_append]
  names := by
    have hnames : Draft.names (a ++ b) = a.names ++ b.names := List.filterMap_append
    rw [hnames, ha.names, hb.names, List.filterMap_append]

/-- A sealed draft may be followed by anything. -/
theorem SpellsBefore.sealed_append {q : List Char → Prop} {a b : Draft}
    {ta tb : List (Token Value)} (ha : Sealed a ta) (hb : SpellsBefore q b tb) :
    SpellsBefore q (a ++ b) (ta ++ tb) :=
  ha.append hb fun _ _ => trivial

/-- A sealed draft spells its tokens in front of any text. -/
theorem SpellsBefore.spells {d : Draft} {tokens : List (Token Value)} (h : Sealed d tokens) :
    Spells d tokens :=
  ⟨fun rest _ => h.text rest trivial, h.args, h.names⟩

/-- A draft that breaks off what stands before it: it begins with a blank, a comma or the like. -/
def Breaks (d : Draft) : Prop := d.spelling ≠ [] ∧ Apart d.spelling

/-- Whether a text begins with a character that no word, name or comparison goes on with. -/
def breaksOff (text : String) : Bool :=
  match text.toList with
  | [] => false
  | c :: _ => !c.isUpper && c != '\x60' && c != '='

/-- Whether a draft breaks off what stands before it is seen from its first text. -/
theorem breaks_cons {text : String} (h : breaksOff text = true) (d : Draft) :
    Breaks (.sql text :: d) := by
  rw [breaksOff] at h
  cases hchars : text.toList with
  | nil => rw [hchars] at h; cases h
  | cons c cs =>
    simp only [hchars, Bool.and_eq_true, Bool.not_eq_true', bne_iff_ne] at h
    simpa [Breaks, Apart, Draft.spelling, Piece.spelling, Piece.chars, hchars, and_assoc] using h

/-- A draft and another one that breaks off its last word. -/
theorem SpellsBefore.break_append {q : List Char → Prop} {a b : Draft}
    {ta tb : List (Token Value)} (ha : Spells a ta) (hbreak : Breaks b)
    (hb : SpellsBefore q b tb) : SpellsBefore q (a ++ b) (ta ++ tb) := by
  refine ha.append hb ?_
  intro rest _ c hc
  obtain ⟨hne, hapart⟩ := hbreak
  refine hapart c ?_
  cases h : b.spelling with
  | nil => exact absurd h hne
  | cons d ds => simpa [h] using hc

/-- The spelling of a draft reads as its tokens, with the arguments of the draft in their places. -/
theorem SpellsBefore.read_spelling {d : Draft} {tokens : List (Token Value)} (h : Spells d tokens) :
    tokens? d.spelling = some (tokens.map Token.vacate)
      ∧ supply (tokens.map Token.vacate) d.args = some tokens := by
  constructor
  · have hread := h.text [] (by simp [Apart])
    simpa [tokens?] using hread
  · rw [h.args, supply_vacate]

/-- A draft whose text reads as names that are those in the draft has no back-tick in any of them:
it would have to be written twice, and it is written once. -/
theorem SpellsBefore.plain_of_names {d : Draft} {tokens : List (Token Value)}
    (h : Spells d tokens) {found : List (Token Unit)} (hfound : tokens? d.chars = some found)
    (hnames : found.filterMap Token.name? = d.names) : d.Plain := by
  have hspelling : d.spelling.count '\x60' = backticks d.names := by
    rw [count_of_tokens? h.read_spelling.1, names_vacate, ← h.names]
  have hchars : d.chars.count '\x60' = backticks d.names := by
    rw [count_of_tokens? hfound, hnames]
  have hzero : (d.names.flatMap String.toList).count '\x60' = 0 := by
    have hcount := d.count_spelling
    omega
  intro ident hident hmem
  exact List.count_eq_zero.1 hzero (List.mem_flatMap.2 ⟨ident, hident, hmem⟩)

/-! ## Legible drafts -/

/-- A draft that has the text that it spells, as no name in it has a back-tick. -/
structure LegibleBefore (next : List Char → Prop) (d : Draft) (tokens : List (Token Value)) : Prop
    extends SpellsBefore next d tokens where
  /-- No name has a back-tick. -/
  plain : d.Plain

/-- A draft that reads as some tokens. -/
abbrev Legible : Draft → List (Token Value) → Prop := LegibleBefore Apart

/-- A draft that reads as some tokens whatever follows. -/
abbrev Closed : Draft → List (Token Value) → Prop := LegibleBefore fun _ => True

/-- A closed draft is legible. -/
theorem LegibleBefore.legible {d : Draft} {tokens : List (Token Value)} (h : Closed d tokens) :
    Legible d tokens :=
  ⟨h.toSpellsBefore.spells, h.plain⟩

/-- A legible draft by itself reads as its tokens, with its arguments in their places. -/
theorem LegibleBefore.read {d : Draft} {tokens : List (Token Value)} (h : Legible d tokens) :
    tokens? d.sql.toList = some (tokens.map Token.vacate)
      ∧ supply (tokens.map Token.vacate) d.args = some tokens := by
  have hread := h.toSpellsBefore.read_spelling
  rw [Draft.spelling_eq_chars h.plain] at hread
  rwa [Draft.sql, String.toList_ofList]

/-! ## Pieces -/

/-- A name, with its back-ticks doubled, reads as that name. -/
theorem spells_name (ident : String) : Spells [.name ident] [.name ident] where
  text rest hrest := by
    have hname : splitName (doubled ident.toList ++ '\x60' :: rest) = some (ident.toList, rest) :=
      splitName_doubled _ fun c hc => (hrest c hc).2.1
    simp [Draft.spelling, Piece.spelling, tokens?_cons, nextToken?, hname, Token.vacate,
      Token.recast?]
  args := rfl
  names := rfl

/-- A placeholder reads as the place of its value. -/
theorem sealed_bind (value : Value) : Sealed [.bind value] [.value value] where
  text rest _ := by
    simp [Draft.spelling, Piece.spelling, Piece.chars, tokens?_cons, nextToken?, Token.vacate,
      Token.recast?]
  args := rfl
  names := rfl

/-- The text of an operator reads as that operator. -/
theorem sealed_operator (op : Operator) : Sealed [.sql op.sql] [.operator op] where
  text rest _ := by
    cases op <;>
      simp [Draft.spelling, Piece.spelling, Piece.chars, Operator.sql, tokens?_cons, nextToken?,
        nextWord?, Token.ofWord?, Token.vacate, Token.recast?]
  args := rfl
  names := rfl

/-- An operator between two operands is set apart from the first of them. -/
theorem breaks_operator {op : Operator} (h : op ≠ .not) (d : Draft) :
    Breaks (.sql op.sql :: d) := by
  cases op with
  | not => exact absurd rfl h
  | _ => exact breaks_cons rfl d

/-- The name of a function and the parenthesis behind it. -/
theorem sealed_call (f : Aggregate) : Sealed [.sql f.sql, .sql "("] [.function f, .opening] where
  text rest _ := by
    cases f <;>
      simp [Draft.spelling, Piece.spelling, Piece.chars, Aggregate.sql, tokens?_cons, nextToken?,
        nextWord?, Token.ofWord?, Token.vacate, Token.recast?, Function.comp_def]
  args := rfl
  names := rfl

/-- An opening parenthesis. -/
theorem sealed_opening : Sealed [.sql "("] [.opening] where
  text rest _ := by
    simp [Draft.spelling, Piece.spelling, Piece.chars, tokens?_cons, nextToken?, Token.vacate,
      Token.recast?]
  args := rfl
  names := rfl

/-- A closing parenthesis. -/
theorem sealed_closing : Sealed [.sql ")"] [.closing] where
  text rest _ := by
    simp [Draft.spelling, Piece.spelling, Piece.chars, tokens?_cons, nextToken?, Token.vacate,
      Token.recast?]
  args := rfl
  names := rfl

/-- A closing parenthesis is set apart from what it closes. -/
theorem breaks_closing (d : Draft) : Breaks (.sql ")" :: d) :=
  breaks_cons rfl d

/-- A draft in parentheses is sealed. -/
theorem SpellsBefore.group {d : Draft} {tokens : List (Token Value)} (h : Spells d tokens) :
    Sealed (.sql "(" :: (d ++ [.sql ")"])) (.opening :: (tokens ++ [.closing])) :=
  sealed_opening.sealed_append (h.break_append (breaks_closing _) sealed_closing)

/-- A function applied to a column. -/
theorem sealed_application (column : String) (f : Aggregate) :
    Sealed [.sql f.sql, .sql "(", .name column, .sql ")"]
      [.function f, .opening, .name column, .closing] :=
  (sealed_call f).sealed_append
    ((spells_name column).break_append (breaks_closing _) sealed_closing)

/-! ## Clauses -/

/-- The texts that begin, join and end the clauses of statements, with the tokens they are. -/
def clauseTexts : List (String × List (Token Value)) :=
  [("SELECT ", [.keyword .select]), (" FROM ", [.keyword .source]),
    (" WHERE ", [.keyword .filter]), ("INSERT INTO ", [.keyword .insert, .keyword .into]),
    (" (", [.opening]), (") VALUES ", [.closing, .keyword .values]),
    ("UPDATE ", [.keyword .update]), (" SET ", [.keyword .set]),
    ("DELETE FROM ", [.keyword .delete, .keyword .source]), (", ", [.comma]),
    (";", [.semicolon])]

/-- The text of a clause reads as its tokens. -/
theorem sealed_clause {text : String} {tokens : List (Token Value)}
    (h : (text, tokens) ∈ clauseTexts) : Sealed [.sql text] tokens := by
  simp only [clauseTexts, List.mem_cons, Prod.mk.injEq, List.not_mem_nil, or_false] at h
  rcases h with ⟨rfl, rfl⟩ | ⟨rfl, rfl⟩ | ⟨rfl, rfl⟩ | ⟨rfl, rfl⟩ | ⟨rfl, rfl⟩ | ⟨rfl, rfl⟩
    | ⟨rfl, rfl⟩ | ⟨rfl, rfl⟩ | ⟨rfl, rfl⟩ | ⟨rfl, rfl⟩ | ⟨rfl, rfl⟩
  all_goals
    refine ⟨fun rest _ => ?_, rfl, rfl⟩
    simp [Draft.spelling, Piece.spelling, Piece.chars, tokens?_cons, nextToken?, nextWord?,
      Token.ofWord?, Token.vacate, Token.recast?, Function.comp_def]

/-- The tokens of items with commas between them. -/
def commas {α : Type} : List (List (Token α)) → List (Token α)
  | [] => []
  | tokens :: others => tokens ++ others.flatMap (.comma :: ·)

/-- Drafts with commas between them spell their tokens with commas between them. -/
theorem spells_commas {ds : List Draft} {tokens : List (List (Token Value))}
    (h : List.Forall₂ Spells ds tokens) (hne : ds ≠ []) :
    Spells (Draft.joined ", " ds) (commas tokens) := by
  cases h with
  | nil => exact absurd rfl hne
  | @cons d ts ds others hd hds =>
    rw [Draft.joined, commas]
    clear hne
    -- The first item grows: what was joined so far is the first of the remaining ones.
    induction hds generalizing d ts with
    | nil => simpa using hd
    | cons hnext _ ih =>
      have hcomma : Sealed [.sql ", "] [.comma] := sealed_clause (by simp [clauseTexts])
      have hfirst := hd.break_append (breaks_cons rfl _) (hcomma.sealed_append hnext)
      simpa using ih hfirst

end RecordSql.Sql
