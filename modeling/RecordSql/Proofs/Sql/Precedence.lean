import RecordSql.Proofs.Sql.Phrase

/-!
# What each level of the grammar reads

Tokens read at a level as a phrase if the reader of that level takes exactly them from the front of
every list that cannot go on with the phrase. What a level reads is read by all weaker levels too,
and parentheses make a primary phrase of any. Tokens that chain an operator are read into a chain
of that operator, and two such lists with the operator between them are again one: the operands of
the second join those of the first from the left, which is what `Phrase.attach` says of phrases.
-/

set_option autoImplicit false

namespace RecordSql.Sql

variable {α : Type}

/-! ## Chains -/

namespace Phrase

/-- Whether an operator stands at the top of a phrase. -/
def heads (op : Operator) : Phrase α → Bool
  | .binary found _ _ => found == op
  | _ => false

/-- Joins a phrase to the operands of a chain, from the left. -/
def attach (op : Operator) (left : Phrase α) : Phrase α → Phrase α
  | .binary found a b =>
    if found = op then .binary op (attach op left a) b else .binary op left (.binary found a b)
  | phrase => .binary op left phrase

/-- A phrase that is no chain of the operator is one operand. -/
theorem attach_of_not_heads {op : Operator} {left phrase : Phrase α}
    (h : phrase.heads op = false) : left.attach op phrase = .binary op left phrase := by
  cases phrase with
  | binary found a b =>
    have hne : found ≠ op := by simpa [heads] using h
    simp [attach, hne]
  | _ => rfl

/-- The operator of a chain stands at its top. -/
@[simp]
theorem heads_attach (op found : Operator) (left phrase : Phrase α) :
    (left.attach op phrase).heads found = (op == found) := by
  cases phrase with
  | binary other a b =>
    by_cases h : other = op <;> simp [attach, h, heads]
  | _ => rfl

/-- Operands may be joined in one go or one after the other. -/
theorem attach_attach (op : Operator) (a b c : Phrase α) :
    (a.attach op b).attach op c = a.attach op (b.attach op c) := by
  induction c with
  | binary found c d ihc ihd =>
    by_cases h : found = op
    · subst h
      simp [attach, ihc]
    · simp [attach, h]
  | _ => simp [attach]

end Phrase

/-! ## Levels -/

/-- The levels of the grammar, from the most tightly binding one. -/
inductive Level where
  | primary | comparison | negation | conjunction | disjunction
deriving DecidableEq

namespace Level

/-- The reader of a level. -/
def reader (level : Level) (inner : Reader α (Phrase α)) : Reader α (Phrase α) :=
  match level with
  | .primary => readPrimary inner
  | .comparison => readComparison inner
  | .negation => readNegation inner
  | .conjunction => readConjunction inner
  | .disjunction => readDisjunction inner

/-- Whether a phrase of a level goes on with a token. -/
def continues (level : Level) (token : Token α) : Bool :=
  match level with
  | .primary => false
  | .comparison | .negation => compares token
  | .conjunction => compares token || isOperator .and token
  | .disjunction => compares token || isOperator .and token || isOperator .or token

end Level

/-- A list of tokens that a phrase of a level cannot go on with. -/
def Ends (level : Level) (rest : List (Token α)) : Prop :=
  ∀ token ∈ rest.head?, level.continues token = false

/-- Tokens that a level reads as a phrase. -/
def Reads (level : Level) (tokens : List (Token α)) (phrase : Phrase α) : Prop :=
  ∀ depth rest, tokens.length ≤ depth → Ends level rest →
    level.reader (readExpression depth) (tokens ++ rest) = some (phrase, rest)

/-- Tokens that a chain of an operator begins with. The operands are of a given level. -/
def Begins (op : Operator) (level : Level) (tokens : List (Token α)) (phrase : Phrase α) : Prop :=
  ∀ depth rest, tokens.length ≤ depth → Ends level rest →
    readChain op (level.reader (readExpression depth)) (tokens ++ rest)
      = readOperands op (level.reader (readExpression depth)) phrase rest

/-- Tokens that are read as operands of a chain of an operator, be it at its beginning or further
on. -/
structure Chains (op : Operator) (level : Level) (tokens : List (Token α)) (phrase : Phrase α) :
    Prop where
  /-- The chain may begin with the tokens. -/
  begins : Begins op level tokens phrase
  /-- The chain goes on with the tokens. -/
  goesOn : ∀ depth rest (read : Phrase α), tokens.length ≤ depth → Ends level rest →
    readOperands op (level.reader (readExpression depth)) read (.operator op :: (tokens ++ rest))
      = readOperands op (level.reader (readExpression depth)) (read.attach op phrase) rest

variable {tokens : List (Token α)} {phrase : Phrase α}

/-! ## From one level to the next -/

/-- A primary phrase is a comparison without an operator. -/
theorem Reads.comparison (h : Reads .primary tokens phrase) : Reads .comparison tokens phrase := by
  intro depth rest hdepth hrest
  have hread : readPrimary (readExpression depth) (tokens ++ rest) = some (phrase, rest) :=
    h depth rest hdepth (by simp [Ends, Level.continues])
  show readComparison (readExpression depth) (tokens ++ rest) = some (phrase, rest)
  rw [readComparison, hread]
  cases rest with
  | nil => rfl
  | cons token rest =>
    -- Only an operator that compares would be taken as part of the comparison.
    have hstop : compares token = false := hrest token rfl
    cases token with
    | operator op => simp [hstop]
    | _ => rfl

/-- A comparison is read as a negation, as it does not begin with `NOT`. -/
theorem Reads.negation (h : Reads .comparison tokens phrase) : Reads .negation tokens phrase := by
  intro depth rest hdepth hrest
  have hread : readComparison (readExpression depth) (tokens ++ rest) = some (phrase, rest) :=
    h depth rest hdepth hrest
  show readNegation (readExpression depth) (tokens ++ rest) = some (phrase, rest)
  rw [readNegation, hread]
  intro others hnot
  rw [hnot] at hread
  cases hread

/-- A chain may begin with a single operand. -/
theorem Reads.begins {op : Operator} {level : Level} (h : Reads level tokens phrase) :
    Begins op level tokens phrase := by
  intro depth rest hdepth hrest
  rw [readChain, h depth rest hdepth hrest]

/-- A single operand is a chain, unless it is one in parentheses. -/
theorem Reads.chains {op : Operator} {level : Level} (h : Reads level tokens phrase)
    (hphrase : phrase.heads op = false) : Chains op level tokens phrase where
  begins := h.begins
  goesOn depth rest read hdepth hrest := by
    rw [readOperands, readMore_step (by simp [isOperator]) (h depth rest hdepth hrest),
      Phrase.attach_of_not_heads hphrase, readOperands]

/-- What ends a conjunction ends its last operand, and is not `AND`. -/
theorem ends_conjunction {rest : List (Token α)} (h : Ends .conjunction rest) :
    Ends .negation rest ∧ ∀ token ∈ rest.head?, isOperator .and token = false := by
  simp only [Ends, Level.continues, Bool.or_eq_false_iff] at h ⊢
  exact ⟨fun token ht => (h token ht).1, fun token ht => (h token ht).2⟩

/-- What ends a disjunction ends its last operand, and is not `OR`. -/
theorem ends_disjunction {rest : List (Token α)} (h : Ends .disjunction rest) :
    Ends .conjunction rest ∧ ∀ token ∈ rest.head?, isOperator .or token = false := by
  simp only [Ends, Level.continues, Bool.or_eq_false_iff] at h ⊢
  exact ⟨fun token ht => (h token ht).1, fun token ht => (h token ht).2⟩

/-- A chain of `AND` is read to its end. -/
theorem Begins.conjunction (h : Begins .and .negation tokens phrase) :
    Reads .conjunction tokens phrase := by
  intro depth rest hdepth hrest
  obtain ⟨hends, hstop⟩ := ends_conjunction hrest
  exact (h depth rest hdepth hends).trans (readMore_stop hstop)

/-- A chain of `OR` is read to its end. -/
theorem Begins.disjunction (h : Begins .or .conjunction tokens phrase) :
    Reads .disjunction tokens phrase := by
  intro depth rest hdepth hrest
  obtain ⟨hends, hstop⟩ := ends_disjunction hrest
  exact (h depth rest hdepth hends).trans (readMore_stop hstop)

/-- Two lists of operands with the operator between them are one. -/
theorem Chains.join {op : Operator} {level : Level} {ta tb : List (Token α)} {a b : Phrase α}
    (ha : Chains op level ta a) (hb : Chains op level tb b)
    (hop : level.continues (.operator op : Token α) = false) :
    Chains op level (ta ++ .operator op :: tb) (a.attach op b) := by
  -- The operator in the middle ends the last operand of the first list.
  have hends (rest : List (Token α)) : Ends level (.operator op :: (tb ++ rest)) := by
    intro token ht
    cases ht
    exact hop
  constructor
  · intro depth rest hdepth hrest
    simp only [List.length_append, List.length_cons] at hdepth
    rw [List.append_assoc, List.cons_append, ha.begins depth _ (by omega) (hends rest),
      hb.goesOn depth rest a (by omega) hrest]
  · intro depth rest read hdepth hrest
    simp only [List.length_append, List.length_cons] at hdepth
    rw [List.append_assoc, List.cons_append, ha.goesOn depth _ read (by omega) (hends rest),
      hb.goesOn depth rest _ (by omega) hrest, Phrase.attach_attach]

/-! ## Parentheses and prefixes -/

/-- Any phrase in parentheses is primary. -/
theorem Reads.group (h : Reads .disjunction tokens phrase) :
    Reads .primary (.opening :: (tokens ++ [.closing])) phrase := by
  intro depth rest hdepth _
  simp only [List.length_cons, List.length_append, List.length_nil] at hdepth
  -- The two parentheses count as tokens, so enough depth is left for what they enclose.
  obtain ⟨inner, rfl⟩ : ∃ inner, depth = inner + 1 := ⟨depth - 1, by omega⟩
  have hread : readExpression (inner + 1) (tokens ++ .closing :: rest)
      = some (phrase, .closing :: rest) :=
    h inner (.closing :: rest) (by omega) (by simp [Ends, Level.continues, compares, isOperator])
  simp [Level.reader, readPrimary, hread]

/-- `NOT` in front of a negation. -/
theorem Reads.not (h : Reads .negation tokens phrase) :
    Reads .negation (.operator .not :: tokens) (.negation phrase) := by
  intro depth rest hdepth hrest
  simp only [List.length_cons] at hdepth
  have hread : readNegation (readExpression depth) (tokens ++ rest) = some (phrase, rest) :=
    h depth rest (by omega) hrest
  show readNegation (readExpression depth) (.operator .not :: (tokens ++ rest)) = _
  rw [readNegation, hread]
  rfl

/-- A comparison of two primary phrases. -/
theorem Reads.compare {op : Operator} {ta tb : List (Token α)} {a b : Phrase α}
    (hop : compares (.operator op : Token α) = true) (ha : Reads .primary ta a)
    (hb : Reads .primary tb b) :
    Reads .comparison (ta ++ .operator op :: tb) (.binary op a b) := by
  intro depth rest hdepth _
  simp only [List.length_append, List.length_cons] at hdepth
  have hleft : readPrimary (readExpression depth) (ta ++ .operator op :: (tb ++ rest))
      = some (a, .operator op :: (tb ++ rest)) :=
    ha depth _ (by omega) (by simp [Ends, Level.continues])
  have hright : readPrimary (readExpression depth) (tb ++ rest) = some (b, rest) :=
    hb depth rest (by omega) (by simp [Ends, Level.continues])
  show readComparison (readExpression depth) _ = _
  rw [List.append_assoc, List.cons_append, readComparison, hleft]
  simp [hop, hright]

/-- A list of tokens that is read as an expression is the phrase of that expression. -/
theorem Reads.read? (h : Reads .disjunction tokens phrase) : Phrase.read? tokens = some phrase := by
  have hread : readExpression (tokens.length + 1) (tokens ++ []) = some (phrase, []) :=
    h tokens.length [] (Nat.le_refl _) (by simp [Ends])
  rw [List.append_nil] at hread
  rw [Phrase.read?, hread]

end RecordSql.Sql
