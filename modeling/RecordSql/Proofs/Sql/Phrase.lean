import RecordSql.Proofs.Sql.Token

/-!
# The grammar of expressions

Tokens are read into phrases by levels of binding strength. Names, places of arguments, calls and
anything in parentheses bind most tightly; then come comparisons, then `NOT`, then chains of `AND`,
and then chains of `OR`. Both kinds of chains associate to the left. Each level is a reader that
takes its tokens from the front of a list; `Phrase.read?` asks that nothing is left over.
-/

set_option autoImplicit false

namespace RecordSql.Sql

variable {α β γ : Type}

/-- What an expression says, with `α` in the places of its arguments. -/
inductive Phrase (α : Type) where
  /-- A column, by its name. -/
  | column (name : String)
  /-- The place of an argument. -/
  | value (a : α)
  /-- A function over all rows, applied to a column. -/
  | call (f : Aggregate) (column : String)
  /-- The negation of a phrase. -/
  | negation (operand : Phrase α)
  /-- An operator between two phrases. -/
  | binary (op : Operator) (left right : Phrase α)

/-- Takes something from the front of a list of tokens. -/
abbrev Reader (α β : Type) : Type := List (Token α) → Option (β × List (Token α))

/-! ## Repetition -/

/-- Reads further items for as long as a separator comes next, and takes each up into what was read
before. An item that does not shorten the list ends the reading without success. -/
def readMore (separates : Token α → Bool) (item : Reader α β) (take : γ → β → γ) (read : γ) :
    Reader α γ
  | [] => some (read, [])
  | token :: tokens =>
    if separates token then
      match item tokens with
      | none => none
      | some (next, rest) =>
        if rest.length ≤ tokens.length then readMore separates item take (take read next) rest
        else none
    else some (read, token :: tokens)
termination_by tokens => tokens.length
decreasing_by simp only [List.length_cons]; omega

/-- Nothing more is read where no separator comes next. -/
theorem readMore_stop {separates : Token α → Bool} {item : Reader α β} {take : γ → β → γ}
    {read : γ} {rest : List (Token α)} (h : ∀ token ∈ rest.head?, separates token = false) :
    readMore separates item take read rest = some (read, rest) := by
  cases rest with
  | nil => rw [readMore]
  | cons token rest => rw [readMore, if_neg (by simp [h token rfl])]

/-- Behind a separator one more item is read. -/
theorem readMore_step {separates : Token α → Bool} {item : Reader α β} {take : γ → β → γ}
    {read : γ} {next : β} {token : Token α} {tokens rest : List (Token α)}
    (hsep : separates token = true) (hitem : item (tokens ++ rest) = some (next, rest)) :
    readMore separates item take read (token :: (tokens ++ rest))
      = readMore separates item take (take read next) rest := by
  rw [readMore, if_pos hsep, hitem]
  simp

/-! ## Levels -/

/-- Whether a token is an operator that compares. -/
def compares : Token α → Bool
  | .operator .eq | .operator .gt | .operator .gte | .operator .lt | .operator .lte => true
  | _ => false

/-- Whether a token is a given operator. -/
def isOperator (op : Operator) : Token α → Bool
  | .operator found => found == op
  | _ => false

/-- Reads what binds most tightly; `inner` reads what stands in parentheses. -/
def readPrimary (inner : Reader α (Phrase α)) : Reader α (Phrase α)
  | .name column :: rest => some (.column column, rest)
  | .value a :: rest => some (.value a, rest)
  | .function f :: .opening :: .name column :: .closing :: rest => some (.call f column, rest)
  | .opening :: tokens =>
    match inner tokens with
    | some (phrase, .closing :: rest) => some (phrase, rest)
    | _ => none
  | _ => none

/-- Reads a comparison of two primary phrases, or one such phrase. -/
def readComparison (inner : Reader α (Phrase α)) : Reader α (Phrase α) := fun tokens =>
  match readPrimary inner tokens with
  | none => none
  | some (left, rest) =>
    match rest with
    | .operator op :: others =>
      if compares (.operator op : Token α) then
        (readPrimary inner others).map fun (right, rest) => (.binary op left right, rest)
      else some (left, rest)
    | _ => some (left, rest)

/-- Reads a comparison, negated any number of times. -/
def readNegation (inner : Reader α (Phrase α)) : Reader α (Phrase α)
  | .operator .not :: tokens =>
    (readNegation inner tokens).map fun (operand, rest) => (.negation operand, rest)
  | tokens => readComparison inner tokens

/-- Reads further operands of an operator behind a phrase, which they join from the right. -/
def readOperands (op : Operator) (item : Reader α (Phrase α)) (read : Phrase α) :
    Reader α (Phrase α) :=
  readMore (isOperator op) item (.binary op) read

/-- Reads items with an operator between them, which associates to the left. -/
def readChain (op : Operator) (item : Reader α (Phrase α)) : Reader α (Phrase α) := fun tokens =>
  match item tokens with
  | none => none
  | some (first, rest) => readOperands op item first rest

/-- Reads negations joined by `AND`. -/
def readConjunction (inner : Reader α (Phrase α)) : Reader α (Phrase α) :=
  readChain .and (readNegation inner)

/-- Reads conjunctions joined by `OR`. -/
def readDisjunction (inner : Reader α (Phrase α)) : Reader α (Phrase α) :=
  readChain .or (readConjunction inner)

/-- Reads an expression in which parentheses are nested less than `depth` deep. -/
def readExpression : Nat → Reader α (Phrase α)
  | 0 => fun _ => none
  | depth + 1 => readDisjunction (readExpression depth)

/-- The phrase that a whole list of tokens is. No list has more parentheses than tokens. -/
def Phrase.read? (tokens : List (Token α)) : Option (Phrase α) :=
  match readExpression (tokens.length + 1) tokens with
  | some (phrase, []) => some phrase
  | _ => none

end RecordSql.Sql
