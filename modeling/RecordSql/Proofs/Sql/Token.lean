import RecordSql.Expr.Basic

/-!
# Tokens of SQL text

The text of a statement is read without regard to how it came about. Blanks separate tokens, a
name stands between back-ticks and may hold anything in between (a back-tick of its own is written
twice), and a question mark outside of names is the place of an argument. The tokens of a text
know nothing of the arguments; `supply` puts the arguments into their places, the first into the
first, and succeeds only if there are as many arguments as places.
-/

set_option autoImplicit false

namespace RecordSql.Sql

/-! ## Tokens -/

/-- The words that begin a clause. -/
inductive Keyword where
  | select | source | filter | insert | into | values | update | set | delete
deriving DecidableEq

/-- A token; `α` is what stands in the places of arguments. -/
inductive Token (α : Type) where
  /-- A name between back-ticks. -/
  | name (ident : String)
  /-- The place of an argument. -/
  | value (a : α)
  /-- An operator. -/
  | operator (op : Operator)
  /-- A function over all rows. -/
  | function (f : Aggregate)
  /-- A word that begins a clause. -/
  | keyword (word : Keyword)
  /-- An opening parenthesis. -/
  | opening
  /-- A closing parenthesis. -/
  | closing
  /-- A comma. -/
  | comma
  /-- A semicolon. -/
  | semicolon
deriving DecidableEq

namespace Token

variable {α β : Type}

/-- What stands in the place of an argument. -/
def value? : Token α → Option α
  | .value a => some a
  | _ => none

/-- The name that a token is. -/
def name? : Token α → Option String
  | .name ident => some ident
  | _ => none

/-- A token that is no place of an argument, whatever stands in such places. -/
def recast? : Token α → Option (Token β)
  | .value _ => none
  | .name ident => some (.name ident)
  | .operator op => some (.operator op)
  | .function f => some (.function f)
  | .keyword word => some (.keyword word)
  | .opening => some .opening
  | .closing => some .closing
  | .comma => some .comma
  | .semicolon => some .semicolon

/-- The token with nothing in the place of an argument. -/
def vacate (token : Token α) : Token Unit := token.recast?.getD (.value ())

/-- The token that a word is, if it is one. -/
def ofWord? : String → Option (Token Unit)
  | "AND" => some (.operator .and)
  | "OR" => some (.operator .or)
  | "NOT" => some (.operator .not)
  | "AVG" => some (.function .avg)
  | "MAX" => some (.function .max)
  | "MIN" => some (.function .min)
  | "COUNT" => some (.function .count)
  | "SUM" => some (.function .sum)
  | "SELECT" => some (.keyword .select)
  | "FROM" => some (.keyword .source)
  | "WHERE" => some (.keyword .filter)
  | "INSERT" => some (.keyword .insert)
  | "INTO" => some (.keyword .into)
  | "VALUES" => some (.keyword .values)
  | "UPDATE" => some (.keyword .update)
  | "SET" => some (.keyword .set)
  | "DELETE" => some (.keyword .delete)
  | _ => none

end Token

/-! ## From text to tokens -/

/-- Splits a text behind the back-tick that closes a name: the first that is not doubled. A
doubled one stands for one. -/
def splitName : List Char → Option (List Char × List Char)
  | [] => none
  | '\x60' :: '\x60' :: rest =>
    (splitName rest).map fun (name, after) => ('\x60' :: name, after)
  | '\x60' :: rest => some ([], rest)
  | c :: rest => (splitName rest).map fun (name, after) => (c :: name, after)

/-- The word that a text begins with, and what follows it. -/
def nextWord? (cs : List Char) : Option (Token Unit × List Char) :=
  (Token.ofWord? (String.ofList (cs.takeWhile Char.isUpper))).map
    fun token => (token, cs.dropWhile Char.isUpper)

/-- The token that a text begins with, and what follows it. -/
def nextToken? : List Char → Option (Token Unit × List Char)
  | '\x60' :: cs => (splitName cs).map fun (name, rest) => (.name (String.ofList name), rest)
  | '?' :: cs => some (.value (), cs)
  | '(' :: cs => some (.opening, cs)
  | ')' :: cs => some (.closing, cs)
  | ',' :: cs => some (.comma, cs)
  | ';' :: cs => some (.semicolon, cs)
  | '=' :: cs => some (.operator .eq, cs)
  | '>' :: '=' :: cs => some (.operator .gte, cs)
  | '>' :: cs => some (.operator .gt, cs)
  | '<' :: '=' :: cs => some (.operator .lte, cs)
  | '<' :: cs => some (.operator .lt, cs)
  | cs => nextWord? cs

/-- What follows a name is shorter than the text. -/
theorem splitName_length {cs name rest : List Char} (h : splitName cs = some (name, rest)) :
    rest.length < cs.length := by
  fun_induction splitName cs generalizing name rest with
  | case1 => cases h
  | case2 after ih =>
    obtain ⟨⟨n, r⟩, hr, heq⟩ := Option.map_eq_some_iff.1 h
    cases heq
    have := ih hr
    simp only [List.length_cons]
    omega
  | case3 after => cases h; simp
  | case4 c after hc hc' ih =>
    obtain ⟨⟨n, r⟩, hr, heq⟩ := Option.map_eq_some_iff.1 h
    cases heq
    have := ih hr
    simp only [List.length_cons]
    omega

/-- What follows a word is shorter than the text, as no word is empty. -/
theorem nextWord?_length {cs rest : List Char} {token : Token Unit}
    (h : nextWord? cs = some (token, rest)) : rest.length < cs.length := by
  obtain ⟨word, hword, heq⟩ := Option.map_eq_some_iff.1 h
  cases heq
  have hlen : (cs.takeWhile Char.isUpper ++ cs.dropWhile Char.isUpper).length = cs.length := by
    rw [List.takeWhile_append_dropWhile]
  cases htake : cs.takeWhile Char.isUpper with
  | nil => rw [htake] at hword; cases hword
  | cons c letters =>
    simp only [htake, List.length_append, List.length_cons] at hlen
    omega

/-- What follows a token is shorter than the text. -/
theorem nextToken?_length {cs rest : List Char} {token : Token Unit}
    (h : nextToken? cs = some (token, rest)) : rest.length < cs.length := by
  unfold nextToken? at h
  split at h
  case h_1 =>
    obtain ⟨⟨name, after⟩, hname, heq⟩ := Option.map_eq_some_iff.1 h
    cases heq
    have := splitName_length hname
    simp only [List.length_cons]
    omega
  case h_12 => exact nextWord?_length h
  all_goals
    cases h
    simp only [List.length_cons]
    omega

/-- The tokens of a text, unless some part of it is no token. -/
def tokens? : List Char → Option (List (Token Unit))
  | [] => some []
  | c :: cs =>
    if c = ' ' then tokens? cs
    else match _h : nextToken? (c :: cs) with
      | some (token, rest) => (tokens? rest).map (token :: ·)
      | none => none
termination_by cs => cs.length
decreasing_by
  · simp
  · exact nextToken?_length _h

/-- Puts arguments into their places, in order; there must be one for every place and no more. -/
def supply {α : Type} : List (Token Unit) → List α → Option (List (Token α))
  | [], [] => some []
  | [], _ :: _ => none
  | token :: tokens, args =>
    match token.recast? with
    | some plain => (supply tokens args).map (plain :: ·)
    | none => match args with
      | [] => none
      | a :: args => (supply tokens args).map (.value a :: ·)

/-- Arguments that were taken out of their places go back there. -/
theorem supply_vacate {α : Type} (tokens : List (Token α)) :
    supply (tokens.map Token.vacate) (tokens.filterMap Token.value?) = some tokens := by
  induction tokens with
  | nil => rfl
  | cons token tokens ih =>
    cases token <;>
      simp [supply, Token.vacate, Token.recast?, Token.value?, List.filterMap_cons, ih]

/-- Taking arguments out of their places changes no name. -/
theorem names_vacate {α : Type} (tokens : List (Token α)) :
    (tokens.map Token.vacate).filterMap Token.name? = tokens.filterMap Token.name? := by
  induction tokens with
  | nil => rfl
  | cons token tokens ih =>
    cases token <;> simp [Token.vacate, Token.recast?, Token.name?, List.filterMap_cons, ih]

/-- There are as many places as arguments that were taken out of them. -/
theorem count_vacate {α : Type} (tokens : List (Token α)) :
    (tokens.map Token.vacate).count (.value ()) = (tokens.filterMap Token.value?).length := by
  induction tokens with
  | nil => rfl
  | cons token tokens ih =>
    cases token <;>
      simp [Token.vacate, Token.recast?, Token.value?, List.filterMap_cons, ih]

/-- The reading of a text that is not empty. -/
theorem tokens?_cons (c : Char) (cs : List Char) :
    tokens? (c :: cs) = if c = ' ' then tokens? cs
      else match nextToken? (c :: cs) with
        | some (token, rest) => (tokens? rest).map (token :: ·)
        | none => none := by
  rw [tokens?]
  split
  · rfl
  · split <;> simp_all

end RecordSql.Sql
