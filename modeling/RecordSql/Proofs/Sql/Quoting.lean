import RecordSql.Proofs.Rendering
import RecordSql.Proofs.Sql.Token

/-!
# Names between back-ticks

A name that stands between back-ticks is read up to the first back-tick that is not doubled, so a
back-tick of its own has to be written twice. `Draft.spelling` is the text of a draft written by
that rule. It is the text that the draft has if no name has a back-tick, and only then: the
back-ticks of a text that reads as tokens are two for each name and two for each back-tick in a
name, which is more than a draft writes for a name with a back-tick.
-/

set_option autoImplicit false

namespace RecordSql

/-! ## Doubling -/

/-- Characters with every back-tick among them written twice. -/
def doubled (cs : List Char) : List Char :=
  cs.flatMap fun c => if c = '\x60' then ['\x60', '\x60'] else [c]

/-- Characters without back-ticks stay as they are. -/
theorem doubled_eq_self {cs : List Char} (h : '\x60' ∉ cs) : doubled cs = cs := by
  induction cs with
  | nil => rfl
  | cons c cs ih =>
    have hc : c ≠ '\x60' := by
      intro heq
      apply h
      simp [heq]
    have hcs : doubled cs = cs := ih fun hmem => h (List.mem_cons_of_mem c hmem)
    unfold doubled at hcs ⊢
    rw [List.flatMap_cons, if_neg hc, hcs, List.singleton_append]

/-- There are twice as many back-ticks. -/
theorem count_doubled (cs : List Char) : (doubled cs).count '\x60' = 2 * cs.count '\x60' := by
  induction cs with
  | nil => rfl
  | cons c cs ih =>
    unfold doubled at ih ⊢
    rw [List.flatMap_cons, List.count_append, ih]
    by_cases hc : c = '\x60'
    · simp only [hc, if_true, List.count_cons_self, List.count_nil]
      omega
    · simp [hc]

/-! ## Spelling -/

/-- The characters of a piece, with the back-ticks in a name written twice. -/
def Piece.spelling : Piece → List Char
  | .name ident => '\x60' :: (doubled ident.toList ++ ['\x60'])
  | piece => piece.chars

namespace Draft

/-- The characters of a draft, with the back-ticks in its names written twice. -/
def spelling (d : Draft) : List Char := d.flatMap Piece.spelling

/-- No name in a draft has a back-tick. -/
def Plain (d : Draft) : Prop := ∀ ident ∈ d.names, '\x60' ∉ ident.toList

/-- A draft without back-ticks in its names is spelled as it is written. -/
theorem spelling_eq_chars {d : Draft} (plain : d.Plain) : d.spelling = d.chars := by
  have hpiece : ∀ piece ∈ d, piece.spelling = piece.chars := by
    intro piece hpiece
    cases piece with
    | sql text => rfl
    | bind value => rfl
    | name ident =>
      have hident : ident ∈ d.names := List.mem_filterMap.2 ⟨_, hpiece, rfl⟩
      rw [Piece.spelling, doubled_eq_self (plain ident hident), Piece.chars]
  exact List.flatMap_congr hpiece

/-- The spelling of a draft has a back-tick more for every back-tick in a name. -/
theorem count_spelling (d : Draft) :
    d.spelling.count '\x60'
      = d.chars.count '\x60' + (d.names.flatMap String.toList).count '\x60' := by
  induction d with
  | nil => rfl
  | cons piece d ih =>
    unfold spelling chars names at ih ⊢
    rw [List.flatMap_cons, List.flatMap_cons, List.count_append, List.count_append, ih]
    cases piece with
    | sql text => simp [Piece.spelling, Piece.name?, List.filterMap_cons, Nat.add_assoc]
    | bind value => simp [Piece.spelling, Piece.name?, List.filterMap_cons, Nat.add_assoc]
    | name ident =>
      simp only [Piece.spelling, Piece.chars, Piece.name?, List.filterMap_cons, List.flatMap_cons,
        List.count_cons_self, List.count_append, count_doubled, List.count_nil]
      omega

end Draft

namespace Sql

/-! ## Reading names -/

/-- A name whose back-ticks are doubled ends at the back-tick that closes it. -/
theorem splitName_doubled (name : List Char) {rest : List Char}
    (hrest : ∀ c ∈ rest.head?, c ≠ '\x60') :
    splitName (doubled name ++ '\x60' :: rest) = some (name, rest) := by
  induction name with
  | nil =>
    cases rest with
    | nil => rfl
    | cons c cs =>
      -- A second back-tick would make one of the two and let the name go on.
      have hc : c ≠ '\x60' := hrest c rfl
      show splitName ('\x60' :: c :: cs) = some ([], c :: cs)
      rw [splitName]
      intro after h
      cases h
      exact hc rfl
  | cons c name ih =>
    unfold doubled at ih ⊢
    rw [List.flatMap_cons]
    by_cases hc : c = '\x60'
    · subst hc
      simp [splitName, ih]
    · simp [splitName, hc, ih]

/-- What is read as a name was written with doubled back-ticks. -/
theorem eq_doubled_of_splitName {cs name rest : List Char} (h : splitName cs = some (name, rest)) :
    cs = doubled name ++ '\x60' :: rest := by
  fun_induction splitName cs generalizing name rest with
  | case1 => cases h
  | case2 after ih =>
    obtain ⟨⟨found, left⟩, hfound, heq⟩ := Option.map_eq_some_iff.1 h
    cases heq
    rw [ih hfound]
    simp [doubled]
  | case3 after => cases h; rfl
  | case4 c after hc hc' ih =>
    obtain ⟨⟨found, left⟩, hfound, heq⟩ := Option.map_eq_some_iff.1 h
    cases heq
    have hne : c ≠ '\x60' := by
      intro heq
      exact hc' heq
    rw [ih hfound]
    simp [doubled, hne]

/-! ## Counting back-ticks -/

/-- How many back-ticks it takes to write names. -/
def backticks (names : List String) : Nat :=
  2 * names.length + 2 * (names.flatMap String.toList).count '\x60'

/-- A token takes the back-ticks of its name from the front of a text. -/
theorem count_of_nextToken? {cs rest : List Char} {token : Token Unit}
    (h : nextToken? cs = some (token, rest)) :
    cs.count '\x60' = backticks token.name?.toList + rest.count '\x60' := by
  unfold nextToken? at h
  split at h
  case h_1 text =>
    obtain ⟨⟨name, after⟩, hname, heq⟩ := Option.map_eq_some_iff.1 h
    cases heq
    rw [eq_doubled_of_splitName hname]
    simp only [List.count_cons_self, List.count_append, count_doubled, Token.name?,
      Option.toList_some, backticks, List.length_cons, List.length_nil, List.flatMap_cons,
      List.flatMap_nil, List.append_nil, String.toList_ofList]
    omega
  case h_12 =>
    obtain ⟨word, hword, heq⟩ := Option.map_eq_some_iff.1 h
    cases heq
    have hletters : (cs.takeWhile Char.isUpper).count '\x60' = 0 := by
      apply List.count_eq_zero.2
      intro hmem
      have hupper := List.all_takeWhile (p := Char.isUpper) (l := cs)
      rw [List.all_eq_true] at hupper
      exact absurd (hupper _ hmem) (by decide)
    have hsplit : (cs.takeWhile Char.isUpper ++ cs.dropWhile Char.isUpper).count '\x60'
        = cs.count '\x60' := by
      rw [List.takeWhile_append_dropWhile]
    have hname : token.name? = none := by
      unfold Token.ofWord? at hword
      split at hword <;> cases hword <;> rfl
    rw [List.count_append, hletters] at hsplit
    rw [hname, ← hsplit]
    simp [backticks]
  all_goals
    cases h
    simp [backticks, Token.name?]

/-- The back-ticks of a text that reads as tokens are those that it takes to write their names. -/
theorem count_of_tokens? {cs : List Char} {tokens : List (Token Unit)}
    (h : tokens? cs = some tokens) :
    cs.count '\x60' = backticks (tokens.filterMap Token.name?) := by
  fun_induction tokens? cs generalizing tokens with
  | case1 => cases h; rfl
  | case2 cs ih =>
    rw [← ih h]
    simp
  | case3 c cs _ token rest hnext ih =>
    obtain ⟨others, hothers, rfl⟩ := Option.map_eq_some_iff.1 h
    have hsum : backticks ((token :: others).filterMap Token.name?)
        = backticks token.name?.toList + backticks (others.filterMap Token.name?) := by
      cases hname : token.name? with
      | none => simp [backticks, hname]
      | some name =>
        simp only [backticks, List.filterMap_cons, hname, List.flatMap_cons, List.length_cons,
          List.count_append, Option.toList_some, List.flatMap_nil, List.append_nil, List.length_nil]
        omega
    rw [count_of_nextToken? hnext, ih hothers, hsum]
  | case4 => cases h

end Sql

end RecordSql
