import RecordSql.Proofs.Expr.Contents
import RecordSql.Proofs.Sql.Legible
import RecordSql.Proofs.Sql.Precedence

/-!
# Rendering keeps the structure of expressions

The text of an expression, read by the grammar of `Sql.Phrase` with its arguments in the places of
the placeholders and the fields in the places of their columns, is that expression again. Two
things are not told apart by any text: how a chain of one logical operator was nested, and whether
a plain column was asked for as a field or as an aggregate without a function. Both are settled by
`Expr.leftAssociated`.

The grouping rules are those of the level that each operand is read at: what stands under a
comparison is primary, what stands under `NOT` is a negation, and what stands under `AND` or `OR`
is a part of that chain. `ReadsUnder` says this for every operator, and it is what the induction
over the expression carries.
-/

set_option autoImplicit false

namespace RecordSql

open Sql

variable {type : RecordType}

/-! ## Left-associated expressions -/

namespace Expr

/-- Joins an expression to the operands of a chain, from the left. -/
def attach (op : Operator) (left : Expr) : Expr → Expr
  | .binary found a b =>
    if found = op then .binary op (attach op left a) b else .binary op left (.binary found a b)
  | e => .binary op left e

/-- Whether an operator stands between two operands at the top of an expression. -/
def heads (op : Operator) : Expr → Bool
  | .binary found _ _ => found == op
  | _ => false

/-- The operator of a chain stands at its top. -/
theorem heads_attach (op found : Operator) (left e : Expr) :
    (left.attach op e).heads found = (op == found) := by
  cases e with
  | binary other a b =>
    by_cases h : other = op <;> simp [attach, h, heads]
  | _ => rfl

/-- The expression with every chain of `AND` and every chain of `OR` associated to the left, and
with a plain field in place of an aggregate without a function. -/
def leftAssociated : Expr → Expr
  | .field name => .field name
  | .literal value => .literal value
  | .aggregate none name => .field name
  | .aggregate (some function) name => .aggregate (some function) name
  | .unary op right => .unary op right.leftAssociated
  | .binary op left right =>
    if op = .and ∨ op = .or then left.leftAssociated.attach op right.leftAssociated
    else .binary op left.leftAssociated right.leftAssociated

end Expr

/-! ## From phrases to expressions -/

namespace Sql.Phrase

/-- The expression that a phrase is for a table: arguments are literals, and a column stands for
the field that it belongs to. -/
def toExpr? (t : Table type) : Phrase Value → Option Expr
  | .column name => (t.indexOfColumn? name).map fun i => .field (type.field i).ident
  | .value v => some (.literal v)
  | .call f name => (t.indexOfColumn? name).map fun i => .aggregate (some f) (type.field i).ident
  | .negation operand => (operand.toExpr? t).map (.unary .not)
  | .binary op left right =>
    match left.toExpr? t, right.toExpr? t with
    | some a, some b => some (.binary op a b)
    | _, _ => none

/-- A phrase and its expression have the same operator at the top. -/
theorem heads_of_toExpr? {t : Table type} {op : Operator} {phrase : Phrase Value} {e : Expr}
    (h : phrase.toExpr? t = some e) : phrase.heads op = e.heads op := by
  cases phrase with
  | column name => obtain ⟨i, -, rfl⟩ := Option.map_eq_some_iff.1 h; rfl
  | value v => cases h; rfl
  | call f name => obtain ⟨i, -, rfl⟩ := Option.map_eq_some_iff.1 h; rfl
  | negation operand => obtain ⟨a, -, rfl⟩ := Option.map_eq_some_iff.1 h; rfl
  | binary found left right =>
    rw [toExpr?] at h
    split at h
    · cases h; rfl
    · cases h

/-- Two phrases are joined as their expressions are. -/
theorem toExpr?_attach {t : Table type} {op : Operator} {a b : Phrase Value} {ea eb : Expr}
    (ha : a.toExpr? t = some ea) (hb : b.toExpr? t = some eb) :
    (a.attach op b).toExpr? t = some (ea.attach op eb) := by
  induction b generalizing eb with
  | column name =>
    obtain ⟨i, hi, rfl⟩ := Option.map_eq_some_iff.1 hb
    simp [attach, toExpr?, ha, hi, Expr.attach]
  | value v =>
    cases hb
    simp [attach, toExpr?, ha, Expr.attach]
  | call f name =>
    obtain ⟨i, hi, rfl⟩ := Option.map_eq_some_iff.1 hb
    simp [attach, toExpr?, ha, hi, Expr.attach]
  | negation operand =>
    obtain ⟨e, he, rfl⟩ := Option.map_eq_some_iff.1 hb
    simp [attach, toExpr?, ha, he, Expr.attach]
  | binary found c d ihc ihd =>
    rw [toExpr?] at hb
    split at hb
    · rename_i ec ed hc hd
      cases hb
      by_cases h : found = op
      · simp [attach, toExpr?, Expr.attach, h, ihc hc, hd]
      · simp [attach, toExpr?, Expr.attach, h, ha, hc, hd]
    · cases hb

end Sql.Phrase

/-! ## Reading a rendering -/

/-- How the tokens of an operand are read, given the operator that it stands under. -/
def ReadsUnder (parent : Option Operator) (tokens : List (Token Value)) (phrase : Phrase Value) :
    Prop :=
  match parent with
  | none => Reads .disjunction tokens phrase
  | some .and => Chains .and .negation tokens phrase
  | some .or => Chains .or .conjunction tokens phrase
  | some .not => Reads .negation tokens phrase
  | some _ => Reads .primary tokens phrase

/-- What reads as a negation may stand anywhere but under a comparison; a chain in parentheses is
an operand, not a part, of a chain of the same operator. -/
theorem Sql.Reads.under_of_negation {parent : Option Operator} {tokens : List (Token Value)}
    {phrase : Phrase Value} (h : Reads .negation tokens phrase)
    (hparent : Expr.groupsNegation parent = false)
    (hphrase : ∀ op ∈ parent, phrase.heads op = false) : ReadsUnder parent tokens phrase := by
  have hconjunction : Reads .conjunction tokens phrase := h.begins.conjunction
  cases parent with
  | none => exact hconjunction.begins.disjunction
  | some op =>
    have hop := hphrase op rfl
    cases op with
    | and => exact h.chains hop
    | or => exact hconjunction.chains hop
    | not => exact h
    | _ => cases hparent

/-- What is primary may stand anywhere. -/
theorem Sql.Reads.under {parent : Option Operator} {tokens : List (Token Value)}
    {phrase : Phrase Value} (h : Reads .primary tokens phrase)
    (hphrase : ∀ op ∈ parent, op = .and ∨ op = .or → phrase.heads op = false) :
    ReadsUnder parent tokens phrase := by
  have hnegation : Reads .negation tokens phrase := h.comparison.negation
  cases parent with
  | none => exact hnegation.under_of_negation rfl (by simp)
  | some op =>
    cases op with
    | and => exact hnegation.chains (hphrase .and rfl (.inl rfl))
    | or => exact hnegation.begins.conjunction.chains (hphrase .or rfl (.inr rfl))
    | not => exact hnegation
    | _ => exact h

/-- A draft that spells an expression, given the operator that it stands under. -/
def ReadsAs (t : Table type) (parent : Option Operator) (d : Draft) (e : Expr) : Prop :=
  ∃ tokens phrase, Spells d tokens ∧ phrase.toExpr? t = some e ∧ ReadsUnder parent tokens phrase

namespace ReadsAs

variable {t : Table type} {parent : Option Operator}

/-- A column reads as its field. -/
theorem field (i : type.Index) :
    ReadsAs t parent [.name (t.column i)] (.field (type.field i).ident) := by
  refine ⟨_, .column (t.column i), spells_name _, by simp [Phrase.toExpr?], ?_⟩
  refine Reads.under (fun depth rest _ _ => ?_) (fun _ _ _ => rfl)
  simp [Level.reader, readPrimary]

/-- A placeholder reads as its value. -/
theorem literal (v : Value) : ReadsAs t parent [.bind v] (.literal v) := by
  refine ⟨_, .value v, (sealed_bind v).spells, rfl, ?_⟩
  refine Reads.under (fun depth rest _ _ => ?_) (fun _ _ _ => rfl)
  simp [Level.reader, readPrimary]

/-- A function applied to a column reads as an aggregate. -/
theorem call (i : type.Index) (f : Aggregate) :
    ReadsAs t parent [.sql f.sql, .sql "(", .name (t.column i), .sql ")"]
      (.aggregate (some f) (type.field i).ident) := by
  refine ⟨_, .call f (t.column i), (sealed_application _ f).spells,
    by simp [Phrase.toExpr?], ?_⟩
  refine Reads.under (fun depth rest _ _ => ?_) (fun _ _ _ => rfl)
  simp [Level.reader, readPrimary]

/-- A draft in parentheses reads as what it is by itself. -/
theorem group {d : Draft} {e : Expr} (h : ReadsAs t none d e)
    (hop : ∀ op ∈ parent, op = .and ∨ op = .or → e.heads op = false) :
    ReadsAs t parent (.sql "(" :: (d ++ [.sql ")"])) e := by
  obtain ⟨tokens, phrase, hspells, hexpr, hreads⟩ := h
  refine ⟨_, phrase, hspells.group.spells, hexpr, (Reads.group hreads).under ?_⟩
  intro op hparent hchain
  rw [Phrase.heads_of_toExpr? hexpr, hop op hparent hchain]

/-- A negation that does not stand under a comparison. -/
theorem negation {d : Draft} {e : Expr} (h : ReadsAs t (some .not) d e)
    (hparent : Expr.groupsNegation parent = false) :
    ReadsAs t parent (.sql Operator.not.sql :: d) (.unary .not e) := by
  obtain ⟨tokens, phrase, hspells, hexpr, hreads⟩ := h
  refine ⟨.operator .not :: tokens, .negation phrase,
    (sealed_operator .not).sealed_append hspells, by simp [Phrase.toExpr?, hexpr], ?_⟩
  exact (Reads.not hreads).under_of_negation hparent fun _ _ => rfl

/-- A comparison of two operands. -/
theorem comparison {op : Operator} {dl dr : Draft} {left right : Expr}
    (hop : op.isComparison = true) (hl : ReadsAs t (some op) dl left)
    (hr : ReadsAs t (some op) dr right) :
    ReadsAs t none (dl ++ .sql op.sql :: dr) (.binary op left right) := by
  obtain ⟨tl, pl, hspellsl, hexprl, hreadsl⟩ := hl
  obtain ⟨tr, pr, hspellsr, hexprr, hreadsr⟩ := hr
  have hnot : op ≠ .not := by rintro rfl; cases hop
  have hunder (tokens : List (Token Value)) (phrase : Phrase Value)
      (h : ReadsUnder (some op) tokens phrase) : Reads .primary tokens phrase := by
    cases op with
    | and | or | not => cases hop
    | _ => exact h
  have hcompares : compares (.operator op : Token Value) = true := by
    cases op with
    | and | or | not => cases hop
    | _ => rfl
  refine ⟨tl ++ .operator op :: tr, .binary op pl pr,
    hspellsl.break_append (breaks_operator hnot _) ((sealed_operator op).sealed_append hspellsr),
    by simp [Phrase.toExpr?, hexprl, hexprr], ?_⟩
  exact (Reads.compare hcompares (hunder _ _ hreadsl) (hunder _ _ hreadsr)).negation.begins
    |>.conjunction.begins.disjunction

/-- Operands of a logical operator, by themselves or as a part of a longer chain. -/
theorem chain {op : Operator} {dl dr : Draft} {left right : Expr} (hop : op = .and ∨ op = .or)
    (hl : ReadsAs t (some op) dl left) (hr : ReadsAs t (some op) dr right)
    (hparent : parent = none ∨ parent = some op) :
    ReadsAs t parent (dl ++ .sql op.sql :: dr) (left.attach op right) := by
  obtain ⟨tl, pl, hspellsl, hexprl, hreadsl⟩ := hl
  obtain ⟨tr, pr, hspellsr, hexprr, hreadsr⟩ := hr
  have hnot : op ≠ .not := by rcases hop with rfl | rfl <;> simp
  refine ⟨tl ++ .operator op :: tr, pl.attach op pr,
    hspellsl.break_append (breaks_operator hnot _) ((sealed_operator op).sealed_append hspellsr),
    Phrase.toExpr?_attach hexprl hexprr, ?_⟩
  rcases hop with rfl | rfl
  · have hchains : Chains .and .negation (tl ++ .operator .and :: tr) (pl.attach .and pr) :=
      Chains.join hreadsl hreadsr rfl
    rcases hparent with rfl | rfl
    · exact hchains.begins.conjunction.begins.disjunction
    · exact hchains
  · have hchains : Chains .or .conjunction (tl ++ .operator .or :: tr) (pl.attach .or pr) :=
      Chains.join hreadsl hreadsr rfl
    rcases hparent with rfl | rfl
    · exact hchains.begins.disjunction
    · exact hchains

end ReadsAs

/-! ## The induction over the expression -/

/-- A rendered expression spells the expression, associated to the left, at the place for which it
was rendered. -/
theorem Expr.spells_render {t : Table type} (e : Expr) {parent : Option Operator} {d : Draft}
    (h : e.render t parent = .done d) : ReadsAs t parent d e.leftAssociated := by
  induction e generalizing parent d with
  | field name =>
    obtain ⟨i, rfl, rfl⟩ := Table.renderField_eq_done_iff.1 h
    exact .field i
  | literal v =>
    rw [render, Rendering.bind_eq_done, Rendering.done_inj] at h
    subst h
    exact .literal v
  | aggregate function name =>
    cases function with
    | none =>
      obtain ⟨i, rfl, rfl⟩ := Table.renderField_eq_done_iff.1 h
      exact .field i
    | some f =>
      obtain ⟨i, rfl, rfl⟩ := render_aggregate_eq_done_iff.1 h
      exact .call i f
  | unary op right ih =>
    rw [render] at h
    -- The only operator with one operand is `NOT`; others stop the rendering.
    split at h
    · rename_i hop
      subst hop
      obtain ⟨inner, hinner, rfl⟩ := Rendering.grouped_eq_done_iff.1 h
      rw [Rendering.sql_eq_done, Rendering.done_append_eq_done_iff] at hinner
      obtain ⟨dr, hr, rfl⟩ := hinner
      split
      · exact (ReadsAs.negation (ih hr) rfl).group fun _ _ _ => rfl
      · rename_i hgroup
        exact .negation (ih hr) (by simpa using hgroup)
    · exact absurd h (Rendering.fail_ne_done _ _)
  | binary op left right ihl ihr =>
    rw [render] at h
    split at h
    · exact absurd h (Rendering.fail_ne_done _ _)
    · rename_i hnot
      obtain ⟨inner, hinner, rfl⟩ := Rendering.grouped_eq_done_iff.1 h
      obtain ⟨dl, dr, hl, hr, rfl⟩ := Rendering.append_sql_append_eq_done_iff.1 hinner
      have hleft := ihl hl
      have hright := ihr hr
      by_cases hcompares : op.isComparison = true
      · -- A comparison stands in parentheses wherever it stands.
        have hchain : ¬ (op = .and ∨ op = .or) := by rintro (rfl | rfl) <;> cases hcompares
        rw [leftAssociated, if_neg hchain, if_pos (by simp [hcompares])]
        refine (ReadsAs.comparison hcompares hleft hright).group fun found _ hfound => ?_
        simp only [heads, beq_eq_false_iff_ne]
        rintro rfl
        exact hchain hfound
      · have hchain : op = .and ∨ op = .or := by
          cases op with
          | and => exact .inl rfl
          | or => exact .inr rfl
          | not => exact absurd rfl hnot
          | _ => exact absurd rfl hcompares
        rw [leftAssociated, if_pos hchain]
        simp only [hcompares, Bool.false_or]
        split
        · -- Under another operator, the chain is grouped.
          rename_i hgroups
          refine (ReadsAs.chain hchain hleft hright (.inl rfl)).group fun found hfound _ => ?_
          rw [heads_attach, beq_eq_false_iff_ne]
          rintro rfl
          cases hfound
          simp [groupsLogical] at hgroups
        · rename_i hgroups
          refine .chain hchain hleft hright ?_
          cases parent with
          | none => exact .inl rfl
          | some outer =>
            have houter : outer = op := by simpa [groupsLogical] using hgroups
            exact .inr (congrArg some houter)

/-! ## Whole expressions -/

namespace Expr

/-- If no column of a table has a back-tick, a rendered expression reads as the expression,
associated to the left. -/
theorem readsAs_render {t : Table type} (plain : ∀ i, '\x60' ∉ (t.column i).toList) (e : Expr)
    {parent : Option Operator} {d : Draft} (h : e.render t parent = .done d) :
    ∃ tokens phrase, Legible d tokens ∧ phrase.toExpr? t = some e.leftAssociated
      ∧ ReadsUnder parent tokens phrase := by
  obtain ⟨tokens, phrase, hspells, hexpr, hreads⟩ := e.spells_render h
  have hplain : d.Plain := by
    intro ident hident
    rw [(e.carries_render h).names] at hident
    obtain ⟨i, rfl⟩ := exists_of_mem_columns hident
    exact plain i
  exact ⟨tokens, phrase, ⟨hspells, hplain⟩, hexpr, hreads⟩

/-- The text of an expression, with its arguments put into their places, reads as one phrase and
nothing else, and this phrase is the expression, associated to the left. -/
theorem compile_reads_back {t : Table type} {e : Expr} {stmt : Statement}
    (plain : ∀ i, '\x60' ∉ (t.column i).toList) (h : (e.compile t).statement = .ok stmt) :
    ∃ tokens bound phrase, tokens? stmt.sql.toList = some tokens
      ∧ supply tokens stmt.args = some bound ∧ Phrase.read? bound = some phrase
      ∧ phrase.toExpr? t = some e.leftAssociated := by
  obtain ⟨d, hrender, rfl⟩ := Rendering.statement_eq_ok_iff.1 h
  obtain ⟨tokens, phrase, hlegible, hexpr, hreads⟩ := e.readsAs_render plain hrender
  obtain ⟨htokens, hargs⟩ := hlegible.read
  exact ⟨_, tokens, phrase, htokens, hargs, Reads.read? hreads, hexpr⟩

/-- A comparison with a negation on one side and a nested chain on the other. -/
theorem compile_reads_back_note : ∃ stmt tokens bound phrase,
    ((binary .eq (.unary .not (.field "id"))
      (.binary .and (.literal .null) (.binary .and (.aggregate none "title")
        (.binary .or (.aggregate (some .max) "id") (.literal (.bool true)))))).compile
          Table.note).statement = .ok stmt
      ∧ tokens? stmt.sql.toList = some tokens ∧ supply tokens stmt.args = some bound
      ∧ Phrase.read? bound = some phrase
      ∧ phrase.toExpr? Table.note = some (binary .eq (.unary .not (.field "id"))
          (.binary .and (.binary .and (.literal .null) (.field "title"))
            (.binary .or (.aggregate (some .max) "id") (.literal (.bool true))))) := by
  obtain ⟨tokens, bound, phrase, h⟩ := compile_reads_back Table.note_plain
    (e := binary .eq (.unary .not (.field "id"))
      (.binary .and (.literal .null) (.binary .and (.aggregate none "title")
        (.binary .or (.aggregate (some .max) "id") (.literal (.bool true)))))) rfl
  exact ⟨_, tokens, bound, phrase, rfl, h⟩

end Expr

end RecordSql
