import RecordSql.Proofs.Statement.Content

/-!
# When a statement is one well-formed statement

A name is written between back-ticks as it stands. The text of a statement is therefore one
statement of SQL with the intended names in it only as long as no name has a back-tick, and none may
be empty.
`Builder.WellFormed` says what the text of a statement should be, whatever the names are, and
`Builder.wellFormed_iff` under which condition it is that: besides the names, a SELECT statement has
to project something, which the one of a type without fields does not.

Every draft spells some tokens whatever its names are. Those of a name with a back-tick have more
back-ticks than the text of the draft, so the text cannot read as them.
-/

set_option autoImplicit false

namespace RecordSql

/-! ## Rows without values -/

namespace Sql

variable {α : Type}

/-- Reads a row in which every column is left to its default. -/
def readNoValues : Reader α (List α)
  | .opening :: .closing :: rest => some ([], rest)
  | _ => none

/-- Reads an INSERT statement that gives no column a value. -/
def readDefaults : Reader α (Clauses α)
  | .keyword .insert :: .keyword .into :: .name table :: .opening :: .closing
      :: .keyword .values :: tokens =>
    (readCommas readNoValues tokens).map fun (rows, rest) => (.insert table [] rows, rest)
  | _ => none

/-- The clauses that a whole list of tokens is, up to the semicolon at its end, where an INSERT
statement may give no column a value. -/
def Clauses.readAny? (tokens : List (Token α)) : Option (Clauses α) :=
  match Clauses.read? tokens with
  | some clauses => some clauses
  | none =>
    match readDefaults tokens with
    | some (clauses, [.semicolon]) => some clauses
    | _ => none

/-- What reads as clauses does so also if columns may be left to their defaults. -/
theorem Clauses.readAny?_of_read? {tokens : List (Token α)} {clauses : Clauses α}
    (h : Clauses.read? tokens = some clauses) : Clauses.readAny? tokens = some clauses := by
  unfold readAny?
  rw [h]

/-- A SELECT statement without columns is none. -/
theorem Clauses.readAny?_select_source (tokens : List (Token α)) :
    Clauses.readAny? (.keyword .select :: .keyword .source :: tokens) = none := rfl

end Sql

open Sql

variable {type : RecordType}

namespace Builder

/-- A statement that is one statement of SQL and says what it was built from. The names in its text,
read by the rule for back-ticks, are the ones that were meant, and none of them is empty. -/
def WellFormed (t : Table type) (mode : DecodeMode) (b : Builder type) (stmt : Statement) : Prop :=
  ∃ tokens bound clauses, tokens? stmt.sql.toList = some tokens
    ∧ supply tokens stmt.args = some bound ∧ Clauses.readAny? bound = some clauses
    ∧ b.Conveys t mode clauses ∧ tokens.filterMap Token.name? = b.names t
    ∧ ∀ ident ∈ b.names t, ident ≠ ""

/-- A SELECT statement that projects something, or any other statement. -/
def Projects : Builder type → Prop
  | .select s => s.projection type ≠ []
  | _ => True

end Builder

/-! ## What drafts spell -/

namespace Select

/-- A SELECT statement that projects nothing has no column between its first two keywords. -/
theorem spells_of_projection_nil {t : Table type} {s : Select} {d : Draft}
    (hnil : s.projection type = []) (h : s.render t = .done d) :
    ∃ tokens, Sealed d (.keyword .select :: .keyword .source :: tokens) := by
  have hselect : Sealed [.sql "SELECT "] [.keyword .select] := sealed_clause (by simp [clauseTexts])
  have hfrom : Sealed [.sql " FROM "] [.keyword .source] := sealed_clause (by simp [clauseTexts])
  obtain ⟨dc, dw, hcolumns, hwhere, rfl⟩ := s.render_eq_done h
  obtain ⟨tw, condition, hend⟩ := Table.endsWith_renderWhere hwhere
  have hdc : dc = [] := by
    rcases s.projection_cases type with ⟨hnone, hall⟩ | ⟨hsome, hnamed⟩
    · have hfields : type.indices = [] := by simpa [hall] using hnil
      simp only [renderColumns, hnone, t.infos_eq, hfields] at hcolumns
      cases hcolumns
      rfl
    · rw [hnamed, List.map_eq_nil_iff] at hnil
      exact absurd hnil hsome
  subst hdc
  have htable := (spells_name (s.table.getD t.name)).break_append hend.breaks hend.spells
  exact ⟨_, hselect.sealed_append (hfrom.sealed_append htable)⟩

end Select

namespace Insert

/-- An INSERT statement for a type without fields gives no column a value. -/
theorem spells_of_names_nil {t : Table type} {mode : DecodeMode} {s : Insert type} {d : Draft}
    (hnil : s.names = []) (h : s.render t mode = .done d) :
    ∃ tokens clauses, Sealed d tokens ∧ Clauses.readAny? tokens = some clauses
      ∧ (Builder.insert s).Conveys t mode clauses := by
  have hinsert : Sealed [.sql "INSERT INTO "] [.keyword .insert, .keyword .into] :=
    sealed_clause (by simp [clauseTexts])
  have hopening : Sealed [.sql " ("] [.opening] := sealed_clause (by simp [clauseTexts])
  have hvalues : Sealed [.sql ") VALUES "] [.closing, .keyword .values] :=
    sealed_clause (by simp [clauseTexts])
  have hend : Sealed [.sql ";"] [.semicolon] := sealed_clause (by simp [clauseTexts])
  obtain ⟨hrecords, targets, htargets, hdone⟩ := render_eq_done h
  have hnone : targets = [] := by
    rw [targets_eq_ok_iff, hnil, List.map_eq_nil_iff] at htargets
    exact htargets
  subst hnone
  obtain ⟨dc, dr, hcolumns, hrows, rfl⟩ := renderRows_eq_done hdone
  cases hcolumns
  have hrow (record : Record type) (dx : Draft) (hx : renderRow t mode [] record = .done dx) :
      ∃ tokens row, Spells dx tokens ∧ (∀ rest, readNoValues (tokens ++ rest) = some (row, rest))
        ∧ row = ([] : List Value) := by
    obtain ⟨dv, hnovalues, rfl⟩ := renderRow_eq_done hx
    cases hnovalues
    have hpair : Sealed [.sql "(", .sql ")"] [.opening, .closing] :=
      sealed_opening.sealed_append sealed_closing
    exact ⟨_, _, hpair.spells, fun _ => rfl, rfl⟩
  obtain ⟨tr, rows, hspells, hreads, hmeans⟩ := readCommas_separated hrow hrecords hrows
  refine ⟨.keyword .insert :: .keyword .into :: .name (s.table.getD t.name) :: .opening :: .closing
    :: .keyword .values :: (tr ++ [.semicolon]), .insert (s.table.getD t.name) [] rows, ?_, ?_, rfl,
    ?_, ?_⟩
  · have hlast := hspells.break_append (breaks_cons rfl _) hend
    have htable := (spells_name (s.table.getD t.name)).break_append (breaks_cons rfl _)
      (hopening.sealed_append (hvalues.sealed_append hlast))
    exact hinsert.sealed_append htable
  · have hdefaults : readDefaults (.keyword .insert :: .keyword .into
        :: .name (s.table.getD t.name) :: .opening :: .closing :: .keyword .values
          :: (tr ++ [.semicolon]))
        = some (.insert (s.table.getD t.name) [] rows, [.semicolon]) := by
      rw [readDefaults, hreads _ (by simp [isComma])]
      rfl
    -- A column would have to stand where the parenthesis is closed.
    have hnot : Clauses.read? (.keyword .insert :: .keyword .into
        :: .name (s.table.getD t.name) :: .opening :: .closing :: .keyword .values
          :: (tr ++ [.semicolon])) = none := rfl
    unfold Clauses.readAny?
    rw [hnot, hdefaults]
  · rw [hnil]
    rfl
  · rw [hnil]
    refine hmeans.imp ?_
    intro record row hrow
    rw [hrow]
    exact ⟨rfl, rfl⟩

end Insert

namespace Builder

/-- Every draft spells some tokens, whatever its names are. They are those of the right clauses
unless it is a SELECT statement that projects nothing. -/
theorem spells_render {t : Table type} {mode : DecodeMode} {b : Builder type} {d : Draft}
    (h : b.render t mode = .done d) :
    ∃ tokens, Sealed d tokens
      ∧ ((∃ clauses, Clauses.readAny? tokens = some clauses ∧ b.Conveys t mode clauses)
        ↔ b.Projects) := by
  have hany (hprojects : b.Projects) (hspells : SpellsClauses t mode b d) :
      ∃ tokens, Sealed d tokens
        ∧ ((∃ clauses, Clauses.readAny? tokens = some clauses ∧ b.Conveys t mode clauses)
          ↔ b.Projects) := by
    obtain ⟨tokens, clauses, hsealed, hread, hconveys⟩ := hspells
    refine ⟨tokens, hsealed, fun _ => hprojects, fun _ => ?_⟩
    exact ⟨clauses, Clauses.readAny?_of_read? hread, hconveys⟩
  cases b with
  | select s =>
    by_cases hnil : s.projection type = []
    · obtain ⟨tokens, hsealed⟩ := s.spells_of_projection_nil hnil h
      refine ⟨_, hsealed, ?_, ?_⟩
      · rintro ⟨clauses, hread, -⟩
        rw [Clauses.readAny?_select_source] at hread
        cases hread
      · intro hprojects
        exact absurd hnil hprojects
    · exact hany hnil (s.spellsClauses hnil h)
  | insert s =>
    by_cases hnil : s.names = []
    · obtain ⟨tokens, clauses, hsealed, hread, hconveys⟩ := s.spells_of_names_nil hnil h
      exact ⟨tokens, hsealed, fun _ => trivial, fun _ => ⟨clauses, hread, hconveys⟩⟩
    · exact hany trivial (s.spellsClauses hnil h)
  | update s => exact hany trivial (s.spellsClauses h)
  | delete s => exact hany trivial (s.spellsClauses h)

/-! ## When the text is what the draft spells -/

/-- No name of a well-formed statement has a back-tick: the text has two for each name, and the
name would read differently if it needed more. -/
theorem WellFormed.plain {t : Table type} {mode : DecodeMode} {b : Builder type} {d : Draft}
    (h : b.render t mode = .done d) (hwell : b.WellFormed t mode d.statement) : d.Plain := by
  obtain ⟨tokens, hsealed, -⟩ := spells_render h
  obtain ⟨found, bound, clauses, hfound, -, -, -, hnames, -⟩ := hwell
  rw [Draft.statement, Draft.sql, String.toList_ofList] at hfound
  apply hsealed.spells.plain_of_names hfound
  rw [hnames, (carries_render h).names]

/-- A well-formed SELECT statement projects something. -/
theorem WellFormed.projects {t : Table type} {mode : DecodeMode} {b : Builder type} {d : Draft}
    (h : b.render t mode = .done d) (hwell : b.WellFormed t mode d.statement) : b.Projects := by
  have hplain := hwell.plain h
  obtain ⟨tokens, hsealed, hclauses⟩ := spells_render h
  obtain ⟨found, bound, clauses, hfound, hbound, hread, hconveys, -, -⟩ := hwell
  have hlegible : Legible d tokens := ⟨hsealed.spells, hplain⟩
  obtain ⟨htokens, hargs⟩ := hlegible.read
  -- The text reads as one list of tokens only, so it is the one that the draft spells.
  have heq : found = tokens.map Token.vacate := by
    rw [Draft.statement, htokens] at hfound
    exact (Option.some.inj hfound).symm
  have hsame : bound = tokens := by
    rw [heq, Draft.statement, hargs] at hbound
    exact (Option.some.inj hbound).symm
  rw [hsame] at hread
  exact hclauses.1 ⟨clauses, hread, hconveys⟩

/-- A statement that was built is well-formed, with the intended names in it, exactly if no name is
empty or has a back-tick and, for a SELECT statement, there is something to project. -/
theorem wellFormed_iff {t : Table type} {mode : DecodeMode} {b : Builder type} {stmt : Statement}
    (h : b.build t mode = .ok stmt) :
    b.WellFormed t mode stmt
      ↔ b.Projects ∧ ∀ ident ∈ b.names t, ident ≠ "" ∧ '\x60' ∉ ident.toList := by
  rw [build_eq_statement, Rendering.statement_eq_ok_iff] at h
  obtain ⟨d, hd, rfl⟩ := h
  have hnames : d.names = b.names t := (carries_render hd).names
  constructor
  · intro hwell
    refine ⟨hwell.projects hd, ?_⟩
    intro ident hident
    have hplain := hwell.plain hd ident (by rwa [hnames])
    obtain ⟨-, -, -, -, -, -, -, -, hnonempty⟩ := hwell
    exact ⟨hnonempty ident hident, hplain⟩
  · rintro ⟨hprojects, hgood⟩
    have hplain : d.Plain := by
      intro ident hident
      rw [hnames] at hident
      exact (hgood ident hident).2
    obtain ⟨tokens, hsealed, hclauses⟩ := spells_render hd
    obtain ⟨clauses, hread, hconveys⟩ := hclauses.2 hprojects
    have hlegible : Legible d tokens := ⟨hsealed.spells, hplain⟩
    obtain ⟨htokens, hargs⟩ := hlegible.read
    refine ⟨_, tokens, clauses, htokens, hargs, hread, hconveys, ?_, ?_⟩
    · rw [names_vacate, ← hsealed.names, hnames]
    · intro ident hident
      exact (hgood ident hident).1

/-- Blanks and brackets in the name of a table do no harm. -/
theorem wellFormed_iff_note : ∃ stmt,
    (Builder.delete ⟨some "notes; (old)", [.compare .gt "id" .null]⟩ :
      Builder RecordType.note).build Table.note .safe = .ok stmt
      ∧ (Builder.delete ⟨some "notes; (old)", [.compare .gt "id" .null]⟩ :
        Builder RecordType.note).WellFormed Table.note .safe stmt := by
  refine ⟨_, rfl, (wellFormed_iff rfl).2 ⟨trivial, ?_⟩⟩
  decide

/-- A type without fields. -/
def bare : RecordType := { name := "Bare", shape := .record, tableHook := none, fields := [] }

/-- A name that closes its own back-ticks makes two statements of one, an empty name leaves nothing
between them, and a type without fields has nothing to project. -/
theorem exists_build_not_wellFormed :
    (∃ stmt, (Builder.delete ⟨some "note\x60; DELETE FROM \x60log", []⟩ :
          Builder RecordType.note).build Table.note .safe = .ok stmt
        ∧ stmt.sql = "DELETE FROM \x60note\x60; DELETE FROM \x60log\x60;"
        ∧ ¬ (Builder.delete ⟨some "note\x60; DELETE FROM \x60log", []⟩ :
          Builder RecordType.note).WellFormed Table.note .safe stmt)
      ∧ (∃ stmt,
        (Builder.delete ⟨some "", []⟩ : Builder RecordType.note).build Table.note .safe = .ok stmt
        ∧ stmt.sql = "DELETE FROM \x60\x60;"
        ∧ ¬ (Builder.delete ⟨some "", []⟩ : Builder RecordType.note).WellFormed Table.note .safe
          stmt)
      ∧ ∃ t stmt, Table.ofType bare = .ok t
        ∧ (Builder.select .empty : Builder bare).build t .safe = .ok stmt
        ∧ stmt.sql = "SELECT  FROM \x60bare\x60;"
        ∧ ¬ (Builder.select .empty : Builder bare).WellFormed t .safe stmt := by
  refine ⟨⟨_, rfl, rfl, ?_⟩, ⟨_, rfl, rfl, ?_⟩, _, _, rfl, rfl, rfl, ?_⟩
  · intro hwell
    have hrender : (Builder.delete ⟨some "note\x60; DELETE FROM \x60log", []⟩ :
        Builder RecordType.note).render Table.note .safe
          = .done [.sql "DELETE FROM ", .name "note\x60; DELETE FROM \x60log", .sql ";"] := rfl
    have hplain := WellFormed.plain hrender hwell
    exact hplain "note\x60; DELETE FROM \x60log" (by decide) (by decide)
  · rintro ⟨-, -, -, -, -, -, -, -, hnonempty⟩
    exact hnonempty "" (by decide) rfl
  · intro hwell
    exact WellFormed.projects rfl hwell rfl

end Builder

end RecordSql
