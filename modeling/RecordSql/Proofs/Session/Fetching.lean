import RecordSql.Proofs.Row.Feed
import RecordSql.Proofs.Session.Run

/-!
# The three ways to fetch

A query may be asked for all of its rows, for its first row, or for a first row that must be there.
The three ways differ only in what they make of the rows: they register the same type, send the same
statement and log the same. What the first row alone comes to is the beginning of what all rows come
to. A row behind the first, or the end of the rows, may still fail when all of them are read; that
is the one thing that reading the first row does not tell.
-/

set_option autoImplicit false

namespace RecordSql

/-- What all records come to, beside what the first of them comes to. -/
inductive Begins {α : Type} : Except Fault (List α) → Except Fault (Option α) → Prop where
  /-- There are none. -/
  | empty : Begins (.ok []) (.ok none)
  /-- The first one fails, or what comes before it. -/
  | fails (fault : Fault) : Begins (.error fault) (.error fault)
  /-- All of them come. -/
  | comes (first : α) (others : List α) : Begins (.ok (first :: others)) (.ok (some first))
  /-- The first one comes, and something behind it fails. -/
  | failsLater (fault : Fault) (first : α) : Begins (.error fault) (.ok (some first))

namespace Begins

variable {α : Type} {all : Except Fault (List α)} {first : Except Fault (Option α)}

/-- If all of them come, the first is the first one of them. -/
theorem head? (h : Begins all first) {records : List α} (hall : all = .ok records) :
    first = .ok records.head? := by
  cases h with
  | empty => cases hall; rfl
  | fails fault => cases hall
  | comes a others => cases hall; rfl
  | failsLater fault a => cases hall

/-- If there is no first one, there are none. -/
theorem eq_nil (h : Begins all first) (hfirst : first = .ok none) : all = .ok [] := by
  cases h with
  | empty => rfl
  | fails fault => cases hfirst
  | comes a others => cases hfirst
  | failsLater fault a => cases hfirst

/-- If the first one fails, so do all. -/
theorem eq_error (h : Begins all first) {fault : Fault} (hfirst : first = .error fault) :
    all = .error fault := by
  cases h with
  | empty => cases hfirst
  | fails found => cases hfirst; rfl
  | comes a others => cases hfirst
  | failsLater found a => cases hfirst

end Begins

namespace Session

/-! ## Reading rows -/

section Reading

variable {type : RecordType}

/-- Reading the first of the rows held in memory is the first step of reading all of them. -/
theorem begins_of_decodesAll {mode : DecodeMode} {t : Table type} {feed : RowFeed}
    {all : Except Fault (List (Record type))} (h : t.DecodesAll mode feed all) :
    Begins all (firstRow mode t feed) := by
  unfold firstRow
  cases h with
  | lost hnext =>
    rw [hnext]
    exact .fails _
  | done hnext =>
    rw [hnext]
    exact .empty
  | refused hnext hrow =>
    rw [hnext]
    simp only [hrow]
    exact .fails _
  | @row _ _ _ record others hnext hrow _ =>
    rw [hnext]
    simp only [hrow]
    cases others with
    | error fault => exact .failsLater fault record
    | ok records => exact .comes record records

/-- Reading the first row of a driver is the first step of reading all of them. -/
theorem begins_driven (mode : DecodeMode) (t : Table type) (rows : DrivenRows) :
    Begins (t.decodeEachDriven mode rows.loss rows.rows) (t.decodeFirstDriven mode rows) := by
  unfold Table.decodeFirstDriven
  cases rows.rows with
  | nil =>
    cases rows.loss with
    | none => exact .empty
    | some fault => exact .fails fault
  | cons row others =>
    unfold Table.decodeEachDriven
    simp only
    cases t.decodeDriven mode row with
    | error fault => exact .fails fault
    | ok record =>
      simp only
      cases t.decodeEachDriven mode rows.loss others with
      | error fault => exact .failsLater fault record
      | ok records => exact .comes record records

/-- Reading the first row begins as reading all rows does. -/
theorem begins_read (mode : DecodeMode) (t : Table type) (rows : Rows) :
    Begins (readAll mode t rows) (readFirst mode t rows) := by
  cases rows with
  | held feed => exact begins_of_decodesAll (t.decodesAll_decodeAll mode feed)
  | driven delivered => exact begins_driven mode t delivered

end Reading

/-! ## Fetching -/

variable {κ : Type} {types : κ → RecordType} [DecidableEq κ]

/-- Two ways to read the rows of a query, of which one reads what the other begins with, do so after
the same work: whatever fails before the rows are there fails for both. -/
theorem begins_fetch {α : Type} (s : Session types) (key : κ) (query : Query)
    {all : Table (types key) → Rows → Except Fault (List α)}
    {first : Table (types key) → Rows → Except Fault (Option α)}
    (h : ∀ t rows, Begins (all t rows) (first t rows)) :
    Begins (s.fetch key query all).result (s.fetch key query first).result
      ∧ (s.fetch key query first).session = (s.fetch key query all).session
      ∧ (s.fetch key query first).events = (s.fetch key query all).events := by
  unfold fetch
  simp only
  cases (s.table key).result with
  | error fault => exact ⟨.fails fault, rfl, rfl⟩
  | ok t =>
    simp only
    cases query.build t s.settings.mode with
    | error fault => exact ⟨.fails fault, rfl, rfl⟩
    | ok statement =>
      refine ⟨?_, rfl, rfl⟩
      simp only
      cases ((s.table key).session.sendQuery query.kind statement).result with
      | error fault => exact .fails fault
      | ok rows => exact h t rows

/-- Fetching all rows sends the statement of the query, if it has one. -/
theorem sent_fetchAll (s : Session types) (key : κ) (query : Query) :
    (s.fetchAll key query).session.backend.sent
      = s.backend.sent ++ (s.plan (.fetchAll key query)).toOption.toList := by
  obtain ⟨fault, hplan, -, hsession⟩ | ⟨statement, hplan, hsession, -⟩ :=
    s.perform_cases (.fetchAll key query)
  · have hsent : (s.fetchAll key query).session.backend.sent = s.backend.sent :=
      congrArg (fun s => s.backend.sent) hsession
    rw [hsent, hplan]
    exact (List.append_nil _).symm
  · have hsent : (s.fetchAll key query).session.backend.sent = s.backend.sent ++ [statement] :=
      congrArg (fun s => s.backend.sent) hsession
    rw [hsent, hplan]
    rfl

/-- The three ways to fetch agree. If all records come, an optional record is the first of them, or
none if there are none; if there is no optional record, there are no records at all; and if the
optional record fails, all records fail in the same way. A record that must be there is the optional
record, and its lack is a fault. All three leave the same session and the same log behind, and the
statement that they sent is the one that the query has for the registered type. -/
theorem fetches_agree (s : Session types) (key : κ) (query : Query) :
    (∀ records, (s.fetchAll key query).result = .ok records →
        (s.fetchOptional key query).result = .ok records.head?)
      ∧ ((s.fetchOptional key query).result = .ok none →
        (s.fetchAll key query).result = .ok [])
      ∧ (∀ fault, (s.fetchOptional key query).result = .error fault →
        (s.fetchAll key query).result = .error fault)
      ∧ (s.fetchOne key query).result
        = (s.fetchOptional key query).result.bind (fun found => found.elim (.error .noRows) .ok)
      ∧ (∀ op ∈ [.fetchAll key query, .fetchOne key query, .fetchOptional key query],
        (s.perform op).session.backend.sent
            = s.backend.sent ++ (s.plan (.fetchAll key query)).toOption.toList
          ∧ (s.perform op).session = (s.fetchAll key query).session
          ∧ (s.perform op).events = (s.fetchAll key query).events) := by
  obtain ⟨hbegins, hsession, hevents⟩ :=
    s.begins_fetch key query (begins_read s.settings.mode)
  refine ⟨fun records => hbegins.head?, hbegins.eq_nil, fun fault => hbegins.eq_error, ?_, ?_⟩
  · unfold fetchOne
    simp only
    cases (s.fetchOptional key query).result with
    | error fault => rfl
    | ok found => cases found <;> rfl
  · have hsent := s.sent_fetchAll key query
    intro op hop
    simp only [List.mem_cons, List.not_mem_nil, or_false] at hop
    rcases hop with rfl | rfl | rfl
    · exact ⟨hsent, rfl, rfl⟩
    · exact ⟨(congrArg (fun s => s.backend.sent) hsession).trans hsent, hsession, hevents⟩
    · exact ⟨(congrArg (fun s => s.backend.sent) hsession).trans hsent, hsession, hevents⟩

/-- A session that knows notes, whose next query is answered with notes of these titles. -/
def ofTitles (titles : List Value) : Session noteOrPair :=
  ⟨.standard, ⟨0, [⟨true, .note⟩]⟩,
    .ofReplies [⟨.lasting ⟨0⟩, ⟨0⟩,
      .rows (.ofSet (.ofRows ["heading"] (titles.map fun title => [title])))⟩]⟩

/-- Two notes, no notes, and a note whose title is no text. -/
theorem fetches_agree_notes :
    (∃ records, ((ofTitles [.text "one", .null]).fetchAll true (.select .empty)).result
          = .ok records
        ∧ ((ofTitles [.text "one", .null]).fetchOptional true (.select .empty)).result
          = .ok records.head?)
      ∧ ((ofTitles []).fetchAll true (.select .empty)).result = .ok []
      ∧ ((ofTitles [.bool true, .null]).fetchAll true (.select .empty)).result
        = .error (.decode "heading" "expected Text, found bool") := by
  obtain ⟨hrecords, -⟩ := (ofTitles [.text "one", .null]).fetches_agree true (.select .empty)
  obtain ⟨-, hnone, -⟩ := (ofTitles []).fetches_agree true (.select .empty)
  obtain ⟨-, -, hfault, -⟩ := (ofTitles [.bool true, .null]).fetches_agree true (.select .empty)
  exact ⟨⟨_, rfl, hrecords _ rfl⟩, hnone rfl, hfault _ rfl⟩

end Session

end RecordSql
