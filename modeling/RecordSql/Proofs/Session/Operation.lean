import RecordSql.Proofs.Row.Faults
import RecordSql.Proofs.Schema.Catalog
import RecordSql.Proofs.Statement.Faults
import RecordSql.Session.Session

/-!
# The operations of a session

An operation has a plan: the statement that it sends, or the fault that keeps it from sending one.
What an operation can do follows from its plan. Without a statement it ends with the fault and
leaves the back end alone. With one it takes one reply, and from then on every fault is a late one.
No operation changes a plan.
-/

set_option autoImplicit false

namespace RecordSql

/-! ## Answers -/

/-- An answer that brings only late faults, with its rows included. -/
def Answer.FailsLate : Answer → Prop
  | .fail fault => fault.Late
  | .driven delivered => delivered.FailsLate
  | .done _ | .rows _ | .echo _ | .nothing => True

/-- Rows that bring only late faults. -/
def Rows.FailsLate : Rows → Prop
  | .held _ => True
  | .driven rows => rows.FailsLate

/-- An answer that fails late does so for a command. -/
theorem Answer.FailsLate.forCommand {answer : Answer} (h : answer.FailsLate) :
    FailsOnly Fault.Late answer.forCommand := by
  cases answer with
  | fail fault => exact .error h
  | done outcome => exact .ok outcome
  | nothing => exact .ok _
  | _ => exact .error rfl

/-- An answer that fails late does so for a query. -/
theorem Answer.FailsLate.forQuery {answer : Answer} (h : answer.FailsLate)
    (lastArgs : List Value) : FailsOnly Fault.Late (answer.forQuery lastArgs) := by
  cases answer with
  | fail fault => exact .error h
  | done outcome => exact .error rfl
  | _ => exact .ok _

/-- The rows of an answer that fails late fail late. -/
theorem Answer.FailsLate.rows {answer : Answer} (h : answer.FailsLate) {lastArgs : List Value}
    {rows : Rows} (hrows : answer.forQuery lastArgs = .ok rows) : rows.FailsLate := by
  cases answer with
  | fail fault => cases hrows
  | done outcome => cases hrows
  | driven delivered =>
    cases hrows
    exact h
  | _ =>
    cases hrows
    trivial

namespace Session

section Reading

variable {type : RecordType} {mode : DecodeMode} {t : Table type}

/-- Reading all rows fails late if the rows do. -/
theorem failsOnly_readAll {rows : Rows} (h : rows.FailsLate) :
    FailsOnly Fault.Late (readAll mode t rows) := by
  cases rows with
  | held feed => exact Table.failsOnly_decodeUpTo _ feed
  | driven rows => exact Table.failsOnly_decodeEachDriven h

/-- Decoding the first row of a feed fails late. -/
theorem failsOnly_firstRow (feed : RowFeed) : FailsOnly Fault.Late (firstRow mode t feed) := by
  have hnext := feed.failsOnly_next
  unfold firstRow
  cases hfound : feed.next with
  | mk found feed =>
    rw [hfound] at hnext
    cases found with
    | error fault => exact .error (hnext fault rfl)
    | ok more =>
      cases more with
      | false => exact .ok none
      | true => exact (Table.failsOnly_decodeRow feed).map some

/-- Reading the first row fails late if the rows do. -/
theorem failsOnly_readFirst {rows : Rows} (h : rows.FailsLate) :
    FailsOnly Fault.Late (readFirst mode t rows) := by
  cases rows with
  | held feed => exact failsOnly_firstRow feed
  | driven rows => exact Table.failsOnly_decodeFirstDriven h

end Reading

variable {κ : Type} {types : κ → RecordType}

/-! ## Sending -/

/-- The reply that the next statement gets. -/
def nextReply (s : Session types) : Reply := s.backend.replies.headD Reply.empty

/-- Replies of which none brings a fault of construction. -/
def FailsLate (s : Session types) : Prop := ∀ reply ∈ s.backend.replies, reply.answer.FailsLate

/-- The next reply is one of those that fail late. -/
theorem FailsLate.nextReply {s : Session types} (h : s.FailsLate) :
    s.nextReply.answer.FailsLate := by
  unfold Session.nextReply
  cases hreplies : s.backend.replies with
  | nil => trivial
  | cons reply replies => exact h reply (by simp [hreplies])

/-- What comes of the next reply when its answer is read in some way: that it is out of time, or
what it says. -/
def received {α : Type} (s : Session types) (read : Answer → Except Fault α) : Except Fault α :=
  match s.settings.timeout with
  | some limit =>
    if s.nextReply.wait.exceeds limit then .error (.timeout limit) else read s.nextReply.answer
  | none => read s.nextReply.answer

/-- What the next command comes to once it was sent. -/
def nextExecution (s : Session types) : Execution := s.received Answer.forCommand

/-- Out of time or not, a reply that is read with late faults only has no others. -/
theorem failsOnly_received {α : Type} {s : Session types} {read : Answer → Except Fault α}
    (h : FailsOnly Fault.Late (read s.nextReply.answer)) :
    FailsOnly Fault.Late (s.received read) := by
  unfold received
  split
  · split
    · exact .error rfl
    · exact h
  · exact h

/-- What was received was read from the reply. -/
theorem received_eq_ok {α : Type} {s : Session types} {read : Answer → Except Fault α} {a : α}
    (h : s.received read = .ok a) : read s.nextReply.answer = .ok a := by
  unfold received at h
  split at h
  · split at h
    · cases h
    · exact h
  · exact h

/-- Rows that are read from a late reply fail only late. -/
theorem failsOnly_bind_received {α : Type} {s : Session types}
    (hreply : s.nextReply.answer.FailsLate) {read : Rows → Except Fault α}
    (hread : ∀ rows : Rows, rows.FailsLate → FailsOnly Fault.Late (read rows)) :
    FailsOnly Fault.Late ((s.received (Answer.forQuery s.backend.lastArgs)).bind read) := by
  apply FailsOnly.bind (failsOnly_received (hreply.forQuery s.backend.lastArgs))
  intro rows hrows
  exact hread rows (hreply.rows (received_eq_ok hrows))

end Session

/-! ## Operations -/

/-- An operation of a session. -/
inductive Operation {κ : Type} (types : κ → RecordType) where
  /-- All rows of a query. -/
  | fetchAll (key : κ) (query : Query)
  /-- The first row of a query, which must be there. -/
  | fetchOne (key : κ) (query : Query)
  /-- The first row of a query, if there is one. -/
  | fetchOptional (key : κ) (query : Query)
  /-- A command. -/
  | execute (key : κ) (command : Command (types key))

namespace Operation

variable {κ : Type} {types : κ → RecordType}

/-- The record type that an operation is for. -/
def key : Operation types → κ
  | .fetchAll key _ | .fetchOne key _ | .fetchOptional key _ | .execute key _ => key

/-- What an operation gives. -/
def Result : Operation types → Type
  | .fetchAll key _ => List (Record (types key))
  | .fetchOne key _ => Record (types key)
  | .fetchOptional key _ => Option (Record (types key))
  | .execute _ _ => Execution

/-- Whether an operation sends a command. -/
def isCommand : Operation types → Bool
  | .fetchAll _ _ | .fetchOne _ _ | .fetchOptional _ _ => false
  | .execute _ _ => true

/-- The statement of an operation, or the first fault in it. -/
def build (mode : DecodeMode) :
    (op : Operation types) → Table (types op.key) → Except Fault Statement
  | .fetchAll _ query, t | .fetchOne _ query, t | .fetchOptional _ query, t => query.build t mode
  | .execute _ command, t => command.build t mode

/-- An operation is refused with a fault of construction. -/
theorem failsOnly_build (mode : DecodeMode) (op : Operation types) (t : Table (types op.key)) :
    FailsOnly Fault.Early (op.build mode t) := by
  cases op with
  | execute key command => exact Command.failsOnly_build t mode command
  | _ => exact Query.failsOnly_build t mode _

end Operation

namespace Session

variable {κ : Type} {types : κ → RecordType} [DecidableEq κ]

/-- Carries an operation out. -/
def perform (s : Session types) : (op : Operation types) → Turn types (Except Fault op.Result)
  | .fetchAll key query => s.fetchAll key query
  | .fetchOne key query => s.fetchOne key query
  | .fetchOptional key query => s.fetchOptional key query
  | .execute key command => s.execute key command

/-- The statement that an operation sends: the record type must register and the statement must
build, with records read in the mode of the session. -/
def plan (s : Session types) (op : Operation types) : Except Fault Statement :=
  (s.table op.key).result.bind (op.build s.settings.mode)

/-! ## What an operation can do -/

/-- A query ends with the fault of its plan, or else its statement is sent and what comes of the
reply is read. -/
theorem fetch_cases {α : Type} (s : Session types) (key : κ) (query : Query)
    {read : Table (types key) → Rows → Except Fault α}
    (hread : ∀ t rows, rows.FailsLate → FailsOnly Fault.Late (read t rows)) :
    (∃ fault, s.plan (.fetchAll key query) = .error fault ∧
        (s.fetch key query read).result = .error fault ∧
        (s.fetch key query read).session = (s.table key).session) ∨
      ∃ statement, s.plan (.fetchAll key query) = .ok statement ∧
        (s.fetch key query read).session
          = { (s.table key).session with backend := (s.backend.take statement false).2 } ∧
        (s.nextReply.answer.FailsLate → FailsOnly Fault.Late (s.fetch key query read).result) := by
  unfold fetch plan
  simp only [Operation.key]
  cases htable : (s.table key).result with
  | error fault => exact .inl ⟨fault, rfl, rfl, rfl⟩
  | ok t =>
    simp only
    cases hbuild : query.build t s.settings.mode with
    | error fault => exact .inl ⟨fault, hbuild, rfl, rfl⟩
    | ok statement =>
      refine .inr ⟨statement, hbuild, rfl, ?_⟩
      intro hreply
      exact failsOnly_bind_received hreply (hread t)

/-- A command ends with the fault of its plan, or else its statement is sent and it ends well,
whatever comes of the reply. -/
theorem execute_cases (s : Session types) (key : κ) (command : Command (types key)) :
    (∃ fault, s.plan (.execute key command) = .error fault ∧
        (s.execute key command).result = .error fault ∧
        (s.execute key command).session = (s.table key).session) ∨
      ∃ statement, s.plan (.execute key command) = .ok statement ∧
        (s.execute key command).result = .ok s.nextExecution ∧
        (s.execute key command).session
          = { (s.table key).session with backend := (s.backend.take statement true).2 } := by
  unfold execute plan
  simp only [Operation.key]
  cases htable : (s.table key).result with
  | error fault => exact .inl ⟨fault, rfl, rfl, rfl⟩
  | ok t =>
    simp only
    cases hbuild : command.build t s.settings.mode with
    | error fault => exact .inl ⟨fault, hbuild, rfl, rfl⟩
    | ok statement => exact .inr ⟨statement, hbuild, rfl, rfl⟩

/-- The first row of a query is missing only after the query was answered. -/
theorem failsOnly_fetchOne {s : Session types} {key : κ} {query : Query}
    (h : FailsOnly Fault.Late (s.fetchOptional key query).result) :
    FailsOnly Fault.Late (s.fetchOne key query).result := by
  unfold fetchOne
  simp only
  split
  · rename_i fault hfault
    exact .error (h fault hfault)
  · exact .error rfl
  · exact .ok _

/-- All that an operation can do. Without a statement it ends with the fault that kept it from
having one. With a statement it sends this one and takes one reply, and it then fails only late. -/
theorem perform_cases (s : Session types) (op : Operation types) :
    (∃ fault, s.plan op = .error fault ∧ (s.perform op).result = .error fault ∧
        (s.perform op).session = (s.table op.key).session) ∨
      ∃ statement, s.plan op = .ok statement ∧
        (s.perform op).session = { (s.table op.key).session with
          backend := (s.backend.take statement op.isCommand).2 } ∧
        (s.nextReply.answer.FailsLate → FailsOnly Fault.Late (s.perform op).result) := by
  cases op with
  | fetchAll key query => exact s.fetch_cases key query fun _ _ => failsOnly_readAll
  | fetchOptional key query => exact s.fetch_cases key query fun _ _ => failsOnly_readFirst
  | fetchOne key query =>
    have hread (t : Table (types key)) (rows : Rows) (hrows : rows.FailsLate) :
        FailsOnly Fault.Late (readFirst s.settings.mode t rows) := failsOnly_readFirst hrows
    obtain ⟨fault, hplan, hresult, hsession⟩ | ⟨statement, hplan, hsession, hlate⟩ :=
      s.fetch_cases key query hread
    · refine .inl ⟨fault, hplan, ?_, hsession⟩
      simp only [perform, fetchOne, fetchOptional, hresult]
      rfl
    · refine .inr ⟨statement, hplan, hsession, ?_⟩
      intro hreply
      exact failsOnly_fetchOne (hlate hreply)
  | execute key command =>
    obtain hrefused | ⟨statement, hplan, hresult, hsession⟩ := s.execute_cases key command
    · exact .inl hrefused
    · refine .inr ⟨statement, hplan, hsession, ?_⟩
      intro _
      rw [perform, hresult]
      exact .ok _

/-! ## Plans -/

/-- What asking for a type comes to is what its catalog answers. -/
theorem result_table (s : Session types) (key : κ) :
    (s.table key).result = s.catalog.answer (fun key => Table.ofType (types key)) key :=
  s.catalog.result_get (fun key => Table.ofType (types key)) key

/-- The fault that keeps an operation from having a statement is one of construction. -/
theorem failsOnly_plan (s : Session types) (op : Operation types) :
    FailsOnly Fault.Early (s.plan op) := by
  unfold plan
  rw [result_table]
  refine FailsOnly.bind ?_ fun t _ => op.failsOnly_build s.settings.mode t
  unfold Catalog.answer
  split
  · exact .ok _
  · exact Table.failsOnly_ofType (types op.key)

/-- An operation keeps the settings, and of the catalog it only asks for its type. -/
theorem frame_perform (s : Session types) (op : Operation types) :
    (s.perform op).session.settings = s.settings
      ∧ (s.perform op).session.catalog = (s.table op.key).session.catalog := by
  obtain ⟨fault, -, -, hsession⟩ | ⟨statement, -, hsession, -⟩ := s.perform_cases op
  · rw [hsession]
    exact ⟨rfl, rfl⟩
  · rw [hsession]
    exact ⟨rfl, rfl⟩

/-- No operation changes the plan of any. -/
theorem plan_perform (s : Session types) (op other : Operation types) :
    (s.perform op).session.plan other = s.plan other := by
  obtain ⟨hsettings, hcatalog⟩ := s.frame_perform op
  unfold plan
  rw [result_table, result_table, hsettings, hcatalog]
  congr 1
  exact s.catalog.answer_get (fun key => Table.ofType (types key)) op.key other.key

end Session

end RecordSql
