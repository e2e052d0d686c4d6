import RecordSql.Schema.Catalog
import RecordSql.Session.Backend
import RecordSql.Session.LogEvent
import RecordSql.Session.Settings

/-!
# Sessions

A session builds statements for record types, sends them to its back end and decodes the answers.
Before a statement is sent the record type must register and the statement must build; what fails
until then is the result, and the back end learns nothing of it.
-/

set_option autoImplicit false

namespace RecordSql

/-- The tables of a family of record types, each looked into at most once. -/
abbrev TableCatalog {κ : Type} (types : κ → RecordType) : Type :=
  Catalog κ fun key => Table (types key)

/-- A session over a family of record types. -/
structure Session {κ : Type} (types : κ → RecordType) where
  /-- The settings. -/
  settings : Settings
  /-- The tables found so far. -/
  catalog : TableCatalog types
  /-- What runs the statements. -/
  backend : Backend

/-- What one operation of a session comes to. -/
structure Turn {κ : Type} (types : κ → RecordType) (α : Type) where
  /-- The result. -/
  result : α
  /-- The session afterwards. -/
  session : Session types
  /-- What was logged. -/
  events : List LogEvent

/-- The event of a registration; there is none when the table was found. -/
def Access.event {type : RecordType} : Access (Table type) → List LogEvent
  | .added held => [.registered type.name held.item.name type.fields.length]
  | .found _ | .refused _ => []

/-- What a command comes to once it was sent. -/
abbrev Execution : Type := Except Fault Outcome

namespace Session

variable {κ : Type} {types : κ → RecordType}

/-- Sends a statement and reads the answer. The answer is out of time when its wait goes beyond
the limit. -/
def send {α : Type} (s : Session types) (kind : StatementKind) (statement : Statement)
    (isCommand : Bool) (read : List Value → Answer → Except Fault α) :
    Turn types (Except Fault α) :=
  let (reply, backend) := s.backend.take statement isCommand
  let shown := s.settings.shorten statement.sql
  let answered := read backend.lastArgs reply.answer
  let result := match s.settings.timeout with
    | some limit => if reply.wait.exceeds limit then .error (.timeout limit) else answered
    | none => answered
  let before :=
    if s.settings.logsStatements then [.executing kind statement.args.length shown] else []
  let after := match result with
    | .error (.timeout limit) => [.timedOut kind limit shown]
    | .error fault => [.failed kind fault.message]
    | .ok _ => match s.settings.slowThreshold with
      | some threshold =>
        if threshold.nanoseconds < reply.work.nanoseconds then [.slow kind threshold shown] else []
      | none => []
  ⟨result, { s with backend := backend }, before ++ after⟩

/-- Sends a finished command. -/
def sendCommand (s : Session types) (kind : StatementKind) (statement : Statement) :
    Turn types (Except Fault Outcome) :=
  s.send kind statement true fun _ answer => answer.forCommand

/-- Sends a finished query. -/
def sendQuery (s : Session types) (kind : StatementKind) (statement : Statement) :
    Turn types (Except Fault Rows) :=
  s.send kind statement false Answer.forQuery

variable [DecidableEq κ]

/-- The table of a record type, registered on first use. -/
def table (s : Session types) (key : κ) : Turn types (Except Fault (Table (types key))) :=
  let (access, catalog) := s.catalog.get key (Table.ofType (types key))
  ⟨access.result.map Held.item, { s with catalog := catalog }, access.event⟩

/-- Registers a record type ahead of its first statement. -/
def register (s : Session types) (key : κ) : Turn types (Except Fault Unit) :=
  let turn := s.table key
  ⟨turn.result.map fun _ => (), turn.session, turn.events⟩

/-- Registers the record type, builds the query, sends it, and hands the rows to `read`. -/
def fetch {α : Type} (s : Session types) (key : κ) (query : Query)
    (read : Table (types key) → Rows → Except Fault α) : Turn types (Except Fault α) :=
  let opened := s.table key
  match opened.result with
  | .error fault => ⟨.error fault, opened.session, opened.events⟩
  | .ok t =>
    match query.build t s.settings.mode with
    | .error fault => ⟨.error fault, opened.session, opened.events⟩
    | .ok statement =>
      let answered := opened.session.sendQuery query.kind statement
      ⟨answered.result.bind (read t), answered.session, opened.events ++ answered.events⟩

/-- The first of the rows that come, if one comes. -/
def firstRow {type : RecordType} (mode : DecodeMode) (t : Table type) (feed : RowFeed) :
    Except Fault (Option (Record type)) :=
  match feed.next with
  | (.error fault, _) => .error fault
  | (.ok false, _) => .ok none
  | (.ok true, feed) => (t.decodeRow mode feed).1.map some

/-- All rows that come as records. -/
def readAll {type : RecordType} (mode : DecodeMode) (t : Table type) :
    Rows → Except Fault (List (Record type))
  | .held feed => (t.decodeAll mode feed).1
  | .driven rows => t.decodeEachDriven mode rows.loss rows.rows

/-- The first of the rows that come as a record, if one comes. -/
def readFirst {type : RecordType} (mode : DecodeMode) (t : Table type) :
    Rows → Except Fault (Option (Record type))
  | .held feed => firstRow mode t feed
  | .driven rows => t.decodeFirstDriven mode rows

/-- All rows of a query as records. -/
def fetchAll (s : Session types) (key : κ) (query : Query) :
    Turn types (Except Fault (List (Record (types key)))) :=
  s.fetch key query (readAll s.settings.mode)

/-- The first row of a query as a record, if there is one. -/
def fetchOptional (s : Session types) (key : κ) (query : Query) :
    Turn types (Except Fault (Option (Record (types key)))) :=
  s.fetch key query (readFirst s.settings.mode)

/-- The first row of a query as a record; there must be one. -/
def fetchOne (s : Session types) (key : κ) (query : Query) :
    Turn types (Except Fault (Record (types key))) :=
  let turn := s.fetchOptional key query
  let result := match turn.result with
    | .error fault => .error fault
    | .ok none => .error .noRows
    | .ok (some record) => .ok record
  ⟨result, turn.session, turn.events⟩

/-- Registers the record type, builds the command and sends it. Only what fails before the command
is sent is a fault of the operation; what fails later is what the execution came to. -/
def execute (s : Session types) (key : κ) (command : Command (types key)) :
    Turn types (Except Fault Execution) :=
  let opened := s.table key
  match opened.result with
  | .error fault => ⟨.error fault, opened.session, opened.events⟩
  | .ok t =>
    match command.build t s.settings.mode with
    | .error fault => ⟨.error fault, opened.session, opened.events⟩
    | .ok statement =>
      let answered := opened.session.sendCommand command.kind statement
      ⟨.ok answered.result, answered.session, opened.events ++ answered.events⟩

end Session

end RecordSql
