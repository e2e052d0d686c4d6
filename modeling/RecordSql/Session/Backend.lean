import RecordSql.Row.Driver
import RecordSql.Sql.Draft

/-!
# Back ends

What runs the statements of a session. It is known by the replies it has in store, one for each
statement it is sent: how long a reply takes, and what it says. The rows that it answers a query
with are held in memory, or a driver delivers them in its own way.
-/

set_option autoImplicit false

namespace RecordSql

/-- What a command reports. -/
structure Outcome where
  /-- How many rows it changed. -/
  rowsAffected : Nat
  /-- The key of the last row it inserted, if it reports one. -/
  lastInsertId : Option Int
deriving DecidableEq

/-- The rows that answer a query. -/
inductive Rows where
  /-- Rows that are held in memory. -/
  | held (feed : RowFeed)
  /-- Rows of some other driver. -/
  | driven (rows : DrivenRows)

/-- The result set of rows that are held in memory; other rows have an empty one. -/
def Rows.set : Rows → ResultSet
  | .held feed => feed.set
  | .driven _ => .ofRows [] []

/-- What a reply says. -/
inductive Answer where
  /-- The statement failed. -/
  | fail (fault : Fault)
  /-- The statement is done. -/
  | done (outcome : Outcome)
  /-- The statement gave rows. -/
  | rows (feed : RowFeed)
  /-- The statement gave rows that some other driver delivers. -/
  | driven (rows : DrivenRows)
  /-- The arguments of the last command come back as rows of these columns. -/
  | echo (columns : List String)
  /-- The statement is done and has nothing to report. -/
  | nothing

/-- How long a reply keeps a session waiting. -/
inductive Wait where
  /-- For some time. -/
  | lasting (time : Duration)
  /-- Without end. -/
  | endless
deriving DecidableEq

/-- Whether a wait goes beyond a limit. -/
def Wait.exceeds (wait : Wait) (limit : Duration) : Bool :=
  match wait with
  | .lasting time => decide (limit.nanoseconds < time.nanoseconds)
  | .endless => true

/-- A reply to a statement. -/
structure Reply where
  /-- How long the session waits for it. -/
  wait : Wait
  /-- How long the work takes once the wait is over. -/
  work : Duration
  /-- What it says. -/
  answer : Answer

/-- A reply at once that has nothing to report. -/
def Reply.empty : Reply := ⟨.lasting ⟨0⟩, ⟨0⟩, .nothing⟩

/-- Cuts a list into rows of a width, the last one perhaps shorter; at most `limit` of them. -/
def rowsOfWidth (width : Nat) : Nat → List Value → List (List Value)
  | 0, _ => []
  | limit + 1, values =>
    if values.isEmpty ∨ width = 0 then []
    else values.take width :: rowsOfWidth width limit (values.drop width)

namespace Answer

/-- What an answer tells a command. -/
def forCommand : Answer → Except Fault Outcome
  | .fail fault => .error fault
  | .done outcome => .ok outcome
  | .rows _ | .driven _ | .echo _ => .error (.executor "statement answered with rows")
  | .nothing => .ok ⟨0, none⟩

/-- What an answer tells a query, given the arguments of the last command. -/
def forQuery (lastArgs : List Value) : Answer → Except Fault Rows
  | .fail fault => .error fault
  | .done _ => .error (.executor "query answered without rows")
  | .rows feed => .ok (.held feed)
  | .driven delivered => .ok (.driven delivered)
  | .echo columns =>
    .ok (.held (.ofSet (.ofRows columns (rowsOfWidth columns.length lastArgs.length lastArgs))))
  | .nothing => .ok (.held (.ofSet (.ofRows [] [])))

end Answer

/-- A back end. -/
structure Backend where
  /-- The replies in store. -/
  replies : List Reply
  /-- The statements it was sent, in order. -/
  sent : List Statement
  /-- The arguments of the last command it was sent. -/
  lastArgs : List Value

namespace Backend

/-- A back end that was sent nothing yet. -/
def ofReplies (replies : List Reply) : Backend := ⟨replies, [], []⟩

/-- Puts one more reply into store. -/
def addReply (b : Backend) (reply : Reply) : Backend := { b with replies := b.replies ++ [reply] }

/-- Takes a statement and the next reply; without one, there is nothing to report. -/
def take (b : Backend) (statement : Statement) (isCommand : Bool) : Reply × Backend :=
  (b.replies.headD Reply.empty,
    { replies := b.replies.drop 1
      sent := b.sent ++ [statement]
      lastArgs := if isCommand then statement.args else b.lastArgs })

end Backend

end RecordSql
