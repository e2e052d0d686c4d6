import RecordSql.Statement.Kind

/-!
# Log events

What a session reports while it works, each event with its level, the part of the library it
comes from, and its fields as text.
-/

set_option autoImplicit false

namespace RecordSql

/-- An event in the log. -/
inductive LogEvent where
  /-- A record type was added to a catalog. -/
  | registered (model table : String) (fields : Nat)
  /-- A statement is about to be sent. -/
  | executing (kind : StatementKind) (params : Nat) (sql : String)
  /-- A statement failed. -/
  | failed (kind : StatementKind) (error : String)
  /-- A statement was not answered within the limit. -/
  | timedOut (kind : StatementKind) (limit : Duration) (sql : String)
  /-- A statement was answered later than the threshold. -/
  | slow (kind : StatementKind) (threshold : Duration) (sql : String)
deriving DecidableEq

namespace LogEvent

/-- The level of an event. -/
def level : LogEvent → String
  | .registered .. | .executing .. | .failed .. => "DEBUG"
  | .timedOut .. | .slow .. => "WARN"

/-- The part of the library that an event comes from. -/
def target : LogEvent → String
  | .registered .. => "ormkit.registry"
  | _ => "ormkit.sql"

/-- The fields of an event, the message first. -/
def fields : LogEvent → List (String × String)
  | .registered model table fields =>
    [("message", "registered model"), ("model", model), ("table", table),
      ("fields", decimalText fields)]
  | .executing kind params sql =>
    [("message", "executing statement"), ("kind", kind.label),
      ("param_count", decimalText params), ("sql", sql)]
  | .failed kind error =>
    [("message", "statement failed"), ("kind", kind.label), ("error", error)]
  | .timedOut kind limit sql =>
    [("message", "statement timed out"), ("kind", kind.label),
      ("timeout_ms", decimalText limit.milliseconds), ("sql", sql)]
  | .slow kind threshold sql =>
    [("message", "slow statement"), ("kind", kind.label),
      ("threshold_ms", decimalText threshold.milliseconds), ("sql", sql)]

end LogEvent

end RecordSql
