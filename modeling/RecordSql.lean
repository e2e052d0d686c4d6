import RecordSql.Calendar
import RecordSql.Derive.Attribute
import RecordSql.Derive.Declaration
import RecordSql.Derive.Expansion
import RecordSql.Derive.Fault
import RecordSql.Derive.Generics
import RecordSql.Derive.Grammar
import RecordSql.Derive.Grammar.Attribute
import RecordSql.Derive.Grammar.Bound
import RecordSql.Derive.Grammar.Expression
import RecordSql.Derive.Grammar.Generic
import RecordSql.Derive.Grammar.Item
import RecordSql.Derive.Grammar.Member
import RecordSql.Derive.Grammar.Operand
import RecordSql.Derive.Grammar.Operation
import RecordSql.Derive.Grammar.Path
import RecordSql.Derive.Grammar.Pattern
import RecordSql.Derive.Grammar.Signature
import RecordSql.Derive.Grammar.Statement
import RecordSql.Derive.Grammar.Structure
import RecordSql.Derive.Grammar.Type
import RecordSql.Derive.Lexer
import RecordSql.Derive.Path
import RecordSql.Derive.Reader
import RecordSql.Derive.Token
import RecordSql.Duration
import RecordSql.Expr.Basic
import RecordSql.Expr.Rendering
import RecordSql.Expr.Compiler
import RecordSql.Fault
import RecordSql.Inspect.Session
import RecordSql.Inspect.Tree
import RecordSql.Inspect.Value
import RecordSql.Json.Basic
import RecordSql.Json.Reader
import RecordSql.Json.Text
import RecordSql.Json.Token
import RecordSql.Number.BinaryFloat
import RecordSql.Number.Bounded
import RecordSql.Number.Decimal
import RecordSql.Number.DecimalText
import RecordSql.Number.Power
import RecordSql.Row.Decoding
import RecordSql.Row.Driver
import RecordSql.Row.Feed
import RecordSql.Row.ResultSet
import RecordSql.Schema.Catalog
import RecordSql.Schema.FieldType
import RecordSql.Schema.Positions
import RecordSql.Schema.RecordType
import RecordSql.Schema.Table
import RecordSql.Schema.Tag
import RecordSql.Session.Backend
import RecordSql.Session.LogEvent
import RecordSql.Session.Pool
import RecordSql.Session.Registrar
import RecordSql.Session.Session
import RecordSql.Session.Settings
import RecordSql.Sql.Draft
import RecordSql.Statement.Delete
import RecordSql.Statement.Insert
import RecordSql.Statement.Kind
import RecordSql.Statement.Raw
import RecordSql.Statement.Select
import RecordSql.Statement.Update
import RecordSql.Statement.Writing
import RecordSql.Text.Blank
import RecordSql.Text.CaseTable
import RecordSql.Text.Digits
import RecordSql.Text.HiddenTable
import RecordSql.Text.Quoted
import RecordSql.Text.SnakeCase
import RecordSql.Uuid
import RecordSql.Value.Basic
import RecordSql.Value.Conversion
import RecordSql.Value.Json
import RecordSql.Proofs.Fault
import RecordSql.Proofs.Rendering
import RecordSql.Proofs.Number.BinaryFloat
import RecordSql.Proofs.Number.WholeNumber
import RecordSql.Proofs.Value.Conversion
import RecordSql.Proofs.Schema.Catalog
import RecordSql.Proofs.Schema.FieldType
import RecordSql.Proofs.Schema.Tag
import RecordSql.Proofs.Schema.Table
import RecordSql.Proofs.Schema.Registration
import RecordSql.Proofs.Sql.Token
import RecordSql.Proofs.Sql.Phrase
import RecordSql.Proofs.Sql.Quoting
import RecordSql.Proofs.Sql.Precedence
import RecordSql.Proofs.Sql.Legible
import RecordSql.Proofs.Sql.Clause
import RecordSql.Proofs.Expr.Contents
import RecordSql.Proofs.Expr.Regrouping
import RecordSql.Proofs.Expr.Structure
import RecordSql.Proofs.Expr.Literals
import RecordSql.Proofs.Expr.Acceptance
import RecordSql.Proofs.Row.Filling
import RecordSql.Proofs.Row.Decoding
import RecordSql.Proofs.Row.Feed
import RecordSql.Proofs.Row.Cursor
import RecordSql.Proofs.Row.Delivery
import RecordSql.Proofs.Row.Faults
import RecordSql.Proofs.Row.Refusal
import RecordSql.Proofs.Statement.Faults
import RecordSql.Proofs.Statement.Builder
import RecordSql.Proofs.Statement.Filtering
import RecordSql.Proofs.Statement.Content
import RecordSql.Proofs.Statement.WellFormed
import RecordSql.Proofs.Statement.Writing
import RecordSql.Proofs.Statement.Independence
import RecordSql.Proofs.Statement.RoundTrip
import RecordSql.Proofs.Session.Operation
import RecordSql.Proofs.Session.Run
import RecordSql.Proofs.Session.Fetching
import RecordSql.Proofs.Session.Asking
import RecordSql.Proofs.Session.Shortening
import RecordSql.Proofs.Row.Signedness
import RecordSql.Proofs.Schema.Reading
import RecordSql.Proofs.Statement.Insertion
import RecordSql.Proofs.Statement.Assignment
import RecordSql.Proofs.Statement.Calls
import RecordSql.Proofs.Row.Exhaustion
import RecordSql.Proofs.Row.Scan
import RecordSql.Proofs.Schema.TagGrammar
import RecordSql.Proofs.Derive.Attribute
import RecordSql.Proofs.Expr.Compiler
import RecordSql.Proofs.Derive.Registration
import RecordSql.Proofs.Text.CaseTable
import RecordSql.Proofs.Text.SnakeCase
import RecordSql.Proofs.Derive.Naming
