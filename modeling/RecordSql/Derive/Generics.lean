import RecordSql.Derive.Grammar.Generic

/-!
# Generic parameters of a declared type

The parameters of a declared type are written twice in what is generated for it: with their
bounds where the implementation begins, and by their names where the type is named. Defaults are
left out of both.
-/

set_option autoImplicit false

namespace RecordSql.Derive

open Reader

namespace Grammar

/-- Reads a where clause, if there is one, and gives its text if it has conditions. -/
def whereText? (g : Grammar) : Reader (Option String) := do
  let (_, tokens) ← capture g.whereClause
  return if tokens.isEmpty then none else some (joined tokens)

end Grammar

/-- The text of the parameters between angle brackets, each written in one of several ways; empty
without parameters. -/
def listing (write : Parameter → List Token) (parameters : List (Parameter × Bool)) : String :=
  if parameters.isEmpty then "" else "<" ++ joined (listed write parameters) ++ ">"

end RecordSql.Derive
