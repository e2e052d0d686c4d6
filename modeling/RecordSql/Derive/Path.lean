import RecordSql.Derive.Reader

/-!
# Paths of names

The paths that name attributes: names with double colons between them.
-/

set_option autoImplicit false

namespace RecordSql.Derive

/-- A path, by whether it begins with a double colon and by its segments. -/
structure Path where
  /-- Whether a double colon precedes the first segment. -/
  isGlobal : Bool
  /-- The segments. -/
  segments : List String
deriving DecidableEq

/-- Whether a path is a single name. -/
def Path.isName (path : Path) (name : String) : Bool := path == ⟨false, [name]⟩

namespace Reader

/-- Reads the segments of a path, `limit` at most; `done` are those before, last first. -/
def segments : Nat → List String → Reader (List String)
  | 0, done => return done.reverse
  | limit + 1, done => do
    let tokens := (← get).rest
    match nextWord? tokens with
    | some text =>
      if isName tokens || isRoot tokens then
        keep 1
        if ← mark? "::" then segments limit (text :: done)
        else return (text :: done).reverse
      else if done.isEmpty then throw (.keyword text)
      else refuse "expected path segment after `::`"
    | none =>
      if done.isEmpty then expect ["identifier"]
      else refuse "expected path segment after `::`"

/-- Reads a path of names. -/
def path : Reader Path := do
  let isGlobal ← mark? "::"
  return ⟨isGlobal, ← segments (← get).rest.length.succ []⟩

/-- Reads the path of an attribute, which may be a certain keyword. -/
def attributePath : Reader Path := do
  if ← word? "unsafe" then return ⟨false, ["unsafe"]⟩ else path

end Reader

end RecordSql.Derive
