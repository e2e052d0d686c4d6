import RecordSql.Derive.Grammar.Bound

/-!
# What a declaration is generic in

The list of generic parameters behind a declared name, and the where clause, which says what has
to hold for them. Lifetimes are written before all other parameters, and nothing is written of a
list or a clause that is empty.
-/

set_option autoImplicit false

namespace RecordSql.Derive

open Reader

/-- The tokens of parameters between angle brackets, each written in one of several ways; the
second component tells whether a comma follows. -/
def listed (write : Parameter → List Token) (parameters : List (Parameter × Bool)) : List Token :=
  arranged (parameters.map fun (p, isFollowed) => ⟨p.kind = .lifetime, write p, isFollowed⟩)

/-- Whether conditions or the bounds of a condition end. -/
def endsCondition (tokens : List Token) : Bool :=
  tokens.isEmpty || isGroup .braces tokens || isMark "," tokens || isMark ";" tokens
    || isMarkBut ":" ["::"] tokens || isMark "=" tokens

namespace Grammar

/-- Reads parameters up to a closing angle bracket, `limit` at most. -/
def genericParameters (g : Grammar) : Nat → Reader (List (Parameter × Bool))
  | 0 => return []
  | limit + 1 => do
    if ← peek (isMark ">") then return []
    let parameter ← g.genericParameter [.lifetime, .type, .constant, .blank]
      ["lifetime", "identifier", "`const`"]
    if ← peek (isMark ">") then return [(parameter, false)]
    let _ ← capture (mark ",")
    return (parameter, true) :: (← g.genericParameters limit)

/-- Reads the parameters of a declaration, if there are any, without writing them. -/
def generics (g : Grammar) : Reader (List (Parameter × Bool)) := do
  if ← peek (isMark "<") then
    skip 1
    let parameters ← g.genericParameters ((← get).rest.length + 1)
    let _ ← capture (mark ">")
    return parameters
  else return []

/-- Reads the parameters of a declaration with their defaults, if there are any. -/
def declaredGenerics (g : Grammar) : Reader Unit := do
  let parameters ← g.generics
  if !parameters.isEmpty then
    write (.mark '<' false)
    writeAll (listed (fun p => p.declaration ++ p.preset) parameters)
    write (.mark '>' false)

/-- Reads a condition of a where clause: bounds of a lifetime or of a type. -/
def condition (g : Grammar) : Reader Unit := do
  if (← peek isLifetime) && (← peekBehind 1 (isMark ":")) then
    keep 2
    repeatWhile do
      if ← peek fun tokens => endsCondition tokens || isMark ":" tokens then return false
      lifetime
      mark? "+"
  else
    let _ ← g.forParameters?
    let _ ← g.type true
    mark ":"
    g.boundsUntil endsCondition

/-- Reads the conditions of a where clause. -/
def conditions (g : Grammar) : Reader Unit := repeatWhile do
  if ← peek endsCondition then return false
  g.condition
  mark? ","

/-- Reads a where clause if there is one, and tells whether there is. -/
def whereClause (g : Grammar) : Reader Bool := do
  if ← peek (isWord "where") then
    let ((), written) ← capture do
      word "where"
      g.conditions
    if written.length > 1 then writeAll written
    return true
  else return false

end Grammar

end RecordSql.Derive
