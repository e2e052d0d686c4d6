import RecordSql.Derive.Grammar.Path

/-!
# Generic parameters and bounds

The parameters that something is generic in, and what they and other types have to satisfy: the
traits a type implements, the lifetimes it outlasts, and the generic parameters that it captures.
-/

set_option autoImplicit false

namespace RecordSql.Derive

open Reader

/-! ## Generic parameters -/

/-- Whether angle brackets with generic parameters come next, not a type that qualifies a path. -/
def beginsParameters (tokens : List Token) : Bool :=
  let second := tokens.drop 1
  let third := tokens.drop 2
  isMark "<" tokens
    && (isMark ">" second || isMark "#" second
      || (isLifetime second || isName second)
        && (isMark ">" third || isMark "," third || isMarkBut ":" ["::"] third
          || isMark "=" third)
      || isWord "const" second)

/-- The kinds of generic parameters. -/
inductive ParameterKind where
  /-- A lifetime. -/
  | lifetime
  /-- A type. -/
  | type
  /-- A constant. -/
  | constant
  /-- A type without a name. -/
  | blank
deriving DecidableEq

/-- The kind of the generic parameter that comes next behind its attributes. -/
def parameterKind? (tokens : List Token) : Option ParameterKind :=
  if isLifetime tokens then some .lifetime
  else if isName tokens then some .type
  else if isWord "const" tokens then some .constant
  else if isWord "_" tokens then some .blank
  else none

/-- A generic parameter. -/
structure Parameter where
  /-- What it stands for. -/
  kind : ParameterKind
  /-- How it is declared, with its attributes and its bounds. -/
  declaration : List Token
  /-- Its default with the equals sign, if it has one. -/
  preset : List Token
  /-- How it is named. -/
  name : List Token

namespace Grammar

/-- Reads a generic parameter behind its attributes and up to its default. A colon without bounds
is not written. -/
def parameterHead (g : Grammar) : ParameterKind → Reader Unit
  | .lifetime => do
    lifetime
    discard <| afterColon? <| repeatWhile do
      if ← peek fun tokens => isMark "," tokens || isMark ">" tokens then return false
      lifetime
      mark? "+"
  | .type => do
    name
    discard <| afterColon? <| g.boundsUntil fun tokens =>
      isMark "," tokens || isMark ">" tokens || isMark "=" tokens
  | .constant => do
    word "const"
    name
    mark ":"
    discard (g.type true)
  | .blank => keep 1

/-- Reads the default of a generic parameter: a type or a constant. -/
def parameterDefault (g : Grammar) : ParameterKind → Reader Unit
  | .type => do if ← mark? "=" then discard (g.type true)
  | .constant => do if ← mark? "=" then g.constant
  | .lifetime | .blank => return ()

/-- Reads a generic parameter of one of some kinds, which `parts` names. -/
def genericParameter (g : Grammar) (kinds : List ParameterKind) (parts : List String) :
    Reader Parameter := do
  let ((), attributes) ← capture g.attributes
  let tokens := (← get).rest
  match parameterKind? tokens with
  | none => expect parts
  | some kind =>
    if !kinds.contains kind then expect parts
    let ((), head) ← capture (g.parameterHead kind)
    let ((), preset) ← capture (g.parameterDefault kind)
    let named := if kind = .constant then tokens.drop 1 else tokens
    return ⟨kind, attributes ++ head, preset, named.take 1⟩

/-- Reads the generic parameters that a type, a bound or a closure is for. -/
def forParameters (g : Grammar) : Reader Unit := do
  word "for"
  mark "<"
  repeatWhile do
    if ← peek (isMark ">") then return false
    let parameter ← g.genericParameter [.lifetime, .type, .constant]
      ["identifier", "lifetime", "`const`"]
    writeAll (parameter.declaration ++ parameter.preset)
    if ← peek (isMark ">") then return false
    mark ","
    return true
  mark ">"

/-- Reads the generic parameters that a type, a bound or a closure is for, if there are any. -/
def forParameters? (g : Grammar) : Reader Bool := do
  if ← peek (isWord "for") then
    g.forParameters
    return true
  else return false

/-! ## Bounds -/

/-- Reads a captured parameter and tells whether it is a lifetime. -/
def captured : Reader Bool := do
  let tokens := (← get).rest
  if isLifetime tokens || isName tokens || isWord "Self" tokens then keep 1
  else expect ["lifetime", "identifier", "`>`"]
  if !(← peek fun tokens => isMark "," tokens || isMark ">" tokens) then expect ["`,`", "`>`"]
  return isLifetime tokens

/-- Reads a trait that is required, given whether it may be constant. Tells whether it is. -/
def traitBound (g : Grammar) (mayBeConstant : Bool) : Reader Bool := do
  let hasParameters ← g.forParameters?
  let mut isConstant := true
  if ← peek (isGroup .brackets) then
    inGroup .brackets (word "const")
    if !mayBeConstant then refuseRead "`[const]` is not allowed here"
  else if ← word? "const" then
    if !mayBeConstant then refuseRead "`const` is not allowed here"
  else isConstant := false
  let isRelaxed ← mark? "?"
  let hasParameters ←
    if !hasParameters && isRelaxed then g.forParameters? else pure hasParameters
  let shape ← g.path false
  g.callArguments? shape
  if hasParameters && isRelaxed then
    refuseRead "`for<...>` binder not allowed with `?` trait polarity modifier"
  return isConstant

/-- Reads a bound, given whether it may name captured parameters and whether it may be constant.
A constant bound is written as it stands. -/
def readBound (g : Grammar) (mayCapture mayBeConstant : Bool) : Reader BoundKind := do
  if ← peek isLifetime then
    lifetime
    return .lifetime
  if ← word? "use" then
    let _ ← inAngles captured
    if !mayCapture then
      refuseRead "`use<...>` precise capturing syntax is not allowed here"
    return .capture
  verbatimIf do
    let isConstant ←
      if ← peek (isGroup .parentheses) then inGroup .parentheses (g.traitBound mayBeConstant)
      else g.traitBound mayBeConstant
    return (.trait, isConstant)

/-- Whether another bound may follow a plus sign. -/
def beginsBound (mayBeConstant : Bool) (tokens : List Token) : Bool :=
  isAnyWord tokens || isMark "::" tokens || isMark "?" tokens || isLifetime tokens
    || isGroup .parentheses tokens || mayBeConstant && isGroup .brackets tokens

/-- Reads bounds with plus signs between them, given whether there may be more than one, and tells
what the first `limit` of them require. -/
def readBounds (g : Grammar) (plus mayCapture mayBeConstant : Bool) :
    Nat → Reader (List BoundKind)
  | 0 => return []
  | limit + 1 => do
    let kind ← g.bound mayCapture mayBeConstant
    if plus && (← peek (isMark "+")) then
      mark "+"
      if ← peek (beginsBound mayBeConstant) then
        return kind :: (← g.readBounds plus mayCapture mayBeConstant limit)
    return [kind]

/-- Reads bounds of which one requires a trait, and refuses others for a reason. -/
def traitBounds (g : Grammar) (plus mayCapture mayBeConstant : Bool) (reason : String) :
    Reader Unit := do
  let kinds ← g.readBounds plus mayCapture mayBeConstant ((← get).rest.length + 1)
  if !kinds.contains .trait then refuseRead reason

/-- Reads bounds with a plus sign after each but the last, up to where they stop. -/
def boundsUpTo (g : Grammar) (mayBeConstant : Bool) (stops : List Token → Bool) : Reader Unit :=
  repeatWhile do
    if ← peek stops then return false
    let _ ← g.bound false mayBeConstant
    if ← peek stops then return false
    mark "+"
    return true

/-- Reads the bounds of an object type. -/
def objectBounds (g : Grammar) (plus : Bool) : Reader Unit :=
  g.traitBounds plus false false "at least one trait is required for an object type"

/-- Reads the further bounds that plus signs add to a first one. -/
def addedBounds (g : Grammar) : Reader Unit := repeatWhile do
  if ← mark? "+" then
    let _ ← g.bound false false
    return true
  else return false

end Grammar

end RecordSql.Derive
