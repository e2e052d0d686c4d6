import RecordSql.Derive.Fault

/-!
# Readers

A reader takes tokens from the front of a list and writes them back in the order in which they are
to be shown. What stands in a group is read by itself; the first group in which something is left
over is kept in mind, because it is a fault only when nothing else is.
-/

set_option autoImplicit false

namespace RecordSql.Derive

/-- A place in a list of tokens. -/
structure Cursor where
  /-- The tokens that are still to be read. -/
  rest : List Token
  /-- The tokens that are written, last first. -/
  written : List Token
  /-- The brackets of the first group in which something was left over. -/
  leftover : Option Delimiter

/-- A reader of tokens. -/
abbrev Reader := StateT Cursor (Except GrammarFault)

/-! ## What comes next -/

/-- Whether marks that spell a text come next, each but the last joined to its successor. -/
def spells : List Char → List Token → Bool
  | [], _ => true
  | [c], .mark d _ :: _ => c == d
  | c :: cs, .mark d joint :: rest => c == d && joint && spells cs rest
  | _ :: _, _ => false

/-- Whether marks come next. -/
def isMark (text : String) (tokens : List Token) : Bool := spells text.toList tokens

/-- The word that comes next. -/
def nextWord? : List Token → Option String
  | .word text :: _ => some text
  | _ => none

/-- Whether a certain word comes next. -/
def isWord (text : String) (tokens : List Token) : Bool := nextWord? tokens == some text

/-- Whether any word comes next. -/
def isAnyWord (tokens : List Token) : Bool := (nextWord? tokens).isSome

/-- The words that are no names. -/
def keywords : List String :=
  ["_", "abstract", "as", "async", "await", "become", "box", "break", "const", "continue",
    "crate", "do", "dyn", "else", "enum", "extern", "false", "final", "fn", "for", "if", "impl",
    "in", "let", "loop", "macro", "match", "mod", "move", "mut", "override", "priv", "pub", "ref",
    "return", "Self", "self", "static", "struct", "super", "trait", "true", "try", "type",
    "typeof", "unsafe", "unsized", "use", "virtual", "where", "while", "yield"]

/-- Whether a name comes next. -/
def isName (tokens : List Token) : Bool :=
  (nextWord? tokens).any fun text => !keywords.contains text

/-- Whether one of the words that only begin a path comes next. -/
def isRoot (tokens : List Token) : Bool :=
  (nextWord? tokens).any ["super", "self", "Self", "crate"].contains

/-- Whether a lifetime comes next. -/
def isLifetime : List Token → Bool
  | .lifetime _ :: _ => true
  | _ => false

/-- How many tokens the literal that comes next consists of, if one does. A sign may precede a
number. -/
def literalWidth? : List Token → Option Nat
  | .literal .. :: _ => some 1
  | .word text :: _ => if text == "true" || text == "false" then some 1 else none
  | .mark '-' _ :: .literal _ (.whole ..) :: _ => some 2
  | .mark '-' _ :: .literal _ .fractional :: _ => some 2
  | _ => none

/-- Whether a literal comes next. -/
def isLiteral (tokens : List Token) : Bool := (literalWidth? tokens).isSome

/-- Whether a group with certain brackets comes next. -/
def isGroup (delimiter : Delimiter) : List Token → Bool
  | .group found _ :: _ => found = delimiter
  | _ => false

/-- Whether any group comes next. -/
def isAnyGroup : List Token → Bool
  | .group .. :: _ => true
  | _ => false

/-- Whether marks come next that do not go on as certain longer marks. -/
def isMarkBut (text : String) (longer : List String) (tokens : List Token) : Bool :=
  isMark text tokens && !longer.any fun other => isMark other tokens

namespace Reader

/-- Whether what comes next has a property. -/
def peek (property : List Token → Bool) : Reader Bool := return property (← get).rest

/-- Whether what comes next behind some tokens has a property. -/
def peekBehind (count : Nat) (property : List Token → Bool) : Reader Bool :=
  return property ((← get).rest.drop count)

/-- Whether nothing is left. -/
def atEnd : Reader Bool := peek List.isEmpty

/-- Refuses what was read, and says so of the place that was reached. -/
def refuse {α : Type} (reason : String) : Reader α := do throw (.refused reason (← atEnd))

/-- Refuses what was read. -/
def refuseRead {α : Type} (reason : String) : Reader α := throw (.refused reason false)

/-- Stops because none of some parts comes next. -/
def expect {α : Type} (parts : List String) : Reader α := do throw (.expected parts (← atEnd))

/-- Reads some tokens as they stand. -/
def keep (count : Nat) : Reader Unit :=
  modify fun c =>
    { c with rest := c.rest.drop count, written := (c.rest.take count).reverse ++ c.written }

/-- Reads some tokens without writing them. -/
def skip (count : Nat) : Reader Unit := modify fun c => { c with rest := c.rest.drop count }

/-- Writes a token. -/
def write (token : Token) : Reader Unit :=
  modify fun c => { c with written := token :: c.written }

/-- Writes a literal for a whole number in decimal digits. -/
def writeWhole (value : Nat) : Reader Unit := write (.literal (toString value) (.whole value false))

/-- Takes back the last tokens that were written. -/
def unwrite (count : Nat) : Reader Unit :=
  modify fun c => { c with written := c.written.drop count }

/-- Runs a reader and gives what it wrote, first token first, in place of writing it. -/
def capture {α : Type} (reader : Reader α) : Reader (α × List Token) := do
  let before := (← get).written
  modify fun c => { c with written := [] }
  let result ← reader
  let written := (← get).written.reverse
  modify fun c => { c with written := before }
  return (result, written)

/-- Writes tokens. -/
def writeAll (tokens : List Token) : Reader Unit :=
  modify fun c => { c with written := tokens.reverse ++ c.written }

/-- Runs a reader that tells whether what it read is to be written as it stands, and not as the
reader wrote it. -/
def verbatimIf {α : Type} (reader : Reader (α × Bool)) : Reader α := do
  let start := (← get).rest
  let ((result, isVerbatim), written) ← capture reader
  let rest := (← get).rest
  writeAll (if isVerbatim then start.take (start.length - rest.length) else written)
  return result

/-- Runs a reader and writes what it read as it stands. -/
def verbatim {α : Type} (reader : Reader α) : Reader α := verbatimIf do return (← reader, true)

/-- Runs a reader; when it fails, nothing has been read. -/
def attempt {α : Type} (reader : Reader α) : Reader (Option α) := fun cursor =>
  match StateT.run reader cursor with
  | .ok (result, after) => .ok (some result, after)
  | .error _ => .ok (none, cursor)

/-- How a part that is a mark or a word is called. -/
def quoted (text : String) : String := "`" ++ text ++ "`"

/-- Reads marks. -/
def mark (text : String) : Reader Unit := do
  if ← peek (isMark text) then keep text.length
  else throw (.expected [quoted text] false)

/-- Reads marks if they come next. -/
def mark? (text : String) : Reader Bool := do
  if ← peek (isMark text) then
    keep text.length
    return true
  else return false

/-- Reads a certain word. -/
def word (text : String) : Reader Unit := do
  if ← peek (isWord text) then keep 1 else expect [quoted text]

/-- Reads a certain word if it comes next. -/
def word? (text : String) : Reader Bool := do
  if ← peek (isWord text) then
    keep 1
    return true
  else return false

/-- Reads a name. -/
def name : Reader Unit := do
  match nextWord? (← get).rest with
  | some text => if keywords.contains text then throw (.keyword text) else keep 1
  | none => expect ["identifier"]

/-- Reads what may follow a colon, if a colon comes next. A colon that nothing follows is not
written. Tells whether there is a colon. -/
def afterColon? (reader : Reader Unit) : Reader Bool := do
  if ← peek (isMark ":") then
    let ((), written) ← capture do
      mark ":"
      reader
    if written.length > 1 then writeAll written
    return true
  else return false

/-- Reads a lifetime. -/
def lifetime : Reader Unit := do
  if ← peek isLifetime then keep 1 else expect ["lifetime"]

/-- Reads a literal. -/
def literal : Reader Unit := do
  match literalWidth? (← get).rest with
  | some width => keep width
  | none => expect ["literal"]

/-- What brackets of a kind are called. -/
def delimiterLabel : Delimiter → String
  | .parentheses => "parentheses"
  | .brackets => "square brackets"
  | .braces => "curly braces"

/-- Reads what stands in the group that comes next. -/
def inGroup {α : Type} (delimiter : Delimiter) (reader : Reader α) : Reader α := do
  match (← get).rest with
  | .group found tokens :: rest =>
    if found = delimiter then
      let before := (← get).written
      modify fun c => { c with rest := tokens, written := [] }
      let result ← reader
      modify fun c =>
        { rest := rest
          written := .group delimiter c.written.reverse :: before
          leftover := c.leftover.or (if c.rest.isEmpty then none else some delimiter) }
      return result
    else expect [delimiterLabel delimiter]
  | _ => expect [delimiterLabel delimiter]

/-- Reads any group as it stands. -/
def anyGroup : Reader Unit := do
  if ← peek isAnyGroup then keep 1 else expect ["delimiter"]

/-- Repeats a step for as long as it asks for it, `limit` times at most. -/
def repeatAtMost (step : Reader Bool) : Nat → Reader Unit
  | 0 => return ()
  | limit + 1 => do if ← step then repeatAtMost step limit

/-- Repeats a step for as long as it asks for it. A step that does so has read a token, so there
are no more steps than tokens. -/
def repeatWhile (step : Reader Bool) : Reader Unit := do
  repeatAtMost step ((← get).rest.length + 1)

/-- Reads items with commas between them up to the end. -/
def separated (item : Reader Unit) : Reader Unit := repeatWhile do
  if ← atEnd then return false
  item
  if ← atEnd then return false
  mark ","
  return true

/-- Reads all of a list of tokens and gives what was written. Something left over in a group counts
before something left over outside of all groups. -/
def run {α : Type} (reader : Reader α) (tokens : List Token) :
    Except GrammarFault (α × List Token) :=
  match StateT.run reader ⟨tokens, [], none⟩ with
  | .error fault => .error fault
  | .ok (result, cursor) =>
    match cursor.leftover, cursor.rest with
    | some delimiter, _ => .error (.leftover (some delimiter))
    | none, _ :: _ => .error (.leftover none)
    | none, [] => .ok (result, cursor.written.reverse)

end Reader

end RecordSql.Derive
