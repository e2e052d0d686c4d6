import RecordSql.Derive.Token
import RecordSql.Text.Digits
import RecordSql.Text.Quoted

/-!
# From text to tokens

Blanks and comments separate tokens and are left out, but for documentation, which stands for an
attribute. A literal is tried before anything else, so that the letter before a quote belongs to
the literal, and a number takes in as much as can be read as one.
-/

set_option autoImplicit false

namespace RecordSql.Derive

/-! ## Characters -/

/-- Whether a character separates tokens: a blank, or a mark for the direction of writing. -/
def separates (c : Char) : Bool := isBlank c || c == '\u200e' || c == '\u200f'

/-- Whether a character may begin a name. Every character beyond ASCII that does not separate
tokens is taken for a letter. -/
def beginsWord (c : Char) : Bool :=
  c.isAlpha || c == '_' || (128 ≤ c.toNat && !separates c)

/-- Whether a character may go on in a name. -/
def continuesWord (c : Char) : Bool := beginsWord c || c.isDigit

/-- The characters that are marks. -/
def marks : List Char := "~!@#$%^&*-=+|;:,<.>/?\x27".toList

/-- Whether a comment begins. -/
def beginsComment : List Char → Bool
  | '/' :: c :: _ => c == '/' || c == '*'
  | _ => false

/-- Whether a mark begins. -/
def beginsMark (cs : List Char) : Bool := cs.head?.any marks.contains && !beginsComment cs

/-- The text between two ends of a list of characters, the second end a part of the first. -/
def textBetween (start rest : List Char) : String :=
  String.ofList (start.take (start.length - rest.length))

/-! ## Comments -/

/-- Splits a text at the end of its first line. -/
def splitLine : List Char → List Char × List Char
  | [] => ([], [])
  | '\n' :: rest => ([], '\n' :: rest)
  | '\x0d' :: '\n' :: rest => ([], '\n' :: rest)
  | c :: rest =>
    let (line, after) := splitLine rest
    (c :: line, after)

/-- Splits a text behind the comment that it goes on with; `depth` further comments are open. -/
def splitComment : Nat → List Char → Option (List Char × List Char)
  | depth, '/' :: '*' :: rest =>
    (splitComment (depth + 1) rest).map fun (inside, after) => ('/' :: '*' :: inside, after)
  | 0, '*' :: '/' :: rest => some ([], rest)
  | depth + 1, '*' :: '/' :: rest =>
    (splitComment depth rest).map fun (inside, after) => ('*' :: '/' :: inside, after)
  | depth, c :: rest => (splitComment depth rest).map fun (inside, after) => (c :: inside, after)
  | _, [] => none

/-- Whether a comment is documentation, given the last mark of its opening and what follows it:
an exclamation mark, or that mark once more, but not twice and not where the comment ends. -/
def isDocumentation (mark : Char) : List Char → Bool
  | '!' :: _ => true
  | c :: rest => c == mark && rest.head? != some mark && rest.head? != some '/'
  | [] => false

/-- Skips at most `limit` blanks and comments. -/
def skipBlanks : Nat → List Char → List Char
  | 0, cs => cs
  | limit + 1, cs =>
    match cs with
    | '/' :: '/' :: rest =>
      if isDocumentation '/' rest then cs else skipBlanks limit (splitLine rest).2
    | '/' :: '*' :: rest =>
      if isDocumentation '*' rest then cs
      else match splitComment 0 rest with
        | some (_, rest) => skipBlanks limit rest
        | none => cs
    | c :: rest => if separates c then skipBlanks limit rest else cs
    | [] => []

/-- Text between double quotes, with a zero character before an octal digit written in full. -/
def documentationChars : List Char → List Char
  | [] => []
  | c :: rest =>
    let written :=
      if c.toNat = 0 ∧ rest.head?.any (fun d => '0' ≤ d && d ≤ '7') then "\\x00".toList
      else quotedChar c
    written ++ documentationChars rest

/-- The attribute that documentation stands for; `inner` tells whether it documents what it
stands in. -/
def documentationTokens (inner : Bool) (text : List Char) : List Token :=
  let literal := '"' :: (documentationChars text ++ ['"'])
  .mark '#' false :: ((if inner then [.mark '!' false] else [])
    ++ [.group .brackets [.word "doc", .mark '=' false,
      .literal (String.ofList literal) (.string (String.ofList text))]])

/-- Reads documentation. -/
def lexDocumentation? : List Char → Option (List Token × List Char)
  | '/' :: '/' :: rest =>
    if isDocumentation '/' rest then
      let (line, after) := splitLine (rest.drop 1)
      some (documentationTokens (rest.head? == some '!') line, after)
    else none
  | '/' :: '*' :: rest =>
    if isDocumentation '*' rest then
      (splitComment 0 rest).map fun (inside, after) =>
        (documentationTokens (rest.head? == some '!') (inside.drop 1), after)
    else none
  | _ => none

/-! ## Literals -/

/-- What a reader of a string is in the middle of. -/
inductive StringState where
  /-- Nothing in particular. -/
  | plain
  /-- The gap after a line that ends in a backslash. -/
  | skipping
  /-- The hexadecimal digits of a character between braces. -/
  | code (value : Nat)
deriving DecidableEq

/-- The character that a backslash and one further character stand for. -/
def escapedChar? : Char → Option Char
  | 'n' => some '\n'
  | 'r' => some '\r'
  | 't' => some '\t'
  | '0' => some '\x00'
  | '\\' => some '\\'
  | '\x27' => some '\x27'
  | '"' => some '"'
  | _ => none

/-- Reads a string up to its closing quote; `done` is what was read so far, last first. -/
def readString : StringState → List Char → List Char → Option (String × List Char)
  | _, _, [] => none
  | .code value, done, c :: rest =>
    if c = '\x7d' then readString .plain (Char.ofNat value :: done) rest
    else if c = '_' then readString (.code value) done rest
    else match hexValue? c with
      | some digit => readString (.code (16 * value + digit)) done rest
      | none => none
  | _, done, '"' :: rest => some (String.ofList done.reverse, rest)
  | _, done, '\\' :: 'u' :: '\x7b' :: rest => readString (.code 0) done rest
  | _, done, '\\' :: 'x' :: a :: b :: rest =>
    match readHex? [a, b] with
    | some code => readString .plain (Char.ofNat code :: done) rest
    | none => none
  | _, done, '\\' :: c :: rest =>
    if c = '\n' ∨ c = '\r' then readString .skipping done rest
    else match escapedChar? c with
      | some char => readString .plain (char :: done) rest
      | none => none
  | state, done, c :: rest =>
    if state = .skipping ∧ (c = ' ' ∨ c = '\t' ∨ c = '\n' ∨ c = '\r') then
      readString .skipping done rest
    else if c = '\r' ∧ rest.head? = some '\n' then readString .plain done rest
    else readString .plain (c :: done) rest

/-- Reads a raw string up to a quote and as many hash signs as opened it. -/
def readRaw (hashes : Nat) (done : List Char) : List Char → Option (String × List Char)
  | [] => none
  | c :: rest =>
    if c = '"' ∧ rest.take hashes = List.replicate hashes '#' then
      some (String.ofList done.reverse, rest.drop hashes)
    else readRaw hashes (c :: done) rest

/-- Reads a string from its opening quote on. -/
def lexQuoted? : List Char → Option (String × List Char)
  | '"' :: rest => readString .plain [] rest
  | _ => none

/-- Reads a raw string behind its letter. -/
def lexRaw? (cs : List Char) : Option (String × List Char) :=
  let hashes := (cs.takeWhile (· == '#')).length
  match cs.drop hashes with
  | '"' :: rest => readRaw hashes [] rest
  | _ => none

/-- What follows a character between apostrophes. -/
def afterQuotedChar? : List Char → Option (List Char)
  | '\x27' :: '\\' :: 'u' :: '\x7b' :: rest =>
    match rest.dropWhile (· != '\x7d') with
    | _ :: '\x27' :: rest => some rest
    | _ => none
  | '\x27' :: '\\' :: 'x' :: _ :: _ :: '\x27' :: rest => some rest
  | '\x27' :: '\\' :: _ :: '\x27' :: rest => some rest
  | '\x27' :: '\\' :: _ => none
  | '\x27' :: _ :: '\x27' :: rest => some rest
  | _ => none

/-- Whether a character goes on a run of decimal digits. -/
def isDigitOrGap (c : Char) : Bool := c.isDigit || c == '_'

/-- Whether a character begins an exponent. -/
def beginsExponent (c : Char) : Bool := c == 'e' || c == 'E'

/-- What follows an exponent, given what follows its letter. -/
def afterExponent? (cs : List Char) : Option (List Char) :=
  let unsigned := match cs with
    | '+' :: rest | '-' :: rest => rest
    | _ => cs
  if (unsigned.takeWhile isDigitOrGap).any Char.isDigit then
    some (unsigned.dropWhile isDigitOrGap)
  else none

/-- What follows a number with a fraction or an exponent. A point before another point or before
a name is no part of a number. -/
def afterFractional? (cs : List Char) : Option (List Char) :=
  match cs.dropWhile isDigitOrGap with
  | '.' :: rest =>
    if rest.head?.any fun c => c == '.' || beginsWord c then none
    else match rest.dropWhile isDigitOrGap with
      | c :: after =>
        if beginsExponent c then some ((afterExponent? after).getD (c :: after))
        else some (c :: after)
      | [] => some []
  | c :: rest => if beginsExponent c then afterExponent? rest else none
  | [] => none

/-- The value of a whole number and what follows its digits. -/
def readWhole? (cs : List Char) : Option (Nat × List Char) :=
  let (base, digits) := match cs with
    | '0' :: 'x' :: rest => (16, rest)
    | '0' :: 'o' :: rest => (8, rest)
    | '0' :: 'b' :: rest => (2, rest)
    | _ => (10, cs)
  let isPart (c : Char) : Bool := c == '_' || (hexValue? c).any (· < base)
  let values := (digits.takeWhile isPart).filterMap hexValue?
  if values.isEmpty then none
  else some (values.foldl (fun n digit => base * n + digit) 0, digits.dropWhile isPart)

/-- Skips the suffix of a literal. -/
def skipSuffix (cs : List Char) : List Char :=
  if cs.head?.any beginsWord then cs.dropWhile continuesWord else cs

/-- Reads a number without its suffix. -/
def lexNumber? (cs : List Char) : Option (LiteralKind × List Char) :=
  if cs.head?.any Char.isDigit then
    match afterFractional? cs with
    | some rest => some (.fractional, rest)
    | none => (readWhole? cs).map fun (value, rest) =>
      (.whole value (rest.head?.any beginsWord), rest)
  else none

/-- Reads a literal without its suffix. -/
def lexBareLiteral? (cs : List Char) : Option (LiteralKind × List Char) :=
  let string (read : Option (String × List Char)) : Option (LiteralKind × List Char) :=
    read.map fun (value, rest) => (.string value, rest)
  let other (rest : List Char) : LiteralKind × List Char := (.other, rest)
  match cs with
  | '"' :: _ => string (lexQuoted? cs)
  | 'r' :: rest => string (lexRaw? rest)
  | 'b' :: 'r' :: rest | 'c' :: 'r' :: rest => (lexRaw? rest).map fun read => other read.2
  | 'b' :: '\x27' :: rest => (afterQuotedChar? ('\x27' :: rest)).map other
  | 'b' :: rest | 'c' :: rest => (lexQuoted? rest).map fun read => other read.2
  | '\x27' :: _ => (afterQuotedChar? cs).map other
  | _ => lexNumber? cs

/-- Reads a literal. -/
def lexLiteral? (cs : List Char) : Option (Token × List Char) :=
  (lexBareLiteral? cs).map fun (kind, rest) =>
    let rest := skipSuffix rest
    (.literal (textBetween cs rest) kind, rest)

/-! ## Tokens -/

/-- Reads a name or keyword. -/
def lexWord? (cs : List Char) : Option (String × List Char) :=
  let start := match cs with
    | 'r' :: '#' :: rest => rest
    | _ => cs
  if start.head?.any beginsWord then
    let rest := start.dropWhile continuesWord
    some (textBetween cs rest, rest)
  else none

/-- A token, or one end of a group. -/
inductive Piece where
  /-- A token that is no group. -/
  | token (token : Token)
  /-- The beginning of a group. -/
  | opening (delimiter : Delimiter)
  /-- The end of a group. -/
  | closing (delimiter : Delimiter)

/-- The kinds of brackets in a list. -/
def delimiters : List Delimiter := [.parentheses, .brackets, .braces]

/-- The end of a group that a character is. -/
def bracket? (c : Char) : Option Piece :=
  match delimiters.find? fun d => d.opening == c with
  | some d => some (.opening d)
  | none => (delimiters.find? fun d => d.closing == c).map .closing

/-- Reads a token that is no literal and no group. -/
def lexLeaf? (cs : List Char) : Option (Token × List Char) :=
  match cs with
  | '\x27' :: rest => (lexWord? rest).map fun (text, rest) =>
    (.lifetime (String.ofList ('\x27' :: text.toList)), rest)
  | c :: rest =>
    if beginsMark cs then some (.mark c (beginsMark rest), rest)
    else (lexWord? cs).map fun (text, rest) => (.word text, rest)
  | [] => none

/-- Reads the next pieces of a text that does not begin with a blank. -/
def lexPieces? (cs : List Char) : Option (List Piece × List Char) :=
  match lexDocumentation? cs with
  | some (tokens, rest) => some (tokens.map .token, rest)
  | none =>
    match cs.head?.bind bracket? with
    | some piece => some ([piece], cs.drop 1)
    | none => ((lexLiteral? cs).orElse fun _ => lexLeaf? cs).map fun (token, rest) =>
      ([.token token], rest)

/-- The pieces of a text, read in at most `limit` steps. -/
def pieces? : Nat → List Char → Option (List Piece)
  | limit, cs =>
    match skipBlanks cs.length cs, limit with
    | [], _ => some []
    | _, 0 => none
    | c :: rest, limit + 1 => do
      let (pieces, rest) ← lexPieces? (c :: rest)
      let others ← pieces? limit rest
      some (pieces ++ others)

/-- Puts pieces together; `outer` holds for every group that has begun its brackets and what was
read before it, and `done` what was read since, last first. -/
def nest? : List (Delimiter × List Token) → List Token → List Piece → Option (List Token)
  | [], done, [] => some done.reverse
  | _ :: _, _, [] => none
  | outer, done, .token token :: pieces => nest? outer (token :: done) pieces
  | outer, done, .opening delimiter :: pieces => nest? ((delimiter, done) :: outer) [] pieces
  | [], _, .closing _ :: _ => none
  | (delimiter, before) :: outer, done, .closing found :: pieces =>
    if delimiter = found then nest? outer (.group delimiter done.reverse :: before) pieces
    else none

/-- The tokens of a text; none when it is not made of tokens. -/
def tokens? (text : String) : Option (List Token) := do
  let cs := text.toList
  nest? [] [] (← pieces? cs.length cs)

end RecordSql.Derive
