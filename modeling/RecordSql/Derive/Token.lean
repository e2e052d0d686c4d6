import RecordSql.Text.Blank

/-!
# Tokens of a declaration

The words, literals and marks that a declaration is written with. A pair of brackets and what
stands between them is one token.
-/

set_option autoImplicit false

namespace RecordSql.Derive

/-- The kinds of brackets. -/
inductive Delimiter where
  | parentheses | brackets | braces
deriving DecidableEq

/-- The opening bracket. -/
def Delimiter.opening : Delimiter → Char
  | .parentheses => '('
  | .brackets => '['
  | .braces => '\x7b'

/-- The closing bracket. -/
def Delimiter.closing : Delimiter → Char
  | .parentheses => ')'
  | .brackets => ']'
  | .braces => '\x7d'

/-- The kinds of literals. -/
inductive LiteralKind where
  /-- A string, by what it stands for. -/
  | string (value : String)
  /-- A whole number, by its value and whether a suffix gives its type. -/
  | whole (value : Nat) (hasSuffix : Bool)
  /-- A number with a fraction or an exponent. -/
  | fractional
  /-- Bytes, characters and strings that end in a zero byte. -/
  | other
deriving DecidableEq

/-- A token. -/
inductive Token where
  /-- A name or keyword, with the mark of a raw name if it has one. -/
  | word (text : String)
  /-- A lifetime, with its apostrophe. -/
  | lifetime (text : String)
  /-- A literal. -/
  | literal (text : String) (kind : LiteralKind)
  /-- A mark; `joint` tells whether another mark follows at once. -/
  | mark (char : Char) (joint : Bool)
  /-- Brackets and what stands between them. -/
  | group (delimiter : Delimiter) (tokens : List Token)

mutual

/-- The characters of a token. -/
def Token.chars : Token → List Char
  | .word text | .lifetime text | .literal text _ => text.toList
  | .mark char _ => [char]
  | .group delimiter tokens => delimiter.opening :: (charsOf tokens ++ [delimiter.closing])

/-- The characters of a list of tokens. -/
def charsOf : List Token → List Char
  | [] => []
  | token :: tokens => token.chars ++ charsOf tokens

end

mutual

/-- How many tokens a token consists of. -/
def Token.size : Token → Nat
  | .group _ tokens => sizeOfAll tokens + 1
  | _ => 1

/-- How many tokens a list of tokens consists of. -/
def sizeOfAll : List Token → Nat
  | [] => 0
  | token :: tokens => token.size + sizeOfAll tokens

end

/-- The text of tokens, without blanks between or within them. -/
def joined (tokens : List Token) : String := withoutBlanks (String.ofList (charsOf tokens))

end RecordSql.Derive
