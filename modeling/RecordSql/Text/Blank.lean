/-!
# Blanks

The characters that leave a gap in a line or end it.
-/

set_option autoImplicit false

namespace RecordSql

/-- Whether a character is a blank: it has the Unicode property White_Space. -/
def isBlank (c : Char) : Bool :=
  c == ' ' || ('\t' ≤ c && c ≤ '\x0d') || c == '\u0085' || c == '\u00a0' || c == '\u1680'
    || ('\u2000' ≤ c && c ≤ '\u200a') || c == '\u2028' || c == '\u2029' || c == '\u202f'
    || c == '\u205f' || c == '\u3000'

/-- A text without its blanks. -/
def withoutBlanks (text : String) : String :=
  String.ofList (text.toList.filter fun c => !isBlank c)

end RecordSql
