import RecordSql.Text.CaseTable

/-!
# Snake case

The default name of a column or table: words that begin with an upper-case character are set off
by underscores and written in lower case, so `TestModel` becomes `test_model` and `ID` becomes
`i_d`.
-/

set_option autoImplicit false

namespace RecordSql

/-- The run of upper-case characters that a character belongs to. -/
def caseRun? (c : Char) : Option CaseRun := CaseRun.all.find? (·.contains c.toNat)

/-- Whether a character is upper case. -/
def isUppercase (c : Char) : Bool := (caseRun? c).isSome

/-- The lower-case form of a character. The dotted capital `İ` is the only upper-case character
whose form has two characters; a character without a lower-case form stands for itself. -/
def lowercase (c : Char) : List Char :=
  if c = '\u0130' then ['i', '\u0307']
  else match caseRun? c with
    | some run => [Char.ofNat ((c.toNat : Int) + run.shift).toNat]
    | none => [c]

/-- The snake-case form of one character, given whether it comes first. -/
def snakeChar (isFirst : Bool) (c : Char) : List Char :=
  if isUppercase c then (if isFirst then [] else ['_']) ++ lowercase c else [c]

/-- The snake-case form of a name: an underscore before every upper-case character but the
first character of the name, and every upper-case character in lower case. -/
def snakeCase (name : String) : String :=
  match name.toList with
  | [] => ""
  | c :: rest => String.ofList (snakeChar true c ++ rest.flatMap (snakeChar false))

end RecordSql
