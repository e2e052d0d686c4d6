import RecordSql.Number.BinaryFloat

/-!
# JSON values

A JSON value with its numbers kept apart as whole numbers and floating-point numbers, and the
members of an object kept in the order of their keys.
-/

set_option autoImplicit false

namespace RecordSql

/-- A JSON value. -/
inductive Json where
  /-- The value `null`. -/
  | null
  /-- A truth value. -/
  | bool (b : Bool)
  /-- A number written without a fraction or an exponent. -/
  | integer (n : Int)
  /-- Any other number. -/
  | float (x : Binary64)
  /-- A string. -/
  | string (s : String)
  /-- A list of values. -/
  | array (items : List Json)
  /-- Named values, in increasing order of their names. -/
  | object (members : List (String × Json))

namespace Json

/-- Adds a member to the sorted members of an object. A member of the same name gives way. -/
def insertMember (name : String) (value : Json) : List (String × Json) → List (String × Json)
  | [] => [(name, value)]
  | (other, held) :: rest =>
    if name = other then (name, value) :: rest
    else if name < other then (name, value) :: (other, held) :: rest
    else (other, held) :: insertMember name value rest

mutual

/-- Equality of values. Whole and floating-point numbers differ; floating-point numbers compare
as numbers. -/
def equal : Json → Json → Bool
  | .null, .null => true
  | .bool a, .bool b => a == b
  | .integer a, .integer b => a == b
  | .float a, .float b => a.numericEq b
  | .string a, .string b => a == b
  | .array a, .array b => equalItems a b
  | .object a, .object b => equalMembers a b
  | _, _ => false

/-- Equality of two lists of values, item by item. -/
def equalItems : List Json → List Json → Bool
  | [], [] => true
  | a :: as, b :: bs => equal a b && equalItems as bs
  | _, _ => false

/-- Equality of the members of two objects, member by member. -/
def equalMembers : List (String × Json) → List (String × Json) → Bool
  | [], [] => true
  | (m, a) :: as, (n, b) :: bs => m == n && equal a b && equalMembers as bs
  | _, _ => false

end

end Json

end RecordSql
