import TemplateCatalog.Decimal.Number

/-!
# JSON values

The values of JSON. What is written as an integer is one, unless it is beyond 64
bits; what is written with a point or an exponent is a double.
-/

namespace TemplateCatalog

/-- A JSON value. The members of an object are in the order of the text. -/
inductive Json where
  | null
  | bool (b : Bool)
  | number (n : Decimal.Number)
  | string (s : String)
  | array (items : List Json)
  | object (members : List (String × Json))
  deriving Repr

namespace Json

/-- The value of a natural number. -/
def ofNat (n : Nat) : Json := .number (.integer n)

/-- The last member of that key. -/
def lookup (key : String) : List (String × Json) → Option Json
  | [] => none
  | (k, v) :: rest => (lookup key rest).or (if k = key then some v else none)

/-- The value of a key of an object; `none` for a missing key and for a value that
    is no object. -/
def get? (j : Json) (key : String) : Option Json :=
  match j with
  | .object members => lookup key members
  | _ => none

/-- The text of a string value. -/
def text? : Json → Option String
  | .string s => some s
  | _ => none

/-- The number of a natural number value. -/
def nat? : Json → Option Nat
  | .number (.integer (.ofNat n)) => some n
  | _ => none

/-- The truth value of a boolean value. -/
def bool? : Json → Option Bool
  | .bool b => some b
  | _ => none

/-- The items of an array value. -/
def items? : Json → Option (List Json)
  | .array items => some items
  | _ => none

end Json

end TemplateCatalog
