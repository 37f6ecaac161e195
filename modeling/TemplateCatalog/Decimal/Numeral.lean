import TemplateCatalog.Decimal.Double

/-!
# Numerals

Reading numbers from text: unsigned integers in any radix up to sixteen, and
decimals with an optional point and exponent.
-/

namespace TemplateCatalog.Decimal

/-- The value of a character as a digit, letters of either case counting from
    ten. -/
def digitValue (c : Char) : Option Nat :=
  if '0' ≤ c ∧ c ≤ '9' then some (c.toNat - '0'.toNat)
  else if 'a' ≤ c ∧ c ≤ 'z' then some (c.toNat - 'a'.toNat + 10)
  else if 'A' ≤ c ∧ c ≤ 'Z' then some (c.toNat - 'A'.toNat + 10)
  else none

/-- Whether `c` is one of the ten decimal digits. -/
def isDecimalDigit (c : Char) : Bool := '0' ≤ c && c ≤ '9'

/-- The digit that `c` is in a radix. -/
def digitIn (radix : Nat) (c : Char) : Option Nat :=
  match digitValue c with
  | some d => if d < radix then some d else none
  | none => none

/-- The number that starts with the value `start` and goes on with the digits
    `cs`. -/
def natFrom (radix : Nat) : Nat → List Char → Option Nat
  | start, [] => some start
  | start, c :: cs =>
    match digitIn radix c with
    | some d => natFrom radix (start * radix + d) cs
    | none => none

/-- The number that a nonempty sequence of digits denotes in a radix. -/
def nat? (radix : Nat) (cs : List Char) : Option Nat :=
  match cs with
  | [] => none
  | _ :: _ => natFrom radix 0 cs

/-- The number of an unsigned integer, which may carry a plus sign. -/
def unsigned? (radix : Nat) : List Char → Option Nat
  | '+' :: cs => nat? radix cs
  | cs => nat? radix cs

/-- The exponent after its mark: an optional sign and at least one digit. -/
def exponent? : List Char → Option Int
  | '-' :: cs => (nat? 10 cs).map fun n => -(n : Int)
  | '+' :: cs => (nat? 10 cs).map Int.ofNat
  | cs => (nat? 10 cs).map Int.ofNat

/-- The number of a decimal: digits with an optional point, at least one digit in
    all, and an optional exponent. There is no sign. -/
def decimal? (negative : Bool) (cs : List Char) : Option Double :=
  let whole := cs.takeWhile isDecimalDigit
  let rest := cs.dropWhile isDecimalDigit
  let fraction := match rest with
    | '.' :: r => r.takeWhile isDecimalDigit
    | _ => []
  let tail := match rest with
    | '.' :: r => r.dropWhile isDecimalDigit
    | r => r
  let shift : Option Int := match tail with
    | [] => some 0
    | 'e' :: r => exponent? r
    | 'E' :: r => exponent? r
    | _ => none
  match nat? 10 (whole ++ fraction), shift with
  | some n, some s => some (.ofDecimal negative n (s - fraction.length))
  | _, _ => none

/-- The number of a decimal that may carry a sign. -/
def signedDecimal? : List Char → Option Double
  | '-' :: cs => decimal? true cs
  | '+' :: cs => decimal? false cs
  | cs => decimal? false cs

end TemplateCatalog.Decimal
