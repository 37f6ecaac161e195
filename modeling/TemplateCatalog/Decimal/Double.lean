/-!
# Double precision numbers

The numbers a scalar with a point or an exponent denotes: a sign and `m * 2 ^ e`
with a mantissa of at most 53 bits, the two infinities, and the value that is
not a number. A finite number is kept in the one form that has either a mantissa
of exactly 53 bits or the least exponent, so that equal numbers of one sign are
equal terms.

`ofRatio` rounds a fraction to the nearest such number, a tie going to the even
mantissa, and `ofDecimal` does so for `digits * 10 ^ exponent`.
-/

namespace TemplateCatalog.Decimal

/-- A number of double precision. -/
inductive Double where
  /-- The number `mantissa * 2 ^ exponent`, negated if `negative`. -/
  | finite (negative : Bool) (mantissa : Nat) (exponent : Int)
  | infinite (negative : Bool)
  | notANumber
  deriving DecidableEq, Repr

namespace Double

/-- The bits of a mantissa. -/
def precision : Nat := 53

/-- The least exponent of a number. -/
def minExponent : Int := -1074

/-- The greatest exponent of a number. -/
def maxExponent : Int := 971

/-- The fraction `num / den` divided by `2 ^ e`. -/
def scaled (num den : Nat) (e : Int) : Nat × Nat :=
  if 0 ≤ e then (num, den * Nat.pow 2 e.toNat) else (num * Nat.pow 2 (-e).toNat, den)

/-- The quotient of `num` by `den` rounded to the nearest integer, a tie going to
    the even one. -/
def roundQuotient (num den : Nat) : Nat :=
  let q := num / den
  let r := num % den
  if 2 * r < den then q
  else if den < 2 * r then q + 1
  else if q % 2 = 0 then q else q + 1

/-- The exponent at which the quotient of `num` by `den` has 53 bits, or the least
    exponent if that is greater. -/
def exponentFor (num den : Nat) : Int :=
  let low : Int := (num.log2 : Int) - (den.log2 : Int) - precision
  let first := max low minExponent
  let s := scaled num den first
  if s.1 / s.2 < Nat.pow 2 precision then first else first + 1

/-- The number nearest to `num / den`, negated if `negative`. -/
def ofRatio (negative : Bool) (num den : Nat) : Double :=
  if num = 0 then .finite negative 0 minExponent
  else
    let e := exponentFor num den
    let s := scaled num den e
    let m := roundQuotient s.1 s.2
    -- Rounding up may give a power of two, which has a bit too many.
    if m = Nat.pow 2 precision then
      if e < maxExponent then .finite negative (Nat.pow 2 (precision - 1)) (e + 1) else .infinite negative
    else if maxExponent < e then .infinite negative
    else .finite negative m e

/-- The number of decimal digits of `n`, at least one. -/
def digitCount (n : Nat) : Nat := (Nat.toDigits 10 n).length

/-- The number nearest to `digits * 10 ^ exponent`, negated if `negative`. The
    powers of ten beyond the reach of any number are never computed. -/
def ofDecimal (negative : Bool) (digits : Nat) (exponent : Int) : Double :=
  if digits = 0 then .finite negative 0 minExponent
  else
    let top : Int := digitCount digits + exponent
    if 310 < top then .infinite negative
    else if top < -330 then .finite negative 0 minExponent
    else if 0 ≤ exponent then ofRatio negative (digits * Nat.pow 10 exponent.toNat) 1
    else ofRatio negative digits (Nat.pow 10 (-exponent).toNat)

/-- Whether a number is neither infinite nor not a number. -/
def isFinite : Double → Bool
  | .finite .. => true
  | _ => false

/-- Whether two numbers are the same value: the two zeros are, and what is not a
    number is the same as itself. -/
def same : Double → Double → Bool
  | .finite n m e, .finite n' m' e' => m = m' && e = e' && (n = n' || m = 0)
  | .infinite n, .infinite n' => n = n'
  | .notANumber, .notANumber => true
  | _, _ => false

example : ofDecimal false 1 0 = .finite false (2 ^ 52) (-52) := by decide +kernel
example : ofDecimal false 49 (-325) = .finite false 1 (-1074) := by decide +kernel
example : ofDecimal true 1 309 = .infinite true := by decide +kernel

end Double

end TemplateCatalog.Decimal
