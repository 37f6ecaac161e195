import TemplateCatalog.Decimal.Double

/-!
# Shortest decimals

The fewest digits that read back. Every double is the nearest one to all reals in
an interval around it, which includes its ends exactly if its mantissa is even.
`shortest` looks for a decimal in that interval on coarser grids first: with one
digit, then two, up to seventeen. On a grid only the two neighbours of the number
need to be tried, since if any point of the grid lies in the interval one of them
does; if both do, the nearer is taken.
-/

namespace TemplateCatalog.Decimal

/-- The decimal `digits * 10 ^ exponent`. -/
structure Digits where
  digits : Nat
  exponent : Int
  deriving DecidableEq, Repr

/-- The fraction `num / den` together with the ends `low / den` and `high / den`
    of the interval of reals nearest to it. -/
structure Interval where
  num : Nat
  low : Nat
  high : Nat
  den : Nat
  /-- Whether the ends belong to the interval. -/
  closed : Bool

/-- The interval of the reals that round to `m * 2 ^ e`. Below a power of two the
    grid of doubles is twice as fine. -/
def Interval.around (m : Nat) (e : Int) : Interval :=
  let below := if m = Nat.pow 2 52 ∧ Double.minExponent < e then 1 else 2
  let scale := if 0 ≤ e then Nat.pow 2 e.toNat else 1
  { num := 4 * m * scale
    low := (4 * m - below) * scale
    high := (4 * m + 2) * scale
    den := 4 * (if 0 ≤ e then 1 else Nat.pow 2 (-e).toNat)
    closed := m % 2 = 0 }

/-- Whether `d * 10 ^ p` lies in an interval. -/
def Interval.holds (i : Interval) (d : Nat) (p : Int) : Bool :=
  let x := if 0 ≤ p then d * Nat.pow 10 p.toNat * i.den else d * i.den
  let unit := if 0 ≤ p then 1 else Nat.pow 10 (-p).toNat
  if i.closed then i.low * unit ≤ x && x ≤ i.high * unit
  else i.low * unit < x && x < i.high * unit

/-- The number of zeros between the point and the first digit of a fraction below
    one. -/
def leadingZeros (num den : Nat) : Nat :=
  ((List.range 400).find? fun j => den ≤ num * Nat.pow 10 (j + 1)).getD 400

/-- The number of decimal digits of a fraction before the point; for a fraction
    below one, minus the number of zeros after the point. -/
def magnitude (num den : Nat) : Int :=
  if den ≤ num then Double.digitCount (num / den) else -(leadingZeros num den : Int)

/-- The decimal on the grid of `n` digits that lies in the interval, if there is
    one: of the two neighbours of the number the nearer, a tie going to the even
    one. -/
def onGrid (i : Interval) (n : Nat) : Option Digits :=
  let p : Int := magnitude i.num i.den - n
  let num := if 0 ≤ p then i.num else i.num * Nat.pow 10 (-p).toNat
  let den := if 0 ≤ p then i.den * Nat.pow 10 p.toNat else i.den
  let d := num / den
  let r := num % den
  let downIn := i.holds d p
  let upIn := i.holds (d + 1) p
  let nearer := if 2 * r < den then d else if den < 2 * r then d + 1
    else if d % 2 = 0 then d else d + 1
  if downIn && upIn then some ⟨nearer, p⟩
  else if downIn then some ⟨d, p⟩
  else if upIn then some ⟨d + 1, p⟩
  else none

/-- Moves trailing zeros of the digits into the exponent. The fuel bounds the
    number of zeros. -/
def Digits.normalise : Nat → Digits → Digits
  | 0, d => d
  | fuel + 1, d =>
    if d.digits ≠ 0 ∧ d.digits % 10 = 0 then normalise fuel ⟨d.digits / 10, d.exponent + 1⟩ else d

/-- The shortest decimal that reads back as `m * 2 ^ e`, without trailing zeros. -/
def shortest (m : Nat) (e : Int) : Digits :=
  if m = 0 then ⟨0, 0⟩
  else
    let found := (List.range 17).findSome? fun k => onGrid (Interval.around m e) (k + 1)
    (found.getD ⟨m, 0⟩).normalise 20

example : shortest (2 ^ 52) (-52) = ⟨1, 0⟩ := by decide +kernel
example : shortest 1 (-1074) = ⟨5, -324⟩ := by decide +kernel
example : shortest 9007199254740991 971 = ⟨17976931348623157, 292⟩ := by decide +kernel

end TemplateCatalog.Decimal
