import TemplateCatalog.Decimal.Shortest

/-!
# Layouts of a number

How a double is written: which exponents are written positionally, and how the
others are marked. All layouts write the shortest digits that read back and keep
a point in every positional number, so that a number with a point is never taken
for an integer.
-/

namespace TemplateCatalog.Decimal

/-- The decisions of one written form. -/
structure Layout where
  /-- The exponents, of the first digit, of the numbers written positionally;
      `none` writes every number so. -/
  positional : Option (Int × Int)
  /-- Whether a positive exponent carries a sign. -/
  plus : Bool
  /-- The texts of the infinities and of what is not a number. -/
  infinite : String
  negativeInfinite : String
  notANumber : String

/-- The digits of `n` in base ten. -/
def decimalDigits (n : Nat) : List Char := Nat.toDigits 10 n

/-- A decimal without an exponent: the digits with a point in their place. -/
def positionalForm (d : Digits) : List Char :=
  let cs := decimalDigits d.digits
  if 0 ≤ d.exponent then cs ++ List.replicate d.exponent.toNat '0' ++ ['.', '0']
  else
    let after := (-d.exponent).toNat
    if after < cs.length then
      cs.take (cs.length - after) ++ '.' :: cs.drop (cs.length - after)
    else '0' :: '.' :: List.replicate (after - cs.length) '0' ++ cs

/-- A decimal with one digit before the point and an exponent. -/
def scientificForm (plus : Bool) (d : Digits) : List Char :=
  let cs := decimalDigits d.digits
  let e : Int := d.exponent + (cs.length - 1 : Nat)
  let sign := if e < 0 then ['-'] else if plus then ['+'] else []
  cs.take 1 ++ (if cs.length = 1 then [] else '.' :: cs.drop 1) ++ 'e' :: sign
    ++ decimalDigits e.natAbs

/-- Whether a layout writes a decimal positionally. -/
def Layout.isPositional (l : Layout) (d : Digits) : Bool :=
  match l.positional with
  | none => true
  | some (lo, hi) =>
    let e : Int := d.exponent + ((decimalDigits d.digits).length - 1 : Nat)
    d.digits = 0 || (lo ≤ e && e ≤ hi)

/-- The text of a number in a layout. -/
def Layout.write (l : Layout) : Double → String
  | .finite negative m e =>
    let d := shortest m e
    let body := if l.isPositional d then positionalForm d else scientificForm l.plus d
    String.ofList (if negative then '-' :: body else body)
  | .infinite false => l.infinite
  | .infinite true => l.negativeInfinite
  | .notANumber => l.notANumber

end TemplateCatalog.Decimal
