import TemplateCatalog.Decimal.Layout

/-!
# Numbers of a document

A number is an integer of 64 bits, signed or unsigned, or a double. The two kinds
are told apart even where they agree in value: `1` is not `1.0`.
-/

namespace TemplateCatalog.Decimal

/-- A number, as an integer or as a double. -/
inductive Number where
  | integer (i : Int)
  | double (d : Double)
  deriving DecidableEq, Repr

/-- The bound of the unsigned integers of so many bits. -/
def unsignedBound (bits : Nat) : Int := Nat.pow 2 bits

/-- The bound of the signed integers of so many bits. -/
def signedBound (bits : Nat) : Int := Nat.pow 2 (bits - 1)

/-- Whether an integer fits into so many bits, signed or unsigned. -/
def fits (bits : Nat) (i : Int) : Bool := -signedBound bits ≤ i && i < unsignedBound bits

namespace Number

/-- Whether two numbers are the same, zeros of either sign being so. -/
def same : Number → Number → Bool
  | .integer i, .integer j => i = j
  | .double d, .double e => d.same e
  | _, _ => false

/-- The text of a number whose double is written in a layout. -/
def text (layout : Layout) : Number → String
  | .integer i => toString i
  | .double d => layout.write d

end Number

end TemplateCatalog.Decimal
