import TemplateCatalog.Decimal.Numeral
import TemplateCatalog.Decimal.Number

/-!
# What a plain scalar means

A plain text that reads as a null, a truth value or a number is one; everything
else is text. Integers may be given in four radices. A text of digits with a zero
in front is no number, since it is more likely a code or a date. Integers are
limited to 64 bits; one that fits into 128 is recognised but of no use, and a
greater one is taken for a double.
-/

namespace TemplateCatalog.Yaml.Scalar

open Decimal

/-- What a plain text stands for. -/
inductive Meaning where
  | null
  | bool (b : Bool)
  | number (n : Number)
  /-- An integer beyond 64 bits. -/
  | wide (i : Int)
  | text
  deriving DecidableEq, Repr

/-- Whether a text stands for nothing. -/
def isNull (s : String) : Bool := s = "null" || s = "Null" || s = "NULL" || s = "~"

/-- The truth value that a text names. -/
def bool? (s : String) : Option Bool :=
  if s = "true" || s = "True" || s = "TRUE" then some true
  else if s = "false" || s = "False" || s = "FALSE" then some false
  else none

/-- The text after a sign. -/
def afterSign : List Char → List Char
  | '-' :: rest => rest
  | '+' :: rest => rest
  | cs => cs

/-- Whether a text is a zero followed by digits, after an optional sign. -/
def isCode (cs : List Char) : Bool :=
  match afterSign cs with
  | '0' :: c :: rest => (c :: rest).all isDecimalDigit
  | _ => false

/-- The number that digits denote, in the radix that they start with. -/
def magnitude? : List Char → Option Nat
  | '0' :: 'x' :: cs => nat? 16 cs
  | '0' :: 'o' :: cs => nat? 8 cs
  | '0' :: 'b' :: cs => nat? 2 cs
  | cs => nat? 10 cs

/-- The integer that a text denotes. -/
def integer? (cs : List Char) : Option Int :=
  if isCode cs then none
  else
    match cs with
    | '-' :: rest => (magnitude? rest).map fun n => -(n : Int)
    | '+' :: rest => (magnitude? rest).map Int.ofNat
    | _ => (magnitude? cs).map Int.ofNat

/-- The finite double that a text denotes. -/
def finite? (cs : List Char) : Option Double :=
  match signedDecimal? cs with
  | some d => if d.isFinite then some d else none
  | none => none

/-- The double that a text denotes. -/
def double? (s : String) : Option Double :=
  if [".inf", ".Inf", ".INF", "+.inf", "+.Inf", "+.INF"].contains s then some (.infinite false)
  else if ["-.inf", "-.Inf", "-.INF"].contains s then some (.infinite true)
  else if [".nan", ".NaN", ".NAN"].contains s then some .notANumber
  else finite? s.toList

/-- The meaning of an integer, if it is one that can be recognised. -/
def Meaning.ofInt? (i : Int) : Option Meaning :=
  if fits 64 i then some (.number (.integer i))
  else if fits 128 i then some (.wide i)
  else none

/-- The meaning of a text as an integer. -/
def Meaning.integer? (s : String) : Option Meaning := (Scalar.integer? s.toList).bind Meaning.ofInt?

/-- The meaning of a plain text. -/
def Meaning.ofPlain (s : String) : Meaning :=
  if s = "" || isNull s then .null
  else
    match bool? s, Meaning.integer? s with
    | some b, _ => .bool b
    | none, some m => m
    | none, none =>
      if isCode s.toList then .text
      else
        match double? s with
        | some d => .number (.double d)
        | none => .text

end TemplateCatalog.Yaml.Scalar
