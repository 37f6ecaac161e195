import TemplateCatalog.Json.Value
import TemplateCatalog.Decimal.Numeral

/-!
# Reading JSON

`Json.read?` reads one value from a text and fails unless the whole text is that
value. An integer that fits in 64 bits stays an integer, except that `-0` is the
negative zero of the doubles.
-/

namespace TemplateCatalog.Json

open Decimal

/-- Drops the blanks of JSON from the front. -/
def skipBlanks (cs : List Char) : List Char :=
  cs.dropWhile fun c => c = ' ' || c = '\n' || c = '\r' || c = '\t'

/-- The number that four hexadecimal digits denote, with the rest. -/
def fourHex : List Char → Option (Nat × List Char)
  | a :: b :: c :: d :: rest => (Decimal.nat? 16 [a, b, c, d]).map fun n => (n, rest)
  | _ => none

/-- The character of a `u` escape, whose digits start `cs`, with the rest. A high
    surrogate joins the low one escaped right after it. -/
def unicodeEscape (cs : List Char) : Option (Char × List Char) :=
  match fourHex cs with
  | none => none
  | some (hi, rest) =>
    if 0xD800 ≤ hi && hi < 0xDC00 then
      match rest with
      | '\\' :: 'u' :: r =>
        match fourHex r with
        | some (lo, r') =>
          if 0xDC00 ≤ lo && lo < 0xE000 then
            some (Char.ofNat (0x10000 + (hi - 0xD800) * 0x400 + (lo - 0xDC00)), r')
          else none
        | none => none
      | _ => none
    else if 0xDC00 ≤ hi && hi < 0xE000 then none
    else some (Char.ofNat hi, rest)

/-- The character that an escape of one letter stands for. -/
def shortEscape : Char → Option Char
  | '\x22' => some '\x22'
  | '\\' => some '\\'
  | '/' => some '/'
  | 'b' => some '\x08'
  | 'f' => some '\x0c'
  | 'n' => some '\n'
  | 'r' => some '\r'
  | 't' => some '\t'
  | _ => none

/-- The characters of a string up to its closing quote, in reverse before `acc`,
    with the rest. -/
def stringBody : Nat → List Char → List Char → Option (String × List Char)
  | 0, _, _ => none
  | fuel + 1, acc, cs =>
    match cs with
    | [] => none
    | '\x22' :: rest => some (String.ofList acc.reverse, rest)
    | '\\' :: 'u' :: rest =>
      match unicodeEscape rest with
      | some (c, rest') => stringBody fuel (c :: acc) rest'
      | none => none
    | '\\' :: e :: rest =>
      match shortEscape e with
      | some c => stringBody fuel (c :: acc) rest
      | none => none
    | c :: rest => if c.toNat < 0x20 then none else stringBody fuel (c :: acc) rest

/-- Whether `c` may stand in a number. -/
def isNumberChar (c : Char) : Bool :=
  isDecimalDigit c || c = '-' || c = '+' || c = '.' || c = 'e' || c = 'E'

/-- The value of the text of a number. -/
def number? (cs : List Char) : Option Number :=
  let negative := cs.head? = some '-'
  let body := if negative then cs.drop 1 else cs
  if body.all isDecimalDigit then
    match Decimal.nat? 10 body with
    | none => none
    | some n =>
      let i : Int := if negative then -(n : Int) else n
      if negative && n = 0 then some (.double (.ofDecimal true 0 0))
      else if fits 64 i then some (.integer i)
      else some (.double (.ofDecimal negative n 0))
  else (decimal? negative body).map .double

mutual

/-- Reads a value at the front of a text, after blanks. -/
def value : Nat → List Char → Option (Json × List Char)
  | 0, _ => none
  | fuel + 1, cs =>
    match skipBlanks cs with
    | 'n' :: 'u' :: 'l' :: 'l' :: rest => some (.null, rest)
    | 't' :: 'r' :: 'u' :: 'e' :: rest => some (.bool true, rest)
    | 'f' :: 'a' :: 'l' :: 's' :: 'e' :: rest => some (.bool false, rest)
    | '\x22' :: rest =>
      (stringBody (rest.length + 1) [] rest).map fun p => (.string p.1, p.2)
    | '[' :: rest =>
      match skipBlanks rest with
      | ']' :: rest' => some (.array [], rest')
      | _ => (elements fuel rest).map fun p => (.array p.1, p.2)
    | '\x7b' :: rest =>
      match skipBlanks rest with
      | '\x7d' :: rest' => some (.object [], rest')
      | _ => (members fuel rest).map fun p => (.object p.1, p.2)
    | cs' =>
      (number? (cs'.takeWhile isNumberChar)).map fun n =>
        (.number n, cs'.dropWhile isNumberChar)

/-- Reads the items of an array up to its end. -/
def elements : Nat → List Char → Option (List Json × List Char)
  | 0, _ => none
  | fuel + 1, cs =>
    match value fuel cs with
    | none => none
    | some (v, rest) =>
      match skipBlanks rest with
      | ',' :: rest' => (elements fuel rest').map fun p => (v :: p.1, p.2)
      | ']' :: rest' => some ([v], rest')
      | _ => none

/-- Reads the members of an object up to its end. -/
def members : Nat → List Char → Option (List (String × Json) × List Char)
  | 0, _ => none
  | fuel + 1, cs =>
    match skipBlanks cs with
    | '\x22' :: rest =>
      match stringBody (rest.length + 1) [] rest with
      | none => none
      | some (k, rest₁) =>
        match skipBlanks rest₁ with
        | ':' :: rest₂ =>
          match value fuel rest₂ with
          | none => none
          | some (v, rest₃) =>
            match skipBlanks rest₃ with
            | ',' :: rest₄ => (members fuel rest₄).map fun p => ((k, v) :: p.1, p.2)
            | '\x7d' :: rest₄ => some ([(k, v)], rest₄)
            | _ => none
        | _ => none
    | _ => none

end

/-- The value of a text, if the whole text is one value. -/
def read? (s : String) : Option Json :=
  let cs := s.toList
  match value (cs.length + 1) cs with
  | some (v, rest) => if (skipBlanks rest).isEmpty then some v else none
  | none => none

end TemplateCatalog.Json
