import TemplateCatalog.Decimal.Number
import TemplateCatalog.Decimal.Numeral

/-!
# Literals of a settings file

The texts, numbers, dates and times that a settings file may hold. Every reader
takes its literal from the front of a text and returns it with the rest.

Of dates and times only the form is checked; nothing in the settings is one.
-/

namespace TemplateCatalog.Toml

open Decimal

/-- Whether `c` is a blank inside a line. -/
def isSpace (c : Char) : Bool := c = ' ' || c = '\t'

/-- Whether `c` may stand in a text or a comment as it is, line ends aside. -/
def isPrintable (c : Char) : Bool := c = '\t' || (' ' ≤ c && c ≠ '\x7f')

/-- The text after a line end, if one stands in front. -/
def newline? : List Char → Option (List Char)
  | '\n' :: rest => some rest
  | '\r' :: '\n' :: rest => some rest
  | _ => none

/-! ## Texts -/

/-- The character of a code point that is one. -/
def charOf? (n : Nat) : Option Char :=
  if n < 0xD800 || (0xDFFF < n && n < 0x110000) then some (Char.ofNat n) else none

/-- The character of `n` hexadecimal digits. -/
def hexChar? (n : Nat) (cs : List Char) : Option (Char × List Char) :=
  if (cs.take n).length = n then
    ((nat? 16 (cs.take n)).bind charOf?).map fun c => (c, cs.drop n)
  else none

/-- The character that an escape stands for, after the backslash. -/
def escape? : List Char → Option (Char × List Char)
  | 'b' :: rest => some ('\x08', rest)
  | 't' :: rest => some ('\t', rest)
  | 'n' :: rest => some ('\n', rest)
  | 'f' :: rest => some ('\x0c', rest)
  | 'r' :: rest => some ('\r', rest)
  | 'e' :: rest => some ('\x1b', rest)
  | '\x22' :: rest => some ('\x22', rest)
  | '\\' :: rest => some ('\\', rest)
  | 'x' :: rest => hexChar? 2 rest
  | 'u' :: rest => hexChar? 4 rest
  | 'U' :: rest => hexChar? 8 rest
  | _ => none

/-- The text up to a closing quote on the same line, with escapes unless it is
    literal. The text so far is in reverse. -/
def lineText (quote : Char) : Nat → List Char → List Char → Option (String × List Char)
  | 0, _, _ => none
  | fuel + 1, text, cs =>
    match cs with
    | [] => none
    | c :: rest =>
      if c = quote then some (.ofList text.reverse, rest)
      else if c = '\\' && quote = '\x22' then
        match escape? rest with
        | some (e, rest) => lineText quote fuel (e :: text) rest
        | none => none
      else if isPrintable c then lineText quote fuel (c :: text) rest
      else none

/-- The rest after blanks and at least one line end, up to the next text. -/
def foldedLine? (cs : List Char) : Option (List Char) :=
  (newline? (cs.dropWhile isSpace)).map fun rest =>
    rest.dropWhile fun c => isSpace c || c = '\n' || c = '\r'

/-- The text up to three closing quotes, which may follow up to two quotes of the
    text. A backslash at the end of a line joins it to the next text. -/
def blockText (quote : Char) : Nat → List Char → List Char → Option (String × List Char)
  | 0, _, _ => none
  | fuel + 1, text, cs =>
    match newline? cs with
    | some rest => blockText quote fuel ('\n' :: text) rest
    | none =>
      match cs with
      | [] => none
      | c :: rest =>
        if c = quote then
          let run := 1 + (rest.takeWhile (· = quote)).length
          if run < 3 then blockText quote fuel (c :: text) rest
          else
            let inside := min (run - 3) 2
            some (.ofList (List.replicate inside quote ++ text).reverse, cs.drop (inside + 3))
        else if c = '\\' && quote = '\x22' then
          match escape? rest, foldedLine? rest with
          | some (e, rest), _ => blockText quote fuel (e :: text) rest
          | none, some rest => blockText quote fuel text rest
          | none, none => none
        else if isPrintable c then blockText quote fuel (c :: text) rest
        else none

/-- A text in one pair of quotes. -/
def quoted? (fuel : Nat) : List Char → Option (String × List Char)
  | '\x22' :: rest => lineText '\x22' fuel [] rest
  | '\'' :: rest => lineText '\'' fuel [] rest
  | _ => none

/-- A text. A line end right after three opening quotes does not belong to it. -/
def text? (fuel : Nat) : List Char → Option (String × List Char)
  | '\x22' :: '\x22' :: '\x22' :: rest => blockText '\x22' fuel [] ((newline? rest).getD rest)
  | '\'' :: '\'' :: '\'' :: rest => blockText '\'' fuel [] ((newline? rest).getD rest)
  | cs => quoted? fuel cs

/-! ## Numbers -/

/-- Digits of a radix without the underscores between two of them. -/
def digits? (radix : Nat) : List Char → Option (List Char)
  | [] => none
  | [c] => (digitIn radix c).map fun _ => [c]
  | c :: '_' :: rest =>
    match digitIn radix c, digits? radix rest with
    | some _, some ds => some (c :: ds)
    | _, _ => none
  | c :: rest =>
    match digitIn radix c, digits? radix rest with
    | some _, some ds => some (c :: ds)
    | _, _ => none

/-- Decimal digits of which the first is no zero, unless it is the only one. -/
def whole? (cs : List Char) : Option (List Char) :=
  match digits? 10 cs with
  | some ('0' :: _ :: _) => none
  | ds => ds

/-- The number of an integer without a sign. -/
def magnitude? : List Char → Option Nat
  | '0' :: 'x' :: cs => (digits? 16 cs).bind (nat? 16)
  | '0' :: 'o' :: cs => (digits? 8 cs).bind (nat? 8)
  | '0' :: 'b' :: cs => (digits? 2 cs).bind (nat? 2)
  | cs => (whole? cs).bind (nat? 10)

/-- An integer, which must fit into 128 bits. -/
def integer? (cs : List Char) : Option Int :=
  let i : Option Int :=
    match cs with
    | '-' :: rest => ((whole? rest).bind (nat? 10)).map fun n => -(n : Int)
    | '+' :: rest => ((whole? rest).bind (nat? 10)).map Int.ofNat
    | _ => (magnitude? cs).map Int.ofNat
  i.filter (fits 128)

/-- The digits of an exponent after its mark, with their sign. -/
def exponentDigits? : List Char → Option (List Char)
  | '-' :: cs => (digits? 10 cs).map ('-' :: ·)
  | '+' :: cs => digits? 10 cs
  | cs => digits? 10 cs

/-- Whether `c` marks an exponent. -/
def isExponentMark (c : Char) : Bool := c = 'e' || c = 'E'

/-- The digits of an exponent with its mark; nothing if there is none. -/
def exponent? : List Char → Option (List Char)
  | [] => some []
  | _ :: cs => (exponentDigits? cs).map ('e' :: ·)

/-- A double without a sign: it has digits on both sides of its point if it has
    one, and a point or an exponent, which tells it from an integer. -/
def unsignedDouble? (negative : Bool) (cs : List Char) : Option Double :=
  if cs = "inf".toList then some (.infinite negative)
  else if cs = "nan".toList then some .notANumber
  else if cs.all fun c => c ≠ '.' && !isExponentMark c then none
  else
    let mantissa := cs.takeWhile (!isExponentMark ·)
    let whole := mantissa.takeWhile (· ≠ '.')
    let fraction := match mantissa.dropWhile (· ≠ '.') with
      | [] => some []
      | _ :: ds => (digits? 10 ds).map ('.' :: ·)
    match whole? whole, fraction, exponent? (cs.dropWhile (!isExponentMark ·)) with
    | some w, some f, some e => (decimal? negative (w ++ f ++ e)).filter Double.isFinite
    | _, _, _ => none

/-- A double. -/
def double? : List Char → Option Double
  | '-' :: cs => unsignedDouble? true cs
  | '+' :: cs => unsignedDouble? false cs
  | cs => unsignedDouble? false cs

/-- A number. -/
def number? (cs : List Char) : Option Number :=
  match integer? cs with
  | some i => some (.integer i)
  | none => (double? cs).map .double

/-! ## Dates and times -/

/-- The number of two digits. -/
def two? (a b : Char) : Option Nat := nat? 10 [a, b]

/-- The days of a month. -/
def daysIn (year month : Nat) : Nat :=
  if month = 2 then
    if year % 4 = 0 && (year % 100 != 0 || year % 400 = 0) then 29 else 28
  else if month = 4 || month = 6 || month = 9 || month = 11 then 30
  else 31

/-- The rest after a date. -/
def afterDate? : List Char → Option (List Char)
  | a :: b :: c :: d :: '-' :: e :: f :: '-' :: g :: h :: rest =>
    match nat? 10 [a, b, c, d], two? e f, two? g h with
    | some year, some month, some day =>
      if 1 ≤ month && month ≤ 12 && 1 ≤ day && day ≤ daysIn year month then some rest else none
    | _, _, _ => none
  | _ => none

/-- The rest after a fraction of a second, if there is one. -/
def afterFraction? : List Char → Option (List Char)
  | '.' :: c :: rest =>
    if isDecimalDigit c then some (rest.dropWhile isDecimalDigit) else none
  | '.' :: [] => none
  | rest => some rest

/-- The rest after a time, whose seconds may be missing. -/
def afterTime? : List Char → Option (List Char)
  | a :: b :: ':' :: c :: d :: rest =>
    match two? a b, two? c d with
    | some hour, some minute =>
      if hour ≤ 23 && minute ≤ 59 then
        match rest with
        | ':' :: e :: f :: rest =>
          match two? e f with
          | some second => if second ≤ 60 then afterFraction? rest else none
          | none => none
        | rest => some rest
      else none
    | _, _ => none
  | _ => none

/-- Whether a text is the offset of a time, or empty. -/
def isOffset : List Char → Bool
  | [] => true
  | ['Z'] => true
  | ['z'] => true
  | [sign, a, b, ':', c, d] =>
    (sign = '+' || sign = '-')
      && (match two? a b, two? c d with
        | some hour, some minute => hour ≤ 23 && minute ≤ 59
        | _, _ => false)
  | _ => false

/-- Whether a text is a date, a time or both. -/
def isDateTime (cs : List Char) : Bool :=
  match afterDate? cs with
  | some [] => true
  | some (c :: rest) =>
    (c = 'T' || c = 't' || c = ' ') && (afterTime? rest).any isOffset
  | none => (afterTime? cs).any List.isEmpty

end TemplateCatalog.Toml
