import TemplateCatalog.Json.Value

/-!
# Writing JSON

Two forms of one value: `compact` on a single line, and `pretty` with every item
on a line of its own, two blanks to the right of what holds it. Members keep
their order.
-/

namespace TemplateCatalog.Json

open Decimal

/-- Doubles are written with a signed exponent outside `1e-5` to `1e15`. What is
    not finite has no JSON form. -/
def layout : Layout :=
  { positional := some (-5, 15), plus := true
    infinite := "null", negativeInfinite := "null", notANumber := "null" }

/-- The form of a character in a string. -/
def escapeChar (c : Char) : List Char :=
  if c = '\x22' then ['\\', '\x22']
  else if c = '\\' then ['\\', '\\']
  else if c = '\x08' then ['\\', 'b']
  else if c = '\x0c' then ['\\', 'f']
  else if c = '\n' then ['\\', 'n']
  else if c = '\r' then ['\\', 'r']
  else if c = '\t' then ['\\', 't']
  else if c.toNat < 0x10 then ['\\', 'u', '0', '0', '0'] ++ Nat.toDigits 16 c.toNat
  else if c.toNat < 0x20 then ['\\', 'u', '0', '0'] ++ Nat.toDigits 16 c.toNat
  else [c]

/-- The form of a string. -/
def escape (s : String) : String :=
  String.ofList ('\x22' :: s.toList.flatMap escapeChar ++ ['\x22'])

mutual

/-- A value on one line. -/
def compact : Json → String
  | .null => "null"
  | .bool b => if b then "true" else "false"
  | .number n => n.text layout
  | .string s => escape s
  | .array items => "[" ++ ",".intercalate (compactItems items) ++ "]"
  | .object members => "\x7b" ++ ",".intercalate (compactMembers members) ++ "\x7d"

/-- The forms of the items of an array. -/
def compactItems : List Json → List String
  | [] => []
  | v :: rest => compact v :: compactItems rest

/-- The forms of the members of an object. -/
def compactMembers : List (String × Json) → List String
  | [] => []
  | (k, v) :: rest => (escape k ++ ":" ++ compact v) :: compactMembers rest

end

/-- Encloses lines between two brackets, each line `depth` steps to the right. -/
def enclose (depth : Nat) (opening closing : String) (lines : List String) : String :=
  match lines with
  | [] => opening ++ closing
  | _ =>
    let margin := "\n" ++ String.ofList (List.replicate (2 * (depth + 1)) ' ')
    opening ++ ",".intercalate (lines.map (margin ++ ·)) ++ "\n"
      ++ String.ofList (List.replicate (2 * depth) ' ') ++ closing

mutual

/-- A value on several lines, at a depth. -/
def prettyAt (depth : Nat) : Json → String
  | .null => "null"
  | .bool b => if b then "true" else "false"
  | .number n => n.text layout
  | .string s => escape s
  | .array items => enclose depth "[" "]" (prettyItems (depth + 1) items)
  | .object members => enclose depth "\x7b" "\x7d" (prettyMembers (depth + 1) members)

/-- The forms of the items of an array, at their depth. -/
def prettyItems (depth : Nat) : List Json → List String
  | [] => []
  | v :: rest => prettyAt depth v :: prettyItems depth rest

/-- The forms of the members of an object, at their depth. -/
def prettyMembers (depth : Nat) : List (String × Json) → List String
  | [] => []
  | (k, v) :: rest => (escape k ++ ": " ++ prettyAt depth v) :: prettyMembers depth rest

end

/-- A value on several lines. -/
def pretty (j : Json) : String := prettyAt 0 j

end TemplateCatalog.Json
