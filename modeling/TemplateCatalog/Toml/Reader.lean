import TemplateCatalog.Toml.Item
import TemplateCatalog.Toml.Literal

/-!
# Reading settings files

`Toml.read?` reads a whole file into the value of its table and fails if anything
in it is not well-formed. Arrays and tables that are written as values nest at
most eighty deep.
-/

namespace TemplateCatalog.Toml

open Decimal

/-- Whether `c` may stand in a key without quotes. -/
def isKeyChar (c : Char) : Bool :=
  isDecimalDigit c || ('a' ≤ c && c ≤ 'z') || ('A' ≤ c && c ≤ 'Z') || c = '_' || c = '-'

/-- One part of a key. -/
def keyPart? (fuel : Nat) (cs : List Char) : Option (String × List Char) :=
  match cs with
  | '\x22' :: _ | '\'' :: _ => quoted? fuel cs
  | _ =>
    let part := cs.takeWhile isKeyChar
    if part.isEmpty then none else some (.ofList part, cs.dropWhile isKeyChar)

/-- The parts of a key, with blanks around its points, as the path and the last
    part. -/
def key? (fuel : Nat) : Nat → List Char → Option ((List String × String) × List Char)
  | 0, _ => none
  | n + 1, cs =>
    match keyPart? fuel (cs.dropWhile isSpace) with
    | none => none
    | some (part, rest) =>
      match rest.dropWhile isSpace with
      | '.' :: rest => (key? fuel n rest).map fun k => ((part :: k.1.1, k.1.2), k.2)
      | rest => some (([], part), rest)

/-- The rest after a comment, if there is one. -/
def afterComment? : List Char → Option (List Char)
  | '#' :: rest =>
    let rest := rest.dropWhile isPrintable
    match rest with
    | [] => some []
    | _ => (newline? rest).map fun _ => rest
  | rest => some rest

/-- The rest after blanks, comments and line ends. -/
def skipLines : Nat → List Char → Option (List Char)
  | 0, _ => none
  | fuel + 1, cs =>
    match afterComment? (cs.dropWhile isSpace) with
    | none => none
    | some rest =>
      match newline? rest with
      | some rest => skipLines fuel rest
      | none => some rest

/-- Whether `c` may stand in a literal without quotes. -/
def isLiteralChar (c : Char) : Bool := isKeyChar c || c = '+' || c = '.' || c = ':'

/-- A literal without quotes. A date and a time may be separated by a blank. -/
def bare? (cs : List Char) : Option (Item × List Char) :=
  let word := cs.takeWhile isLiteralChar
  let rest := cs.dropWhile isLiteralChar
  let joined := match rest with
    | ' ' :: c :: r =>
      if isDecimalDigit c && (afterDate? word).any List.isEmpty then
        some (word ++ ' ' :: (c :: r).takeWhile isLiteralChar, (c :: r).dropWhile isLiteralChar)
      else none
    | _ => none
  let (word, rest) := joined.getD (word, rest)
  if word = "true".toList then some (.leaf (.bool true), rest)
  else if word = "false".toList then some (.leaf (.bool false), rest)
  else if isDateTime word then some (.leaf (.mapping []), rest)
  else (number? word).map fun n => (.leaf (.number n), rest)

/-- The number of arrays and tables that may be nested as values. -/
def depthLimit : Nat := 80

mutual

/-- A value, inside `depth` arrays and tables. -/
def value? (size : Nat) : Nat → Nat → List Char → Option (Item × List Char)
  | 0, _, _ => none
  | fuel + 1, depth, cs =>
    match cs with
    | '\x22' :: _ | '\'' :: _ => (text? size cs).map fun t => (.leaf (.string t.1), t.2)
    | '[' :: rest =>
      if depth < depthLimit then
        (items? size fuel (depth + 1) rest).map fun r => (.array false r.1, r.2)
      else none
    | '\x7b' :: rest =>
      if depth < depthLimit then
        (entries? size fuel (depth + 1) ⟨.dotted, []⟩ rest).map fun r => (.table .inline r.1.entries, r.2)
      else none
    | _ => bare? cs

/-- The items of an array up to its end. -/
def items? (size : Nat) : Nat → Nat → List Char → Option (List Item × List Char)
  | 0, _, _ => none
  | fuel + 1, depth, cs =>
    match skipLines size cs with
    | none => none
    | some (']' :: rest) => some ([], rest)
    | some rest =>
      match value? size fuel depth rest with
      | none => none
      | some (i, rest) =>
        match skipLines size rest with
        | some (']' :: rest) => some ([i], rest)
        | some (',' :: rest) => (items? size fuel depth rest).map fun r => (i :: r.1, r.2)
        | _ => none

/-- The entries of a table that is written as a value, after those of `t`. -/
def entries? (size : Nat) : Nat → Nat → Table → List Char → Option (Table × List Char)
  | 0, _, _, _ => none
  | fuel + 1, depth, t, cs =>
    match skipLines size cs with
    | none => none
    | some ('\x7d' :: rest) => some (t, rest)
    | some rest =>
      match key? size size rest with
      | some ((path, key), '=' :: rest) =>
        match value? size fuel depth (rest.dropWhile isSpace) with
        | none => none
        | some (i, rest) =>
          match t.assignPath path key i, skipLines size rest with
          | some t, some ('\x7d' :: rest) => some (t, rest)
          | some t, some (',' :: rest) => entries? size fuel depth t rest
          | _, _ => none
      | _ => none

end

/-- The rest after the end of a statement: blanks, a comment and a line end. -/
def afterStatement? (cs : List Char) : Option (List Char) :=
  match afterComment? (cs.dropWhile isSpace) with
  | none => none
  | some [] => some []
  | some rest => newline? rest

/-- A statement. -/
def statement? (size : Nat) (cs : List Char) : Option (Statement × List Char) :=
  match cs with
  | '[' :: '[' :: rest =>
    match key? size size rest with
    | some ((path, key), ']' :: ']' :: rest) => some (.element path key, rest)
    | _ => none
  | '[' :: rest =>
    match key? size size rest with
    | some ((path, key), ']' :: rest) => some (.header path key, rest)
    | _ => none
  | _ =>
    match key? size size cs with
    | some ((path, key), '=' :: rest) =>
      (value? size size 0 (rest.dropWhile isSpace)).map fun r => (.assign path key r.1, r.2)
    | _ => none

/-- The statements of a file, which end with their lines. -/
def statements? (size : Nat) : Nat → List Char → Option (List Statement)
  | 0, _ => none
  | fuel + 1, cs =>
    match skipLines size cs with
    | none => none
    | some [] => some []
    | some rest =>
      match statement? size rest with
      | none => none
      | some (s, rest) =>
        match afterStatement? rest with
        | none => none
        | some rest => (statements? size fuel rest).map (s :: ·)

/-- The value of a file, in front of which a byte order mark may stand. Fuel for
    every character suffices, since each step takes one. -/
def read? (text : String) : Option Yaml.Value :=
  let cs := match text.toList with
    | '\uFEFF' :: rest => rest
    | cs => cs
  let size := cs.length + 2
  match statements? size size cs with
  | none => none
  | some ss => (Table.run [] ⟨.header, []⟩ ss).map fun t => t.item.value

end TemplateCatalog.Toml
