import TemplateCatalog.Text.Blank

/-!
# The log

What the service notes while it works. A note has a level and a subject; a filter,
made of rules, lets some notes through. A rule is about the subjects that begin with
its own, or about all; of the rules about a subject the one that says most about it
counts.
-/

namespace TemplateCatalog.Log

/-- How much a note matters. -/
inductive Level where
  | error
  | warn
  | info
  | debug
  | trace
  deriving DecidableEq, Repr

namespace Level

/-- The name of a level. -/
def name : Level → String
  | error => "ERROR"
  | warn => "WARN"
  | info => "INFO"
  | debug => "DEBUG"
  | trace => "TRACE"

/-- The number of a level, the greater the less a note matters. -/
def rank : Level → Nat
  | error => 1
  | warn => 2
  | info => 3
  | debug => 4
  | trace => 5

/-- The name of a level, as wide as the longest one. -/
def padded (l : Level) : String :=
  String.ofList (List.replicate (5 - l.name.length) ' ') ++ l.name

end Level

/-- Something that is noted. -/
structure Note where
  level : Level
  /-- What the note is about. -/
  subject : String
  text : String
  deriving DecidableEq, Repr

/-! ## Lines -/

/-- The year, month and day of the day so many days after the first of January 1970.
    Years are counted from March, in eras of four centuries. -/
def civil (days : Nat) : Nat × Nat × Nat :=
  let era := (days + 719468) / 146097
  let day := (days + 719468) % 146097
  let year := (day - day / 1460 + day / 36524 - day / 146096) / 365
  let dayOfYear := day - (365 * year + year / 4 - year / 100)
  let march := (5 * dayOfYear + 2) / 153
  let month := if march < 10 then march + 3 else march - 9
  (year + era * 400 + (if month ≤ 2 then 1 else 0), month, dayOfYear - (153 * march + 2) / 5 + 1)

/-- A number with zeros in front of it, up to a width. -/
def zeroPadded (width n : Nat) : String :=
  let digits := toString n
  String.ofList (List.replicate (width - digits.length) '0') ++ digits

/-- The date and time so many microseconds after the beginning of 1970. -/
def timestamp (micros : Nat) : String :=
  let seconds := micros / 1000000
  let (year, month, day) := civil (seconds / 86400)
  zeroPadded 4 year ++ "-" ++ zeroPadded 2 month ++ "-" ++ zeroPadded 2 day ++ "T"
    ++ zeroPadded 2 (seconds / 3600 % 24) ++ ":" ++ zeroPadded 2 (seconds / 60 % 60) ++ ":"
    ++ zeroPadded 2 (seconds % 60) ++ "." ++ zeroPadded 6 (micros % 1000000) ++ "Z"

/-- The line of a note that is made at some time, with its subject if asked for. -/
def Note.line (n : Note) (micros : Nat) (withSubject : Bool) : String :=
  timestamp micros ++ " " ++ n.level.padded ++ " "
    ++ (if withSubject then n.subject ++ ": " else "") ++ n.text ++ "\n"

/-! ## Filters -/

/-- A rule: notes about subjects that begin with this one pass up to a rank. -/
structure Rule where
  subject : String
  rank : Nat
  deriving DecidableEq, Repr

/-- The rules that say which notes pass. -/
abbrev Filter := List Rule

/-- The rank that a word names, in letters of any case or as a digit. -/
def rank? (word : String) : Option Nat :=
  match String.ofList (word.toList.map Char.toLower) with
  | "off" | "0" => some 0
  | "error" | "1" => some 1
  | "warn" | "2" => some 2
  | "info" | "3" => some 3
  | "debug" | "4" => some 4
  | "trace" | "5" => some 5
  | _ => none

/-- The rule that a text states: a level, a subject, or both with an equals sign
    between them. A subject alone passes at every level. -/
def Rule.ofText? (s : String) : Option Rule :=
  let cs := s.toList
  let subject := String.ofList (cs.takeWhile (· ≠ '='))
  match cs.dropWhile (· ≠ '=') with
  | [] =>
    if s = "" then none
    else
      match rank? s with
      | some rank => some ⟨"", rank⟩
      | none => some ⟨s, Level.trace.rank⟩
  | _ :: level => (rank? (String.ofList level)).map (⟨subject, ·⟩)

/-- The filter that a text states, its rules between commas. Without any rule only
    errors pass. -/
def Filter.ofText (s : String) : Filter :=
  match (s.splitOn ",").filterMap fun r => Rule.ofText? (Text.trim r) with
  | [] => [⟨"", Level.error.rank⟩]
  | rules => rules

/-- Of two rules the one with the longer subject, or the second. -/
def moreTelling (a : Option Rule) (b : Rule) : Option Rule :=
  match a with
  | some a => if b.subject.length < a.subject.length then some a else some b
  | none => some b

/-- Whether a note passes. -/
def Filter.passes (f : Filter) (n : Note) : Bool :=
  let about := f.filter fun r => r.subject.toList.isPrefixOf n.subject.toList
  (about.foldl moreTelling none).any fun r => n.level.rank ≤ r.rank

end TemplateCatalog.Log
