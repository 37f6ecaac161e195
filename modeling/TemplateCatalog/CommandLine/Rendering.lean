import TemplateCatalog.Catalog.Version
import TemplateCatalog.Failure.Explanation

/-!
# Answers for people

The text forms of what the service prints: the templates, a version, an explanation of
a failure. Parts of them are painted if the reader can see colors. A paint starts with
its code and ends with a reset; a reset inside of what is painted is followed by the
code again, so that the paint lasts to its end.
-/

namespace TemplateCatalog.CommandLine

/-- A paint, by the numbers of its code. -/
inductive Paint where
  | bold
  | dimmed
  | red
  | green
  | yellow
  | cyan
  | boldRed
  deriving DecidableEq, Repr

namespace Paint

/-- The numbers of a code. -/
def numbers : Paint → String
  | bold => "1"
  | dimmed => "2"
  | red => "31"
  | green => "32"
  | yellow => "33"
  | cyan => "36"
  | boldRed => "1;31"

/-- The code that starts a paint. -/
def code (p : Paint) : String := "\x1b[" ++ p.numbers ++ "m"

/-- The code that ends every paint. -/
def reset : String := "\x1b[0m"

/-- A text with `added` after every occurrence of `part`, of which the next `left`
    characters are the rest of one. -/
def insertAfter (part added : List Char) : Nat → List Char → List Char
  | _, [] => []
  | left, c :: rest =>
    match if left = 0 && part.isPrefixOf (c :: rest) then part.length else left with
    | 0 => c :: insertAfter part added 0 rest
    | 1 => c :: added ++ insertAfter part added 0 rest
    | n + 2 => c :: insertAfter part added (n + 1) rest

/-- A text in a paint. -/
def apply (p : Paint) (s : String) : String :=
  p.code ++ String.ofList (insertAfter reset.toList p.code.toList 0 s.toList) ++ reset

end Paint

/-- A text in a paint, if colors are seen. -/
def paint (colors : Bool) (p : Paint) (s : String) : String := if colors then p.apply s else s

/-- A text, or a dash if it is empty. -/
def orDash (s : String) : String := if s.isEmpty then "-" else s

/-- A summary as text: what it is, its description if there is one, its versions. -/
def summaryText (colors : Bool) (s : Summary) : String :=
  paint colors .bold s.id ++ " " ++ s.name ++ " [" ++ paint colors .cyan s.category ++ "]\n"
    ++ (if s.description.isEmpty then ""
      else "    " ++ paint colors .dimmed s.description ++ "\n")
    ++ "    versions: " ++ ", ".intercalate s.versionLinks.keys
    ++ " (default " ++ orDash s.defaultVersion ++ ")\n"

/-- Summaries as text. -/
def summariesText (colors : Bool) (l : List Summary) : String :=
  if l.isEmpty then paint colors .yellow "No templates found." ++ "\n"
  else String.join (l.map (summaryText colors))

/-- A question as a line of text. -/
def questionText (colors : Bool) (q : Question) : String :=
  "    " ++ paint colors .green q.setting ++ " [" ++ q.kind ++ "]"
    ++ (if q.required then paint colors .red " (required)" else "") ++ "\n"

/-- The detail of a version as text. -/
def versionText (colors : Bool) (v : Version) : String :=
  paint colors .bold v.id ++ " " ++ v.name ++ "\n"
    ++ "  category:    " ++ v.category ++ "\n"
    ++ "  description: " ++ v.description ++ "\n"
    ++ (match v.iconPath with
      | some icon => "  icon:        " ++ icon ++ "\n"
      | none => "")
    ++ (if v.questions.isEmpty then "  questions:   none\n"
      else "  questions:\n" ++ String.join (v.questions.map (questionText colors)))
    ++ String.join (v.diagnostics.map fun d =>
      "  " ++ paint colors .yellow "warning:" ++ " " ++ d.text ++ "\n")

/-- An explanation as lines of text. -/
def explanationText (colors : Bool) (x : Explanation) : String :=
  paint colors .boldRed "error" ++ ": " ++ x.error.text ++ "\n"
    ++ (match x.details with
      | some d => paint colors .yellow "details" ++ ": " ++ d ++ "\n"
      | none => "")
    ++ (match x.suggestion with
      | some s => paint colors .green "suggestion" ++ ": " ++ s ++ "\n"
      | none => "")

end TemplateCatalog.CommandLine
