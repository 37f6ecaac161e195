import TemplateCatalog.Failure
import TemplateCatalog.Text.Blank

/-!
# Explaining failures

What a person at the command line is told: the error, what git said about it, and
what to do. An error with advice of its own is shown as it is, in whatever
contexts it came; any other failure is shown with all its texts, the outermost in
front and the rest numbered as its causes.
-/

namespace TemplateCatalog

/-- A failure as it is shown to a person. -/
structure Explanation where
  error : CatalogError
  suggestion : Option String
  details : Option String
  deriving Repr

namespace Explanation

/-- Whether `part` occurs in a list of characters. -/
def occursIn (part : List Char) : List Char → Bool
  | [] => part.isEmpty
  | c :: rest => part.isPrefixOf (c :: rest) || occursIn part rest

/-- Whether `part` occurs in a text. -/
def mentions (text part : String) : Bool := occursIn part.toList text.toList

/-- The advice for an error of the configuration: the flag of the setting that the
    message mentions. -/
def configurationAdvice (message : String) : String :=
  if mentions message "catalog_url" then
    "Pass the catalog repository with --catalog-url or set catalog_url in the --config file"
  else if mentions message "refresh_interval" then
    "Pass --refresh-interval (or set refresh_interval) to a number of seconds, at least 1"
  else if mentions message "git_timeout" then
    "Pass --git-timeout (or set git_timeout) to a number of seconds, at least 1"
  else if mentions message "log file" then
    "Check that the directory of --log-file exists and is writable"
  else "Check the file passed with --config and the command-line flags"

/-- The numbered lines of causes. -/
def numbered : Nat → List String → List String
  | _, [] => []
  | n, t :: rest => ("\n  " ++ toString n ++ ": " ++ t) :: numbered (n + 1) rest

/-- All texts of a failure: the outermost, and the others as its causes. -/
def withCauses (chain : List String) : String :=
  match chain with
  | [] => ""
  | [text] => text
  | text :: causes => text ++ "\n\nCaused by:" ++ String.join (numbered 1 causes)

end Explanation

/-- What a person is told about a failure. -/
def Failure.explain (f : Failure) : Explanation :=
  let plain : Explanation := ⟨.other (Explanation.withCauses f.chain), none, none⟩
  match f.cause with
  | .settings text =>
    ⟨.configuration text, some "Check the TOML syntax of the file passed with --config", none⟩
  | .catalog e =>
    match e with
    | .configuration message => ⟨e, some (Explanation.configurationAdvice message), none⟩
    | .gitMissing =>
      ⟨e, some "Install git from https://git-scm.com/ and make sure it is on your PATH",
        some "The catalog mirror is cloned and pulled with the system git command"⟩
    | .cloneFailed _ reason =>
      ⟨e, some "Check that the catalog URL is correct and reachable from this host",
        some (Text.trim reason)⟩
    | .gitFailed _ stderr => ⟨e, none, some (Text.trim stderr)⟩
    | .templateNotFound _ => ⟨e, some "Run the 'list' command to see the available templates", none⟩
    | .versionNotFound template _ =>
      ⟨e, some ("Run the 'list' command and check the version links of '" ++ template ++ "'"), none⟩
    | .invalidIdentifier _ =>
      ⟨e, none, some "Identifiers are single directory names without path separators"⟩
    | .questionConflict .. => plain
    | .markup _ => plain
    | .other _ => plain
  | .disk _ => plain
  | .message _ => plain

namespace Explanation

/-- An explanation as text, its parts on lines of their own. -/
def text (x : Explanation) : String :=
  x.error.text
    ++ (match x.details with
      | some d => "\nDetails: " ++ d
      | none => "")
    ++ (match x.suggestion with
      | some s => "\nSuggestion: " ++ s
      | none => "")

end Explanation

end TemplateCatalog
