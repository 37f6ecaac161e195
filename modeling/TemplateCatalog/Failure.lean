import TemplateCatalog.Disk.Error
import TemplateCatalog.Yaml.Fault

/-!
# Failures

What went wrong when the catalog could not answer. A failure has a cause and a
list of contexts around it, each of which says what was being done. Callers tell
causes apart; the contexts are for people.
-/

namespace TemplateCatalog

/-- An error of the catalog itself. -/
inductive CatalogError where
  | configuration (message : String)
  | gitMissing
  | gitFailed (operation stderr : String)
  | cloneFailed (url reason : String)
  | templateNotFound (template : String)
  | versionNotFound (template version : String)
  | invalidIdentifier (value : String)
  /-- More than one section of a file declares questions. -/
  | questionConflict (file : String) (sections : List String)
  | markup (fault : Yaml.Fault)
  | other (message : String)
  deriving Repr

namespace CatalogError

/-- The text of an error. -/
def text : CatalogError → String
  | .configuration message => "Configuration error: " ++ message
  | .gitMissing => "Git is not installed or not found in PATH"
  | .gitFailed operation _ => "Git operation failed: " ++ operation
  | .cloneFailed url _ => "Failed to clone catalog repository: " ++ url
  | .templateNotFound template => "Template '" ++ template ++ "' not found"
  | .versionNotFound template version =>
    "Version '" ++ version ++ "' not found for template '" ++ template ++ "'"
  | .invalidIdentifier value => "Invalid catalog identifier: '" ++ value ++ "'"
  | .questionConflict file sections =>
    "Multiple sections declare questions in " ++ file ++ ": " ++ ", ".intercalate sections
  | .markup fault => "YAML parsing error: " ++ fault.text
  | .other message => message

/-- Whether an error says that something is not in the catalog. -/
def isNotFound : CatalogError → Bool
  | .templateNotFound _ => true
  | .versionNotFound .. => true
  | _ => false

end CatalogError

/-- The innermost part of a failure. -/
inductive Cause where
  | catalog (e : CatalogError)
  | disk (e : DiskError)
  /-- A configuration file that cannot be read, with the text of what is wrong. -/
  | settings (text : String)
  | message (text : String)
  deriving Repr

/-- The texts of a cause. Faulty markup is named twice: as an error of the catalog
    and by itself. -/
def Cause.layers : Cause → List String
  | .catalog (.markup fault) => [(CatalogError.markup fault).text, fault.text]
  | .catalog e => [e.text]
  | .disk e => [e.text]
  | .settings text => [text]
  | .message text => [text]

/-- A cause with the contexts around it, the outermost first. -/
structure Failure where
  contexts : List String
  cause : Cause
  deriving Repr

namespace Failure

/-- A failure without a context. -/
def ofCause (c : Cause) : Failure := ⟨[], c⟩

/-- An error of the catalog, without a context. -/
def ofError (e : CatalogError) : Failure := ⟨[], .catalog e⟩

/-- A failure in one more context. -/
def within (f : Failure) (context : String) : Failure := { f with contexts := context :: f.contexts }

/-- All texts of a failure, the outermost first. -/
def chain (f : Failure) : List String := f.contexts ++ f.cause.layers

/-- All texts of a failure on one line. -/
def text (f : Failure) : String := ": ".intercalate f.chain

/-- The error of the catalog that a failure holds. -/
def error? (f : Failure) : Option CatalogError :=
  match f.cause with
  | .catalog e => some e
  | _ => none

end Failure

end TemplateCatalog
