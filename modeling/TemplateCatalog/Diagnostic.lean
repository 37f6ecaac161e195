import TemplateCatalog.Disk.Location
import TemplateCatalog.Json.Value

/-!
# Diagnostics

A problem that was met while reading the catalog and did not stop it: the file or
directory it is about, and what is wrong.
-/

namespace TemplateCatalog

/-- A problem with a file or directory. -/
structure Diagnostic where
  location : Location
  message : String
  deriving DecidableEq, Repr, Inhabited

namespace Diagnostic

/-- A diagnostic on one line. -/
def text (d : Diagnostic) : String := d.location.display ++ ": " ++ d.message

/-- The JSON form of a diagnostic, which exists only if its location is text. -/
def toJson? (d : Diagnostic) : Option Json :=
  d.location.text?.map fun path => .object [("path", .string path), ("message", .string d.message)]

end Diagnostic

end TemplateCatalog
