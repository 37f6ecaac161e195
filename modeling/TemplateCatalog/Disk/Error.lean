import TemplateCatalog.Disk.Location

/-!
# Errors of the disk

Why a file or directory could not be read or changed.
-/

namespace TemplateCatalog

/-- Why an access to the disk failed. -/
inductive DiskError where
  | notFound
  | alreadyExists
  | notDirectory
  | isDirectory
  | nameTooLong
  | directoryNotEmpty
  | tooManyLinks
  /-- A name with a byte that no name may hold. -/
  | invalidName
  /-- A file whose content is not text. -/
  | notText
  deriving DecidableEq, Repr

namespace DiskError

/-- The text of an error. -/
def text : DiskError → String
  | .notFound => "No such file or directory (os error 2)"
  | .alreadyExists => "File exists (os error 17)"
  | .notDirectory => "Not a directory (os error 20)"
  | .isDirectory => "Is a directory (os error 21)"
  | .nameTooLong => "File name too long (os error 36)"
  | .directoryNotEmpty => "Directory not empty (os error 39)"
  | .tooManyLinks => "Too many levels of symbolic links (os error 40)"
  | .invalidName => "file name contained an unexpected NUL byte"
  | .notText => "stream did not contain valid UTF-8"

end DiskError

/-- The text of a file, given its content. -/
def fileText : Except DiskError Bytes → Except DiskError String
  | .error e => .error e
  | .ok bytes =>
    match Text.decode? bytes with
    | some s => .ok s
    | none => .error .notText

end TemplateCatalog
