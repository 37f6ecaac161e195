import TemplateCatalog.Text.Utf8

/-!
# Locations on disk

A location is a sequence of bytes, since names on disk need not be texts. It is
shown as text with a replacement character for what is none.
-/

namespace TemplateCatalog

/-- The bytes of a name or of a location. -/
abbrev Bytes := List UInt8

/-- The place of a file or directory. -/
structure Location where
  bytes : Bytes
  deriving DecidableEq, Repr, Inhabited

namespace Location

/-- The byte that separates names. -/
def separator : UInt8 := 0x2F

/-- The location that a text names. -/
def ofString (s : String) : Location := ⟨Text.encode s⟩

/-- The text that shows a location. -/
def display (l : Location) : String := Text.decodeLossy l.bytes

/-- The text of a location, if it is one. -/
def text? (l : Location) : Option String := Text.decode? l.bytes

/-- Whether a location does not depend on where one is. -/
def isAbsolute (l : Location) : Bool := l.bytes.head? = some separator

/-- The location `b` as seen from the directory `a`. An absolute one is itself; any
    other follows a separator, unless `a` is empty or ends with one. -/
def join (a : Location) (b : Bytes) : Location :=
  if b.head? = some separator then ⟨b⟩
  else if a.bytes.isEmpty || a.bytes.getLast? = some separator then ⟨a.bytes ++ b⟩
  else ⟨a.bytes ++ separator :: b⟩

/-- The location of a name given as text, in the directory `a`. -/
def child (a : Location) (name : String) : Location := a.join (Text.encode name)

end Location

end TemplateCatalog
