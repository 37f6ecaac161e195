import TemplateCatalog.Disk.Inquiry

/-!
# Entries of a directory

A directory is listed in the order of the names as they are shown, so that what is
made of it does not depend on how the disk keeps it. A name that is no text is shown
with a replacement character but read by its own bytes.
-/

namespace TemplateCatalog

/-- An entry of a directory. -/
structure Entry where
  /-- The name as it is shown. -/
  name : String
  location : Location
  isDirectory : Bool
  deriving DecidableEq, Repr, Inhabited

namespace Entry

/-- Whether the name of an entry begins with a text. -/
def begins (e : Entry) (stem : String) : Bool := stem.toList.isPrefixOf e.name.toList

/-- Whether an entry is not for show: its name begins with a dot. -/
def isHidden (e : Entry) : Bool := e.begins "."

/-- The entry of a name in a directory. -/
def inquire (dir : Location) (name : Bytes) : Inquiry Entry := do
  let location := dir.join name
  return ⟨Text.decodeLossy name, location, ← Inquiry.isDirectory location⟩

/-- Entries in ascending order of their names. -/
def sorted (entries : List Entry) : List Entry := entries.mergeSort fun a b => decide (a.name ≤ b.name)

/-- The entries of a directory. -/
def listOf (dir : Location) : Inquiry (Except DiskError (List Entry)) := do
  match ← Inquiry.names dir with
  | .error e => return .error e
  | .ok names => return .ok (sorted (← Interaction.each (inquire dir) names))

end Entry

end TemplateCatalog
