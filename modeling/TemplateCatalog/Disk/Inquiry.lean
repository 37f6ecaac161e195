import TemplateCatalog.Disk.Error
import TemplateCatalog.Interaction

/-!
# Reading from a disk

What can be asked of a disk, and the computations that only ask. Since an inquiry
can do nothing else, it changes nothing; and since its questions are seen one by
one, it can be followed on a disk that others change meanwhile.
-/

namespace TemplateCatalog

/-- A question to a disk. Links are followed. -/
inductive DiskQuestion where
  /-- Whether there is a directory. -/
  | isDirectory (l : Location)
  /-- Whether there is anything. -/
  | isPresent (l : Location)
  /-- The names in a directory, in no particular order. -/
  | names (l : Location)
  /-- The content of a file. -/
  | content (l : Location)
  deriving DecidableEq, Repr

/-- What an answer to a question is. -/
@[reducible] def DiskQuestion.Answer : DiskQuestion → Type
  | isDirectory _ => Bool
  | isPresent _ => Bool
  | names _ => Except DiskError (List Bytes)
  | content _ => Except DiskError Bytes

/-- A disk that nobody changes: its answer to every question. -/
abbrev Disk := ∀ q : DiskQuestion, q.Answer

namespace Disk

/-- Whether there is a directory. -/
abbrev isDirectory (d : Disk) (l : Location) : Bool := d (.isDirectory l)

/-- Whether there is anything. -/
abbrev isPresent (d : Disk) (l : Location) : Bool := d (.isPresent l)

/-- The names in a directory. -/
abbrev names (d : Disk) (l : Location) : Except DiskError (List Bytes) := d (.names l)

/-- The content of a file. -/
abbrev content (d : Disk) (l : Location) : Except DiskError Bytes := d (.content l)

end Disk

/-- A computation that reads from a disk. -/
abbrev Inquiry := Interaction DiskQuestion DiskQuestion.Answer

namespace Inquiry

/-- Asks whether there is a directory. -/
def isDirectory (l : Location) : Inquiry Bool := Interaction.question (DiskQuestion.isDirectory l)

/-- Asks whether there is anything. -/
def isPresent (l : Location) : Inquiry Bool := Interaction.question (DiskQuestion.isPresent l)

/-- Asks for the names in a directory. -/
def names (l : Location) : Inquiry (Except DiskError (List Bytes)) :=
  Interaction.question (DiskQuestion.names l)

/-- Asks for the content of a file. -/
def content (l : Location) : Inquiry (Except DiskError Bytes) :=
  Interaction.question (DiskQuestion.content l)

/-- Asks for the text of a file. -/
def text (l : Location) : Inquiry (Except DiskError String) := do
  return fileText (← content l)

end Inquiry

end TemplateCatalog
