import TemplateCatalog.Disk.Inquiry
import TemplateCatalog.Git.Command

/-!
# Procedures

What the service does to its surroundings besides reading from a disk: it runs git
commands, looks at the clock and notes what it does. A procedure shows each of these
one by one, so it can be told what was not done.
-/

namespace TemplateCatalog

/-- Something done to the surroundings. -/
inductive Effect where
  /-- Asks the disk. -/
  | ask (q : DiskQuestion)
  /-- Looks for git among the programs. -/
  | findGit
  /-- Runs a git command. -/
  | git (c : Git.Command)
  /-- Looks at the clock, which counts the microseconds since the beginning of 1970. -/
  | clock
  | note (n : Log.Note)

/-- What comes of something done. -/
@[reducible] def Effect.Result : Effect → Type
  | ask q => q.Answer
  | findGit => Bool
  | git _ => Git.Outcome
  | clock => Nat
  | note _ => Unit

/-- A computation that acts on its surroundings. -/
abbrev Procedure := Interaction Effect Effect.Result

namespace Procedure

/-- Notes something. -/
def note (level : Log.Level) (subject text : String) : Procedure Unit :=
  Interaction.question (Effect.note ⟨level, subject, text⟩)

/-- Notes several things. -/
def noteAll : List Log.Note → Procedure Unit
  | [] => return
  | n :: rest => do
    Interaction.question (Effect.note n)
    noteAll rest

/-- Reads from the disk. -/
def ofInquiry {α : Type} (i : Inquiry α) : Procedure α :=
  i.runWith fun q => Interaction.question (Effect.ask q)

/-- Runs a git command. -/
def git (c : Git.Command) : Procedure (Except Failure Git.Output) := do
  noteAll c.notesBefore
  let outcome ← Interaction.question (Effect.git c)
  noteAll (c.notesAfter outcome)
  return c.interpret outcome

end Procedure

end TemplateCatalog
