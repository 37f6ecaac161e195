import TemplateCatalog.Procedure

/-!
# Consoles

What a program does besides the work of the service: it prints, and writes notes to a
log. Notes that pass the filter go to a file if there is one, which is only ever
added to, and otherwise to the stream for errors.
-/

namespace TemplateCatalog.CommandLine

/-- Something done at a console. -/
inductive ConsoleEffect where
  /-- Part of the work of the service. -/
  | work (e : Effect)
  /-- Makes sure that a file can be added to. -/
  | openLog (l : Location)
  | append (l : Location) (text : String)
  | print (text : String)
  | printError (text : String)

/-- What comes of something done. -/
@[reducible] def ConsoleEffect.Result : ConsoleEffect → Type
  | work e => e.Result
  | openLog _ => Except DiskError Unit
  | append .. => Unit
  | print _ => Unit
  | printError _ => Unit

/-- A computation at a console. -/
abbrev Console := Interaction ConsoleEffect ConsoleEffect.Result

/-- Where notes go. -/
structure Logging where
  filter : Log.Filter
  /-- Whether the subject of a note is written. -/
  withSubject : Bool
  file : Option Location

namespace Console

/-- Prints a text. -/
def print (text : String) : Console Unit := Interaction.question (ConsoleEffect.print text)

/-- Prints a text to the stream for errors. -/
def printError (text : String) : Console Unit :=
  Interaction.question (ConsoleEffect.printError text)

/-- Writes a note. -/
def write (g : Logging) (n : Log.Note) : Console Unit := do
  if g.filter.passes n then
    let line := n.line (← Interaction.question (ConsoleEffect.work .clock)) g.withSubject
    match g.file with
    | some l => Interaction.question (ConsoleEffect.append l line)
    | none => printError line

/-- Does the work of the service, with its notes written. -/
def ofProcedure {α : Type} (g : Logging) (p : Procedure α) : Console α :=
  p.runWith fun
    | .note n => write g n
    | .ask q => Interaction.question (ConsoleEffect.work (.ask q))
    | .findGit => Interaction.question (ConsoleEffect.work .findGit)
    | .git c => Interaction.question (ConsoleEffect.work (.git c))
    | .clock => Interaction.question (ConsoleEffect.work .clock)

end Console

end TemplateCatalog.CommandLine
