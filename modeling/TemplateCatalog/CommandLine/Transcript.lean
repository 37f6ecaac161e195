import TemplateCatalog.CommandLine.Console
import TemplateCatalog.Machine

/-!
# Consoles in memory

A console on a machine in memory, which keeps what is printed.
-/

namespace TemplateCatalog.CommandLine

/-- A console in memory. -/
structure Transcript where
  machine : Machine
  stdout : String
  stderr : String

namespace Transcript

/-- Adds a text to a file, which is made if it is missing. -/
def appendTo (v : Volume) (l : Location) (text : String) : Except DiskError Volume :=
  match v.disk.content l with
  | .ok content => v.write l (content ++ Text.encode text)
  | .error .notFound => v.write l (Text.encode text)
  | .error e => .error e

/-- What comes of an effect. -/
def perform : (e : ConsoleEffect) → StateM Transcript e.Result
  | .work e => do
    let t ← get
    let (result, machine) := (Machine.perform e).run t.machine
    set { t with machine }
    return result
  | .openLog l => do
    let t ← get
    match appendTo t.machine.volume l "" with
    | .ok volume =>
      set { t with machine := { t.machine with volume } }
      return .ok ()
    | .error e => return .error e
  | .append l text => modify fun t =>
    match appendTo t.machine.volume l text with
    | .ok volume => { t with machine := { t.machine with volume } }
    | .error _ => t
  | .print text => modify fun t => { t with stdout := t.stdout ++ text }
  | .printError text => modify fun t => { t with stderr := t.stderr ++ text }

/-- Carries out a computation at a console. -/
def carryOut {α : Type} (t : Transcript) (c : Console α) : α × Transcript :=
  (c.runWith perform).run t

end Transcript

end TemplateCatalog.CommandLine
