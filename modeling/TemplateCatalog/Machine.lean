import TemplateCatalog.Git.Program
import TemplateCatalog.Procedure

/-!
# Machines in memory

Surroundings for procedures, held in memory: a disk, a git program or none, a clock
that stands still, and the notes that were made.
-/

namespace TemplateCatalog

/-- Surroundings held in memory. -/
structure Machine where
  volume : Volume
  /-- Whether there is a git program. -/
  hasGit : Bool
  now : Nat
  /-- What was noted, the latest first. -/
  notes : List Log.Note

namespace Machine

/-- What comes of an effect. -/
def perform : (e : Effect) → StateM Machine e.Result
  | .ask q => do
    let m ← get
    set { m with volume := m.volume.afterAnswer q }
    return m.volume.disk q
  | .findGit => do return (← get).hasGit
  | .git c => do
    let m ← get
    if m.hasGit then
      let ending := Git.run m.volume c
      set { m with volume := ending.volume }
      return ending.outcome
    else return .notStarted .notFound
  | .clock => do return (← get).now
  | .note n => modify fun m => { m with notes := n :: m.notes }

/-- Carries out a procedure. -/
def carryOut {α : Type} (m : Machine) (p : Procedure α) : α × Machine :=
  (p.runWith perform).run m

end Machine

end TemplateCatalog
