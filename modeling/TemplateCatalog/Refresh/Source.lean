import TemplateCatalog.Procedure

/-!
# Sources

Where the catalog comes from. A mirror of it is kept on disk; a source can tell
whether there is one, make one, and bring one up to date. A cycle makes one call of
its source: it brings the mirror up to date if there is one, and makes one otherwise.

The source of the service is a git repository, and a mirror is a directory with an
entry `.git`.
-/

namespace TemplateCatalog

/-- What a source is called for. -/
inductive SourceCall where
  /-- To make the mirror. -/
  | ensure
  /-- To bring the mirror up to date. -/
  | synchronize
  deriving DecidableEq, Repr

/-- The call that a cycle makes. -/
def SourceCall.ofPresence (present : Bool) : SourceCall := if present then synchronize else ensure

/-- A git repository as a source. -/
structure GitSource where
  /-- The branch to follow, if not the one that the mirror tracks. -/
  branch : Option String
  /-- The milliseconds that a call may take. -/
  timeout : Nat
  deriving DecidableEq, Repr

namespace GitSource

/-- Asks whether a directory is a clone. -/
def isPresent (mirror : Location) : Inquiry Bool := Inquiry.isPresent (mirror.child ".git")

/-- Clones a repository, unless there is a clone. -/
def ensure (s : GitSource) (remote : String) (mirror : Location) :
    Procedure (Except Failure Unit) := do
  if ← Procedure.ofInquiry (isPresent mirror) then
    Procedure.note .debug "git" ("Catalog mirror already present at " ++ mirror.display)
    return .ok ()
  else
    Procedure.note .info "git" ("Cloning the catalog from " ++ remote)
    return (← Procedure.git (.clone remote mirror s.timeout)).map fun _ => ()

/-- Brings a clone up to date. -/
def synchronize (s : GitSource) (mirror : Location) : Procedure (Except Failure Unit) := do
  Procedure.note .info "git" "Pulling the catalog to sync any new changes"
  return (← Procedure.git (.pull s.branch mirror s.timeout)).map fun _ => ()

/-- Makes a call. -/
def call (s : GitSource) (remote : String) (mirror : Location) :
    SourceCall → Procedure (Except Failure Unit)
  | .ensure => s.ensure remote mirror
  | .synchronize => s.synchronize mirror

end GitSource

/-- Whether git can be used. -/
def requireGit : Procedure (Except Failure Unit) := do
  if ← Interaction.question Effect.findGit then return .ok ()
  else return .error (.ofError .gitMissing)

end TemplateCatalog
