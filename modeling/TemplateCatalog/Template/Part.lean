import TemplateCatalog.Disk.Entry
import TemplateCatalog.Diagnostic
import TemplateCatalog.Template.Config
import TemplateCatalog.Template.Question

/-!
# Parts of a version

The directory of a version holds its configuration, its icon, a deployment manifest
and an orchestration manifest, which are told by how their names begin. A part that
cannot be read or understood is a problem, but not for the other parts.
-/

namespace TemplateCatalog

/-- What a file in a template is for. -/
inductive Role where
  | configuration
  | icon
  | deployment
  | orchestration
  | none
  deriving DecidableEq, Repr

/-- The role of an entry, by how its name begins. -/
def Entry.role (e : Entry) : Role :=
  if e.begins "config.yml" then .configuration
  else if e.begins "catalogIcon" then .icon
  else if e.begins "docker-compose" then .deployment
  else if e.begins "rancher-compose" then .orchestration
  else .none

/-- What a file of a version comes to. -/
inductive Part where
  | configuration (r : Except Failure Config)
  | icon
  | deployment (r : Except DiskError String)
  /-- The text of a manifest, with the questions in it. -/
  | orchestration (r : Except DiskError (String × Except Failure (List Question)))
  | none

/-- Why a part is left out. -/
inductive Defect where
  | configuration (f : Failure)
  | manifest (e : DiskError)
  | questions (f : Failure)

namespace Defect

/-- The text of a defect. -/
def text : Defect → String
  | configuration f => f.text
  | manifest e => e.text
  | questions f => f.text

/-- What is noted in the log about a defect of a file. -/
def note (file : Location) : Defect → String
  | configuration f => "Ignoring " ++ file.display ++ ": " ++ f.text
  | manifest e => "Error reading file " ++ file.display ++ ": " ++ e.text
  | questions f => "Error reading questions from " ++ file.display ++ ": " ++ f.text

end Defect

namespace Part

/-- Why a part is left out, if it is. -/
def defect? : Part → Option Defect
  | configuration (.error f) => some (.configuration f)
  | deployment (.error e) => some (.manifest e)
  | orchestration (.error e) => some (.manifest e)
  | orchestration (.ok (_, .error f)) => some (.questions f)
  | _ => Option.none

/-- Reads an entry of the directory of a version. -/
def inquire (e : Entry) : Inquiry Part :=
  match e.role with
  | .configuration => do
    return configuration (Config.ofFile e.location (← Inquiry.content e.location))
  | .icon => return icon
  | .deployment => return deployment (← Inquiry.text e.location)
  | .orchestration => do
    match ← Inquiry.text e.location with
    | .ok text => return orchestration (.ok (text, Question.listOfText e.name text))
    | .error error => return orchestration (.error error)
  | .none => return none

end Part

end TemplateCatalog
