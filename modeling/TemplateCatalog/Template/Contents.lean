import TemplateCatalog.Template.Part

/-!
# Contents of a version

All that the directory of a version says by itself, before the template it belongs
to is asked. Its files are taken in the order of their names, and of two of one role
the later counts, unless it has a defect. Questions are those of the orchestration
manifest that is kept, so one that holds none takes them away.
-/

namespace TemplateCatalog

/-- What the directory of a version says by itself. -/
structure Contents where
  config : Option Config
  /-- The icon, by its path from the root of the templates. -/
  iconPath : Option String
  dockerManifest : Option String
  orchestrationManifest : Option String
  questions : List Question
  /-- The files that have a defect. -/
  defects : List (Location × Defect)

namespace Contents

/-- Nothing said. -/
def empty : Contents := ⟨none, none, none, none, [], []⟩

/-- The contents with what an entry comes to. -/
def add (path : String) (c : Contents) (e : Entry × Part) : Contents :=
  let c := { c with defects := c.defects ++ (e.2.defect?.map (e.1.location, ·)).toList }
  match e.2 with
  | .configuration (.ok config) => { c with config := some config }
  | .icon => { c with iconPath := some (path ++ "/" ++ e.1.name) }
  | .deployment (.ok text) => { c with dockerManifest := some text }
  | .orchestration (.ok (text, .ok questions)) =>
    { c with orchestrationManifest := some text, questions }
  | .orchestration (.ok (text, .error _)) =>
    { c with orchestrationManifest := some text, questions := [] }
  | _ => c

/-- The contents of a directory with these parts, where `path` leads to it from the
    root of the templates. -/
def ofParts (path : String) (parts : List (Entry × Part)) : Contents :=
  parts.foldl (add path) empty

/-- What is wrong with the files. -/
def diagnostics (c : Contents) : List Diagnostic := c.defects.map fun d => ⟨d.1, d.2.text⟩

/-- The path of a version from the root of the templates. -/
def pathOf (template version : String) : String := template ++ "/" ++ version

/-- Reads the directory of a version. -/
def inquire (root : Location) (template version : String) : Inquiry (Except Failure Contents) := do
  let dir := (root.child template).child version
  match ← Entry.listOf dir with
  | .error e => return .error ⟨["Failed to list version directory " ++ dir.display], .disk e⟩
  | .ok entries =>
    let files := entries.filter fun e => !e.isDirectory
    let parts ← Interaction.each (fun e => do return (e, ← Part.inquire e)) files
    return .ok (ofParts (pathOf template version) parts)

end Contents

end TemplateCatalog
