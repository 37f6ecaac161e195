import TemplateCatalog.Disk.Entry
import TemplateCatalog.Template.Part
import TemplateCatalog.Template.Summary

/-!
# The directory of a template

What the directory of a template says: its configuration, its icon, and one version
for each directory in it that is not hidden. A configuration that is missing or
malformed counts as one that says nothing, and is noted.
-/

namespace TemplateCatalog

/-- Something that was read, with the problems that were met. -/
structure Annotated (α : Type) where
  value : α
  diagnostics : List Diagnostic

/-- Reads the configuration in a directory. -/
def Config.inquire (dir : Location) : Inquiry (Annotated Config) := do
  let file := dir.child "config.yml"
  match Config.ofFile file (← Inquiry.content file) with
  | .ok config => return ⟨config, []⟩
  | .error f => return ⟨.empty, [⟨file, f.text⟩]⟩

namespace Summary

/-- The summary with what an entry of the directory says: a version, or the icon. -/
def addEntry (s : Summary) (e : Entry) : Summary :=
  if e.isDirectory then
    if e.isHidden then s
    else { s with versionLinks := s.versionLinks.insert e.name (s.id ++ "/" ++ e.name) }
  else if e.role = .icon then { s with iconPath := some (s.id ++ "/" ++ e.name) }
  else s

/-- The summary of a template with this configuration and these entries. -/
def ofEntries (id : String) (config : Config) (entries : List Entry) : Summary :=
  entries.foldl addEntry ((ofId id).withConfig config)

/-- Reads the directory of a template. -/
def inquire (root : Location) (id : String) : Inquiry (Except Failure (Annotated Summary)) := do
  let dir := root.child id
  match ← Entry.listOf dir with
  | .error e => return .error ⟨["Failed to list template directory " ++ dir.display], .disk e⟩
  | .ok entries =>
    let config ← Config.inquire dir
    return .ok ⟨ofEntries id config.value entries, config.diagnostics⟩

end Summary

end TemplateCatalog
