import TemplateCatalog.Catalog.Snapshot
import TemplateCatalog.Template.Contents

/-!
# Versions

The detail of one version of a template. It is read from disk when it is asked for;
what its directory does not say is taken from the template in the snapshot: the
configuration as a whole, and the icon. If the template would be asked and is not
there, the detail says so.

Template and version are named by identifiers, each the name of one directory, so
that nothing outside of the root can be named.
-/

namespace TemplateCatalog

open Decoding

/-- Whether a text is the name of one directory: not empty, no step that stays or
    leads out, no separator of any system. -/
def isIdentifier (s : String) : Bool :=
  !(s.isEmpty || s = "." || s = ".." || s.toList.any fun c => c = '/' || c = '\\' || c = '\x00')

/-- The detail of one version of a template. -/
structure Version where
  id : String
  path : String
  templateId : String
  version : String
  name : String
  category : String
  description : String
  defaultVersion : String
  iconPath : Option String
  dockerManifest : Option String
  orchestrationManifest : Option String
  questions : List Question
  diagnostics : List Diagnostic
  deriving DecidableEq

namespace Version

/-- Reads the directory of a version. -/
def inquire (root : Location) (template version : String) : Inquiry (Except Failure Contents) := do
  if !isIdentifier template then return .error (.ofError (.invalidIdentifier template))
  if !isIdentifier version then return .error (.ofError (.invalidIdentifier version))
  let dir := root.child template
  if ← Inquiry.isDirectory (dir.child version) then Contents.inquire root template version
  else if ← Inquiry.isDirectory dir then return .error (.ofError (.versionNotFound template version))
  else return .error (.ofError (.templateNotFound template))

/-- The configuration of a summary, as a version inherits it. -/
def inherited (parent : Option Summary) : Config :=
  match parent with
  | some s => ⟨some s.name, some s.category, some s.description, some s.defaultVersion⟩
  | none => .empty

/-- What is noted if a version would inherit from a template that is not there. -/
def missingParent (root : Location) (template version : String) : Diagnostic :=
  ⟨(root.child template).child version,
    "parent template '" ++ template ++ "' is not in the published catalog"⟩

/-- Whether something is inherited. -/
def inherits (c : Contents) : Bool := c.config.isNone || c.iconPath.isNone

/-- The detail of a version with these contents, of a template with this summary. -/
def resolve (root : Location) (template version : String) (parent : Option Summary)
    (c : Contents) : Version :=
  let path := Contents.pathOf template version
  let config := c.config.getD (inherited parent)
  { id := path
    path
    templateId := template
    version
    name := config.name.getD ""
    category := config.category.getD ""
    description := config.description.getD ""
    defaultVersion := config.defaultVersion.getD ""
    iconPath := c.iconPath.or (parent.bind (·.iconPath))
    dockerManifest := c.dockerManifest
    orchestrationManifest := c.orchestrationManifest
    questions := c.questions
    diagnostics := c.diagnostics
      ++ if inherits c && parent.isNone then [missingParent root template version] else [] }

/-- The JSON form of a detail, which exists only if the locations of all problems are
    texts. -/
def toJson? (v : Version) : Option Json := do
  let diagnostics ← v.diagnostics.mapM Diagnostic.toJson?
  return .object ([("id", .string v.id), ("path", .string v.path),
      ("templateId", .string v.templateId), ("version", .string v.version),
      ("name", .string v.name), ("category", .string v.category),
      ("description", .string v.description), ("defaultVersion", .string v.defaultVersion)]
    ++ member? "iconPath" Json.string v.iconPath
    ++ member? "dockerManifest" Json.string v.dockerManifest
    ++ member? "orchestrationManifest" Json.string v.orchestrationManifest
    ++ [("questions", .array (v.questions.map Question.toJson))]
    ++ if diagnostics.isEmpty then [] else [("diagnostics", .array diagnostics)])

end Version

/-- The detail of a version, as a snapshot and a disk show it. -/
def Snapshot.version (s : Snapshot) (root : Location) (template version : String) :
    Inquiry (Except Failure Version) := do
  return (← Version.inquire root template version).map
    (Version.resolve root template version (s.find? template))

end TemplateCatalog
