import TemplateCatalog.Decoding.Record
import TemplateCatalog.Failure
import TemplateCatalog.Text.Blank
import TemplateCatalog.Toml.Reader

/-!
# Settings of the service

Where the catalog comes from, where its mirror is kept and how often it is
refreshed. Settings are made in layers: the defaults, a file, and the command line
with its environment; of each setting the uppermost layer that has it counts,
except that debug output is on if any layer asks for it.

Only the result of all layers is checked, so what a lower layer says about a
setting does not matter once a higher one has it.
-/

namespace TemplateCatalog

open Decoding Yaml

/-- The settings of the service. -/
structure Settings where
  /-- The repository that the catalog mirrors. -/
  catalogUrl : Option String
  /-- The seconds between two refreshes. -/
  refreshInterval : UInt64
  /-- The directory of the mirror. -/
  dataDir : Location
  /-- The directory of the templates, inside the mirror. -/
  templatesDir : Location
  /-- The branch to follow, if not the one that the mirror tracks. -/
  branch : Option String
  /-- The seconds that a git command may take. -/
  gitTimeout : UInt64
  logFile : Option Location
  debug : Bool
  deriving DecidableEq, Repr

/-- The settings that the command line or its environment gives. -/
structure Overrides where
  catalogUrl : Option String
  refreshInterval : Option UInt64
  dataDir : Option Location
  templatesDir : Option Location
  branch : Option String
  gitTimeout : Option UInt64
  logFile : Option Location
  debug : Bool
  deriving DecidableEq, Repr

/-- The command line that gives no settings. -/
def Overrides.none : Overrides :=
  ⟨.none, .none, .none, .none, .none, .none, .none, false⟩

namespace Settings

/-- The settings without any layer above. -/
def default : Settings :=
  { catalogUrl := none
    refreshInterval := 60
    dataDir := .ofString "./DATA"
    templatesDir := .ofString "templates"
    branch := none
    gitTimeout := 300
    logFile := none
    debug := false }

/-- The settings with a layer on top. -/
def merge (s : Settings) (o : Overrides) : Settings :=
  { catalogUrl := o.catalogUrl.or s.catalogUrl
    refreshInterval := o.refreshInterval.getD s.refreshInterval
    dataDir := o.dataDir.getD s.dataDir
    templatesDir := o.templatesDir.getD s.templatesDir
    branch := o.branch.or s.branch
    gitTimeout := o.gitTimeout.getD s.gitTimeout
    logFile := o.logFile.or s.logFile
    debug := s.debug || o.debug }

/-- The repository to mirror, without the blanks around it. There must be one. -/
def url (s : Settings) : Except CatalogError String :=
  match s.catalogUrl.map Text.trim with
  | some url =>
    if url = "" then
      .error (.configuration "catalog_url is required (set --catalog-url or CATALOG_URL)")
    else .ok url
  | none => .error (.configuration "catalog_url is required (set --catalog-url or CATALOG_URL)")

/-- Checks what the service cannot do without. -/
def validate (s : Settings) : Except CatalogError Unit :=
  match s.url with
  | .error e => .error e
  | .ok _ =>
    if s.refreshInterval = 0 then
      .error (.configuration "refresh_interval must be at least 1 second")
    else if s.gitTimeout = 0 then
      .error (.configuration "git_timeout must be at least 1 second")
    else .ok ()

/-- The directory of the templates. -/
def templateRoot (s : Settings) : Location := s.dataDir.join s.templatesDir.bytes

/-- The settings with one more field read. -/
def set (s : Settings) (key : String) (v : Value) : Except Mistake Settings :=
  match key with
  | "catalog_url" => return { s with catalogUrl := ← optional textOf v }
  | "refresh_interval" => return { s with refreshInterval := ← wordOf v }
  | "data_dir" => return { s with dataDir := ← locationOf v }
  | "templates_dir" => return { s with templatesDir := ← locationOf v }
  | "branch" => return { s with branch := ← optional textOf v }
  | "git_timeout" => return { s with gitTimeout := ← wordOf v }
  | "log_file" => return { s with logFile := ← optional locationOf v }
  | "debug" => return { s with debug := ← boolOf v }
  | _ => .ok s

/-- How settings are read; what is missing keeps its default. -/
def record : Record Settings Settings :=
  { name := "CatalogConfig"
    fields := ["catalog_url", "refresh_interval", "data_dir", "templates_dir", "branch",
      "git_timeout", "log_file", "debug"]
    start := .default
    set
    finish := fun _ s => .ok s }

/-- The settings that a JSON value holds. -/
def ofJson (j : Json) : Except Mistake Settings := record.ofJson j

/-- What is said about a settings file that cannot be understood. -/
def malformed : Cause := .settings "<toml>"

/-- The settings in a text. -/
def ofText (text : String) : Except Cause Settings :=
  match Toml.read? text with
  | none => .error malformed
  | some v =>
    match record.ofValue v with
    | .ok s => .ok s
    | .error _ => .error malformed

/-- The settings in a file, given what reading the file came to. -/
def ofFile (file : Location) (content : Except DiskError Bytes) : Except Failure Settings :=
  match fileText content with
  | .error e => .error ⟨["Failed to read config from " ++ file.display], .disk e⟩
  | .ok text =>
    match ofText text with
    | .ok s => .ok s
    | .error cause => .error ⟨["Failed to parse config from " ++ file.display], cause⟩

/-- The JSON form of settings, which exists only if all locations are text. -/
def toJson? (s : Settings) : Option Json := do
  let dataDir ← s.dataDir.text?
  let templatesDir ← s.templatesDir.text?
  let logFile ← s.logFile.mapM Location.text?
  return .object (member? "catalog_url" Json.string s.catalogUrl
    ++ [("refresh_interval", .ofNat s.refreshInterval.toNat), ("data_dir", .string dataDir),
      ("templates_dir", .string templatesDir)]
    ++ member? "branch" Json.string s.branch
    ++ [("git_timeout", .ofNat s.gitTimeout.toNat)]
    ++ member? "log_file" Json.string logFile
    ++ [("debug", .bool s.debug)])

end Settings

end TemplateCatalog
