import TemplateCatalog.CommandLine.Grammar
import TemplateCatalog.Settings

/-!
# Invocations of the service

The commands of the service and what a command line asks for: settings, a settings
file, and one of three actions. The flags for settings may stand before the action
or after it, and each has a variable of the environment.
-/

namespace TemplateCatalog.CommandLine

/-- The form in which an answer is printed. -/
inductive Format where
  | json
  | text
  deriving DecidableEq, Repr

/-- What the service is asked to do. -/
inductive Action where
  /-- Keeps the catalog refreshed, at once if so asked. -/
  | serve (refreshNow : Bool)
  /-- Prints the templates, all or those of a category. -/
  | list (category : Option String) (format : Format)
  /-- Prints a version of a template. -/
  | «show» (template version : String) (format : Format)
  deriving DecidableEq, Repr

/-- What a command line asks for. -/
structure Invocation where
  overrides : Overrides
  settingsFile : Option Location
  action : Action
  deriving DecidableEq, Repr

/-! ## The commands -/

/-- The flags for settings. -/
def settingFlags : List Flag :=
  [⟨"catalog-url", none, some "CATALOG_URL", .text⟩,
   ⟨"refresh-interval", none, some "CATALOG_REFRESH_INTERVAL", .word⟩,
   ⟨"data-dir", none, some "CATALOG_DATA_DIR", .location⟩,
   ⟨"templates-dir", none, some "CATALOG_TEMPLATES_DIR", .location⟩,
   ⟨"branch", none, some "CATALOG_BRANCH", .text⟩,
   ⟨"git-timeout", none, some "CATALOG_GIT_TIMEOUT", .word⟩,
   ⟨"log-file", none, some "CATALOG_LOG_FILE", .location⟩,
   ⟨"debug", some 'v', some "CATALOG_DEBUG", .switch⟩,
   ⟨"config", some 'c', some "CATALOG_CONFIG", .location⟩]

/-- The flag that asks for help. -/
def helpFlag : Flag := ⟨"help", some 'h', none, .help⟩

/-- The flag that asks for the version of the program. -/
def versionFlag : Flag := ⟨"version", some 'V', none, .version⟩

/-- The flag for the form of an answer. -/
def formatFlag : Flag := ⟨"format", none, none, .choice ["json", "text"]⟩

/-- The service without an action. -/
def service : Command :=
  ⟨settingFlags ++ [helpFlag, versionFlag], 0, ["serve", "list", "show", "help"]⟩

/-- The command of an action. -/
def command (name : String) : Command :=
  match name with
  | "serve" => ⟨⟨"refresh-now", none, none, .switch⟩ :: settingFlags ++ [helpFlag], 0, []⟩
  | "list" => ⟨⟨"category", none, none, .text⟩ :: formatFlag :: settingFlags ++ [helpFlag], 0, []⟩
  | _ => ⟨formatFlag :: settingFlags ++ [helpFlag], 2, []⟩

/-! ## Reading -/

/-- The format that a flag asks for. -/
def formatOf (r : Reading) : Format :=
  if (r.given.lookup "format").any (·.value = "text") then .text else .json

/-- The action of a command that has been read. -/
def action? (name : String) (r : Reading) : Except Rejection Action :=
  match name, r.words with
  | "serve", _ => .ok (.serve (r.given.lookup "refresh-now").isSome)
  | "list", _ => .ok (.list ((r.given.lookup "category").map (·.value)) (formatOf r))
  | _, [version, template] => .ok (.show template version (formatOf r))
  | _, _ => .error .missingRequiredArgument

/-- What two readings, of the service and of its action, ask for: each setting is the value
    of its own flag or variable (`Invocation.parse_asks`). -/
def Invocation.ofReadings (outer inner : Reading) (action : Action) : Invocation :=
  let value? := Reading.value? outer inner
  { overrides :=
      { catalogUrl := value? "catalog-url"
        refreshInterval := (value? "refresh-interval").bind word?
        dataDir := (value? "data-dir").map Location.ofString
        templatesDir := (value? "templates-dir").map Location.ofString
        branch := value? "branch"
        gitTimeout := (value? "git-timeout").bind word?
        logFile := (value? "log-file").map Location.ofString
        debug := value? "debug" = some "true" }
    settingsFile := (value? "config").map Location.ofString
    action }

/-- What is answered to a request for help on a command. -/
def helpOn : List String → Rejection
  | [] => .displayHelp
  | name :: rest =>
    if !service.subcommands.contains name then .invalidSubcommand
    else if rest.isEmpty then .displayHelp
    else .invalidSubcommand

/-- What a command line asks for, in an environment. -/
def Invocation.parse (env : String → Option String) (args : List String) :
    Except Rejection Invocation := do
  let (outer, sub) ← Reading.empty.run service args
  match sub with
  | some ("help", rest) => throw (helpOn rest)
  | some (name, rest) =>
    let (inner, _) ← Reading.empty.run (command name) rest
    let inner ← inner.finish (command name) env
    let action ← action? name inner
    let outer ← outer.finish service env
    return .ofReadings outer inner action
  | none =>
    let outer ← outer.finish service env
    if outer.given.isEmpty then throw .helpOnMissingArgument
    throw .missingSubcommand

/-- The settings that an invocation asks for, given what reading its settings file
    came to. They must be complete. -/
def Invocation.settings (i : Invocation) (content : Except DiskError Bytes) :
    Except Failure Settings :=
  let base := match i.settingsFile with
    | some file => Settings.ofFile file content
    | none => .ok .default
  match base with
  | .error f => .error f
  | .ok s =>
    let merged := s.merge i.overrides
    match merged.validate with
    | .ok () => .ok merged
    | .error e => .error (.ofError e)

end TemplateCatalog.CommandLine
