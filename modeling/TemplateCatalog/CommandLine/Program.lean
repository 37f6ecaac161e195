import TemplateCatalog.CommandLine.Console
import TemplateCatalog.CommandLine.Invocation
import TemplateCatalog.CommandLine.Rendering
import TemplateCatalog.Json.Printer
import TemplateCatalog.Service
import TemplateCatalog.Text.Quoted

/-!
# The program

What happens at a console: the command line is read, the settings are put together,
the log is opened, the service is started, and its answer is printed. A failure on the
way is explained on the stream for errors.
-/

namespace TemplateCatalog.CommandLine

/-- The variables of the environment. -/
abbrev Environment := String → Option String

/-- How a run of the program ends. -/
inductive Ending where
  | exited (code : Nat)
  /-- It does not end: the service is to be kept refreshed. -/
  | serving (s : Service) (g : Logging) (refreshNow : Bool)

/-- The name and version of the program. -/
def versionLine : String := "catalog-service 0.1.0\n"

/-- How the program is used. -/
def usageText : String :=
  "Usage: catalog-service [OPTIONS] <serve|list|show>\n"

/-- Whether colors are used: if they are forced, or if they are not forbidden and are
    seen. -/
def usesColors (env : Environment) (onTerminal : Bool) : Bool :=
  if (env "CLICOLOR_FORCE").any (· ≠ "0") then true
  else if (env "NO_COLOR").isSome then false
  else ((env "CLICOLOR").map (· != "0")).getD true && onTerminal

/-- The filter of the log: the one of the environment, or else one for the settings. -/
def logFilter (env : Environment) (debug : Bool) : Log.Filter :=
  match env "RUST_LOG" with
  | some rules => .ofText rules
  | none => .ofText (if debug then "debug" else "info")

/-- A setting that may be missing, as it is noted. -/
def describeOption : Option String → String
  | some s => "Some(" ++ Text.quoted s ++ ")"
  | none => "None"

/-- Settings as they are noted. -/
def describeSettings (s : Settings) : String :=
  "CatalogConfig \x7b catalog_url: " ++ describeOption s.catalogUrl
    ++ ", refresh_interval: " ++ toString s.refreshInterval.toNat
    ++ ", data_dir: " ++ Text.quoted s.dataDir.display
    ++ ", templates_dir: " ++ Text.quoted s.templatesDir.display
    ++ ", branch: " ++ describeOption s.branch
    ++ ", git_timeout: " ++ toString s.gitTimeout.toNat
    ++ ", log_file: " ++ describeOption (s.logFile.map Location.display)
    ++ ", debug: " ++ (if s.debug then "true" else "false") ++ " \x7d"

/-- Opens the log that settings ask for. -/
def openLog (env : Environment) (s : Settings) : Console (Except Failure Logging) := do
  let g : Logging := ⟨logFilter env s.debug, s.debug, s.logFile⟩
  match s.logFile with
  | none => return .ok g
  | some l =>
    match ← Interaction.question (ConsoleEffect.openLog l) with
    | .ok () => return .ok g
    | .error e =>
      let message := "Failed to open log file " ++ l.display ++ ": " ++ e.text
      return .error (.ofError (.configuration message))

/-- The settings of an invocation. -/
def readSettings (i : Invocation) : Console (Except Failure Settings) := do
  match i.settingsFile with
  | none => return i.settings (.error .notFound)
  | some file => return i.settings (← Interaction.question (ConsoleEffect.work (.ask (.content file))))

/-- Whether two texts are equal but for the case of ASCII letters. -/
def sameIgnoringCase (a b : String) : Bool :=
  a.toList.map Char.toLower = b.toList.map Char.toLower

/-- The templates of a category, or all. -/
def ofCategory (category : Option String) (l : List Summary) : List Summary :=
  match category with
  | some c => l.filter fun s => sameIgnoringCase s.category c
  | none => l

/-- The answer to a request for templates. -/
def listAnswer (colors : Bool) (category : Option String) (format : Format)
    (l : List Summary) : String :=
  let l := ofCategory category l
  match format with
  | .json => (Json.array (l.map Summary.toJson)).pretty ++ "\n"
  | .text => summariesText colors l

/-- The answer to a request for a version. In JSON it needs all locations to be
    texts. -/
def versionAnswer (colors : Bool) (format : Format) (v : Version) : Except Failure String :=
  match format with
  | .text => .ok (versionText colors v)
  | .json =>
    match v.toJson? with
    | some j => .ok (j.pretty ++ "\n")
    | none => .error (.ofCause (.message "path contains invalid UTF-8 characters"))

/-- Answers a request for a version. -/
def answerVersion (colors : Bool) (g : Logging) (s : Service) (template version : String)
    (format : Format) : Console (Except Failure Ending) := do
  match ← Console.ofProcedure g (s.version template version) with
  | .error f => return .error f
  | .ok v =>
    Console.ofProcedure g
      (Procedure.noteAll (v.diagnostics.map fun d => ⟨.warn, "catalog", d.text⟩))
    match versionAnswer colors format v with
    | .error f => return .error f
    | .ok text =>
      Console.print text
      return .ok (.exited 0)

/-- Does what an action asks for. -/
def act (colors : Bool) (g : Logging) (settings : Settings) (a : Action) :
    Console (Except Failure Ending) := do
  match ← Console.ofProcedure g (Service.start settings) with
  | .error f => return .error f
  | .ok s =>
    match a with
    | .serve refreshNow =>
      Console.write g ⟨.info, "catalog_service::cli::serve", "Serving "
        ++ toString s.published.templates.size ++ " templates from " ++ s.root.display
        ++ " (refresh every " ++ toString s.refreshInterval ++ "s)"⟩
      return .ok (.serving s g refreshNow)
    | .list category format =>
      Console.print (listAnswer colors category format s.published.list)
      return .ok (.exited 0)
    | .show template version format => answerVersion colors g s template version format

/-- Does what an invocation asks for. -/
def invoke (env : Environment) (colors : Bool) (i : Invocation) :
    Console (Except Failure Ending) := do
  match ← readSettings i with
  | .error f => return .error f
  | .ok settings =>
    match ← openLog env settings with
    | .error f => return .error f
    | .ok g =>
      Console.write g
        ⟨.debug, "catalog_service::cli", "Resolved configuration: " ++ describeSettings settings⟩
      act colors g settings i.action

/-- What is done about a command line that asks for nothing that can be done. -/
def reject : Rejection → Console Ending
  | .displayHelp => do
    Console.print usageText
    return .exited 0
  | .displayVersion => do
    Console.print versionLine
    return .exited 0
  | _ => do
    Console.printError usageText
    return .exited 2

/-- Runs the program. -/
def run (env : Environment) (onTerminal : Bool) (args : List String) : Console Ending := do
  let colors := usesColors env onTerminal
  match Invocation.parse env args with
  | .error r => reject r
  | .ok i =>
    match ← invoke env colors i with
    | .ok ending => return ending
    | .error f =>
      Console.printError (explanationText colors f.explain)
      return .exited 1

end TemplateCatalog.CommandLine
