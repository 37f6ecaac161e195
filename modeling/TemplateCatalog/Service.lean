import TemplateCatalog.Catalog.Version
import TemplateCatalog.Refresh.Schedule
import TemplateCatalog.Settings

/-!
# The service

The catalog of one git repository: its mirror, the templates in it, and what has been
published of them. To start, the settings are checked first, then whether there is git
at all, and only then anything is done.
-/

namespace TemplateCatalog

/-- The catalog of one git repository. -/
structure Service where
  source : GitSource
  remote : String
  mirror : Location
  root : Location
  /-- The seconds between two refreshes. -/
  refreshInterval : Nat
  published : Snapshot

namespace Service

/-- The service that settings describe, with nothing published. -/
def ofSettings (s : Settings) : Except Failure Service :=
  match s.validate, s.url with
  | .ok (), .ok remote =>
    .ok
      { source := ⟨s.branch, s.gitTimeout.toNat * 1000⟩
        remote
        mirror := s.dataDir
        root := s.templateRoot
        refreshInterval := s.refreshInterval.toNat
        published := .empty }
  | .error e, _ => .error (.ofError e)
  | _, .error e => .error (.ofError e)

/-- Rebuilds the catalog from what is on disk. -/
def rebuild (s : Service) : Procedure (Service × Report) := do
  let survey ← Procedure.ofInquiry (Survey.inquire s.root)
  Procedure.noteAll survey.notes
  let now ← Interaction.question Effect.clock
  let published := s.published.next now survey
  let report := survey.report published.generation
  Procedure.noteAll [report.note]
  return ({ s with published }, report)

/-- Goes through a cycle. -/
def cycle (s : Service) (q : Request) : Procedure (Service × Except Failure Report) := do
  let present ← Procedure.ofInquiry (GitSource.isPresent s.mirror)
  Procedure.noteAll (q.notesBefore s.remote s.mirror present)
  let call := SourceCall.ofPresence present
  let result ← s.source.call s.remote s.mirror call
  match q.fatal? call result with
  | some f => return (s, .error f)
  | none =>
    Procedure.noteAll (Request.notesAfter s.mirror call result)
    let (s, report) ← s.rebuild
    return (s, .ok report)

/-- Starts the service that settings describe. -/
def start (settings : Settings) : Procedure (Except Failure Service) := do
  match ofSettings settings with
  | .error f => return .error f
  | .ok s =>
    match ← requireGit with
    | .error f => return .error f
    | .ok () =>
      match ← s.cycle .bootstrap with
      | (_, .error f) => return .error f
      | (s, .ok report) =>
        Procedure.noteAll (report.diagnostics.map fun d => ⟨.warn, "catalog", d.text⟩)
        return .ok s

/-- The detail of a version. -/
def version (s : Service) (template version : String) : Procedure (Except Failure Version) := do
  match ← Procedure.ofInquiry (Version.inquire s.root template version) with
  | .error f => return .error f
  | .ok c =>
    Procedure.noteAll (c.defects.map fun d => ⟨.warn, "catalog", d.2.note d.1⟩)
    let parent := s.published.find? template
    if Version.inherits c && parent.isNone then
      Procedure.note .debug "catalog" ("Could not find the parent metadata " ++ template)
    return .ok (Version.resolve s.root template version parent c)

end Service

end TemplateCatalog
