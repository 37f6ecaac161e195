import TemplateCatalog.Log
import TemplateCatalog.Template.Listing

/-!
# Surveys

One walk over the root of the templates. Every directory in it that is not hidden is
a template; one that cannot be listed is skipped, and if the root itself cannot be,
there are no templates. A survey keeps what each template came to; the templates, the
skipped ones and the problems are views of it.
-/

namespace TemplateCatalog

/-- What a walk over the root of the templates came to. -/
structure Survey where
  root : Location
  /-- What each template came to, in ascending order. -/
  outcome : Except DiskError (List (String × Except Failure (Annotated Summary)))

namespace Survey

/-- The names of the templates among the entries of the root. -/
def ids (entries : List Entry) : List String :=
  (entries.filter fun e => !e.isHidden && e.isDirectory).map (·.name)

/-- Walks over a root. -/
def inquire (root : Location) : Inquiry Survey := do
  match ← Entry.listOf root with
  | .error e => return ⟨root, .error e⟩
  | .ok entries =>
    let found ← Interaction.each (fun id => do return (id, ← Summary.inquire root id)) (ids entries)
    return ⟨root, .ok found⟩

/-- What each template came to; nothing if the root cannot be listed. -/
def found (s : Survey) : List (String × Except Failure (Annotated Summary)) :=
  match s.outcome with
  | .ok found => found
  | .error _ => []

/-- The template that an outcome gives. -/
def template? : String × Except Failure (Annotated Summary) → Option (String × Summary)
  | (id, .ok a) => some (id, a.value)
  | (_, .error _) => none

/-- The templates by their names. -/
def templates (s : Survey) : Dictionary Summary := .ofList (s.found.filterMap template?)

/-- The name of a template that is skipped. -/
def skipped? : String × Except Failure (Annotated Summary) → Option String
  | (_, .ok _) => none
  | (id, .error _) => some id

/-- The names of the templates that are skipped, in ascending order. -/
def skipped (s : Survey) : List String := s.found.filterMap skipped?

/-- The problems with one template. -/
def diagnosticsOf (root : Location) : String × Except Failure (Annotated Summary) → List Diagnostic
  | (_, .ok a) => a.diagnostics
  | (id, .error f) => [⟨root.child id, f.text⟩]

/-- All problems. -/
def diagnostics (s : Survey) : List Diagnostic :=
  match s.outcome with
  | .ok found => found.flatMap (diagnosticsOf s.root)
  | .error e => [⟨s.root, e.text⟩]

/-- What is noted of one template. -/
def notesOf (root : Location) : String × Except Failure (Annotated Summary) → List Log.Note
  | (id, outcome) =>
    ⟨.debug, "catalog", "Reading metadata folder for template: " ++ id⟩
      :: match outcome with
        | .ok a => a.diagnostics.map fun d =>
          ⟨.warn, "catalog", "Error reading config under " ++ (root.child id).display ++ ": " ++ d.message⟩
        | .error f => [⟨.error, "catalog", "Skipping template " ++ id ++ ": " ++ f.text⟩]

/-- What is noted of a walk. -/
def notes (s : Survey) : List Log.Note :=
  match s.outcome with
  | .ok found => found.flatMap (notesOf s.root)
  | .error e =>
    [⟨.error, "catalog", "Error reading template root " ++ s.root.display ++ ": " ++ e.text⟩]

end Survey

end TemplateCatalog
