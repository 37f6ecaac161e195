import TemplateCatalog.Catalog.Survey

/-!
# Snapshots

What the catalog shows at one time: all templates of one survey. A snapshot is never
changed; publishing a survey puts the next one in its place.
-/

namespace TemplateCatalog

/-- What the catalog shows at one time. -/
structure Snapshot where
  /-- How many surveys have been published. -/
  generation : Nat
  /-- When this one was, in microseconds. -/
  refreshedAt : Option Nat
  templates : Dictionary Summary

/-- What is said of a survey that has been published. -/
structure Report where
  generation : Nat
  /-- The number of templates. -/
  templates : Nat
  /-- The templates that are left out. -/
  skipped : List String
  diagnostics : List Diagnostic
  deriving DecidableEq, Repr

namespace Snapshot

/-- The catalog before anything is published. -/
def empty : Snapshot := ⟨0, none, .empty⟩

/-- The snapshot after this one. -/
def next (s : Snapshot) (now : Nat) (survey : Survey) : Snapshot :=
  ⟨s.generation + 1, some now, survey.templates⟩

/-- The template of a name. -/
def find? (s : Snapshot) (id : String) : Option Summary := s.templates.find? id

/-- All templates, in ascending order of their names. -/
def list (s : Snapshot) : List Summary := s.templates.values

end Snapshot

/-- The report of a survey that is published as a generation. -/
def Survey.report (s : Survey) (generation : Nat) : Report :=
  ⟨generation, s.templates.size, s.skipped, s.diagnostics⟩

/-- What is noted of a survey that has been published. -/
def Report.note (r : Report) : Log.Note :=
  ⟨.info, "catalog", "Published catalog generation " ++ toString r.generation ++ " with "
    ++ toString r.templates ++ " templates (" ++ toString r.skipped.length ++ " skipped)"⟩

end TemplateCatalog
