import TemplateCatalog.Template.Config

/-!
# Summaries of templates

What the catalog lists for a template: where it is, what its configuration says,
its icon and its versions.
-/

namespace TemplateCatalog

open Decoding Yaml

/-- What the catalog lists for a template. -/
structure Summary where
  id : String
  path : String
  name : String
  category : String
  description : String
  defaultVersion : String
  iconPath : Option String
  /-- The versions by label, each with its path. -/
  versionLinks : Dictionary String
  deriving DecidableEq, Inhabited

namespace Summary

/-- The summary of a template of which nothing is known. -/
def ofId (id : String) : Summary := ⟨id, id, "", "", "", "", none, .empty⟩

/-- The summary with what a configuration says; what it does not say is empty. -/
def withConfig (s : Summary) (c : Config) : Summary :=
  { s with
    name := c.name.getD ""
    category := c.category.getD ""
    description := c.description.getD ""
    defaultVersion := c.defaultVersion.getD "" }

/-- The JSON form of a summary. -/
def toJson (s : Summary) : Json :=
  .object ([("id", .string s.id), ("path", .string s.path), ("name", .string s.name),
    ("category", .string s.category), ("description", .string s.description),
    ("defaultVersion", .string s.defaultVersion)]
    ++ member? "iconPath" Json.string s.iconPath
    ++ [("versionLinks", .object (s.versionLinks.entries.map fun e => (e.1, .string e.2)))])

/-- The fields of a summary that have been read. -/
structure Draft where
  id : Option String
  path : Option String
  name : Option String
  category : Option String
  description : Option String
  defaultVersion : Option String
  iconPath : Option String
  versionLinks : Dictionary String

/-- No field yet. -/
def Draft.empty : Draft := ⟨none, none, none, none, none, none, none, .empty⟩

/-- A draft with one more field. -/
def Draft.set (d : Draft) (key : String) (v : Value) : Except Mistake Draft :=
  match key with
  | "id" => return { d with id := some (← textOf v) }
  | "path" => return { d with path := some (← textOf v) }
  | "name" => return { d with name := some (← textOf v) }
  | "category" => return { d with category := some (← textOf v) }
  | "description" => return { d with description := some (← textOf v) }
  | "defaultVersion" => return { d with defaultVersion := some (← textOf v) }
  | "iconPath" => return { d with iconPath := ← optional textOf v }
  | "versionLinks" => return { d with versionLinks := ← textsOf v }
  | _ => .ok d

/-- The value of a field that must be there. -/
def Draft.required {α : Type} (missing : Mistake) : Option α → Except Mistake α
  | some a => .ok a
  | none => .error missing

/-- The summary of a draft. -/
def Draft.finish (missing : String → Mistake) (d : Draft) : Except Mistake Summary := do
  return {
    id := ← required (missing "id") d.id
    path := ← required (missing "path") d.path
    name := ← required (missing "name") d.name
    category := ← required (missing "category") d.category
    description := ← required (missing "description") d.description
    defaultVersion := ← required (missing "defaultVersion") d.defaultVersion
    iconPath := d.iconPath
    versionLinks := d.versionLinks }

/-- How summaries are read. -/
def record : Record Draft Summary :=
  { name := "TemplateSummary"
    fields := ["id", "path", "name", "category", "description", "defaultVersion", "iconPath",
      "versionLinks"]
    start := .empty
    set := Draft.set
    finish := Draft.finish }

/-- The summary that a JSON value holds. -/
def ofJson (j : Json) : Except Mistake Summary := record.ofJson j

end Summary

end TemplateCatalog
