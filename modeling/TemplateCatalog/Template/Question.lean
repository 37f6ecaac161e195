import TemplateCatalog.Decoding.Record
import TemplateCatalog.Failure
import TemplateCatalog.Yaml.Decode

/-!
# Questions of a version

A version may ask its user for settings. The questions are a list in one of the
sections of a deployment file: a mapping of sections, of which at most one may
hold the key `questions`. Sections without the key, of any form, are passed over.
-/

namespace TemplateCatalog

open Decoding Yaml

/-- A question about a setting. -/
structure Question where
  /-- The name of the setting. -/
  setting : String
  description : String
  label : String
  required : Bool
  default : Option String
  kind : String
  deriving DecidableEq, Repr, Inhabited

namespace Question

/-- The fields of a question that have been read. -/
structure Draft where
  setting : Option String
  description : Option String
  label : Option String
  required : Option Bool
  default : Option (Option String)
  kind : Option String

/-- No field yet. -/
def Draft.empty : Draft := ⟨none, none, none, none, none, none⟩

/-- The question of a draft; what has not been read is empty. -/
def Draft.question (d : Draft) : Question :=
  ⟨d.setting.getD "", d.description.getD "", d.label.getD "", d.required.getD false,
    d.default.getD none, d.kind.getD ""⟩

/-- A field that has not been read before. -/
def once {α : Type} (name : String) (old : Option α) (new : Except Mistake α) :
    Except Mistake (Option α) :=
  if old.isSome then .error (.duplicateField name) else new.map some

/-- A draft with one more field. Fields that a question does not have are passed
    over. -/
def Draft.set (d : Draft) (name : String) (v : Value) : Except Mistake Draft :=
  match name with
  | "variable" => return { d with setting := ← once name d.setting (textOf v) }
  | "description" =>
    return { d with description := ← once name d.description ((scalarText v).map (·.getD "")) }
  | "label" => return { d with label := ← once name d.label ((scalarText v).map (·.getD "")) }
  | "required" => return { d with required := ← once name d.required (boolOf v) }
  | "default" => return { d with default := ← once name d.default (scalarText v) }
  | "type" => return { d with kind := ← once name d.kind (textOf v) }
  | _ => return d

/-- How questions are read. -/
def record : Record Draft Question :=
  { name := "Question"
    fields := ["variable", "description", "label", "required", "default", "type"]
    start := .empty
    set := Draft.set
    finish := fun _ d => .ok d.question }

/-- The question that a value holds. -/
def ofValue (v : Value) : Except Mistake Question :=
  match v.untagged with
  | .mapping entries => (record.ofEntries .empty entries).map Draft.question
  | .null => .ok Draft.empty.question
  | v => .error (.wrongType (.ofValue v) record.expected)

/-- The questions that a value holds. -/
def listOfValue (v : Value) : Except Mistake (List Question) :=
  match v.untagged with
  | .sequence items => items.mapM ofValue
  | .null => .ok []
  | v => .error (.wrongType (.ofValue v) "a sequence")

/-- The question that a JSON value holds. -/
def ofJson (j : Json) : Except Mistake Question := record.ofJson j

/-- The JSON form of a question. -/
def toJson (q : Question) : Json :=
  .object ([("variable", .string q.setting), ("description", .string q.description),
    ("label", .string q.label), ("required", .bool q.required)]
    ++ member? "default" Json.string q.default ++ [("type", .string q.kind)])

/-! ## Questions of a file -/

/-- The value of the key `questions` of a section. -/
def inSection? (v : Value) : Option Value :=
  match v.untagged with
  | .mapping entries => Value.lookup (.string "questions") entries
  | _ => none

/-- The name of a section. -/
def sectionName (key : Value) : String :=
  match key.untagged with
  | .string s => s
  | _ => key.describe

/-- The sections that hold questions, with their names, in order. -/
def sections : List (Value × Value) → Except Failure (List (String × List Question))
  | [] => .ok []
  | (key, v) :: rest =>
    match inSection? v with
    | none => sections rest
    | some questions =>
      let name := sectionName key
      match listOfValue questions with
      | .ok list => (sections rest).map ((name, list) :: ·)
      | .error m =>
        .error ⟨["Invalid questions in section '" ++ name ++ "'"], .catalog (.markup (.mistake m none))⟩

/-- The questions of a document. -/
def listOfDocument (file : String) (v : Value) : Except Failure (List Question) :=
  match v with
  | .null => .ok []
  | .mapping entries =>
    match sections entries with
    | .error f => .error f
    | .ok [] => .ok []
    | .ok [(_, list)] => .ok list
    | .ok found => .error (.ofError (.questionConflict file (found.map (·.1))))
  | _ => .error (.ofError (.other (file ++ " is not a mapping of sections")))

/-- The questions of a text, which is the content of a file of that name. -/
def listOfText (file text : String) : Except Failure (List Question) :=
  match Value.ofText text with
  | .error f => .error (.ofError (.markup f))
  | .ok v => listOfDocument file v

end Question

end TemplateCatalog
