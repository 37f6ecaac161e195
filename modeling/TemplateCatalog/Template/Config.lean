import TemplateCatalog.Decoding.Record
import TemplateCatalog.Failure
import TemplateCatalog.Text.Blank
import TemplateCatalog.Yaml.Decode

/-!
# Configuration of a template

Every template and every version may carry a small file of keys and values: its
name, category, description and default version. The file is a mapping whose
other keys are passed over; what these four hold must be a scalar, of any kind,
and counts as text. An empty file is an empty configuration.
-/

namespace TemplateCatalog

open Decoding Yaml

/-- What a template says about itself. -/
structure Config where
  name : Option String
  category : Option String
  description : Option String
  defaultVersion : Option String
  deriving DecidableEq, Repr, Inhabited

namespace Config

/-- The configuration that says nothing. -/
def empty : Config := ⟨none, none, none, none⟩

/-- The keys of a configuration. -/
def keys : List String := ["name", "category", "description", "defaultVersion"]

/-- The configuration with the given values of its keys. -/
def ofFields (fields : List (String × Option String)) : Config :=
  let get (key : String) : Option String := (fields.lookup key).join
  ⟨get "name", get "category", get "description", get "defaultVersion"⟩

/-- The fields with one more, if the configuration has it. -/
def set (fields : List (String × Option String)) (key : String) (v : Value) :
    Except Mistake (List (String × Option String)) :=
  if keys.contains key then (scalarText v).map fun text => (key, text) :: fields else .ok fields

/-- How configurations are read. -/
def record : Record (List (String × Option String)) Config :=
  { name := "TemplateConfig", fields := keys, start := [], set, finish := fun _ f => .ok (ofFields f) }

/-- The configuration that a JSON value holds. -/
def ofJson (j : Json) : Except Mistake Config := record.ofJson j

/-- The values of the keys of a configuration, which must occur once each. Their
    scalars are found in the entries of a mapping; the rest is passed over. -/
def readFields (d : Document) :
    List (String × Option String) → List (Node × Node) → Reader (List (String × Option String))
  | fields, [] => return fields
  | fields, (keyNode, valueNode) :: rest => do
    let key ← keyNode.keyText d .root
    if keys.contains key then
      if (fields.lookup key).isSome then Reader.mistake (.duplicateField key)
      let v ← valueNode.valueAt d (depthLimit - 1) false (Document.entryPath .root keyNode)
      readFields d (← Reader.ofExcept (set fields key v)) rest
    else
      valueNode.skip d
      readFields d fields rest

/-- The configuration that a node holds. -/
def ofNode (d : Document) (n : Node) : Reader Config :=
  match n with
  | .mapping label entries =>
    Reader.located label.pos .root do return ofFields (← readFields d [] entries)
  | .scalar label true "" => Reader.located label.pos .root (return empty)
  | .scalar label _ _ | .sequence label _ =>
    match n.found d with
    | .ok found => Reader.located label.pos .root (Reader.mistake (.wrongType found record.expected))
    | .error f => throw (f.locate label.pos .root)
  | .alias .. => throw d.fault
  | .cut => throw d.fault

/-- The configuration that a document holds. -/
def ofDocument (d : Document) : Except Fault Config :=
  d.run <|
    match d.root with
    | none => return empty
    | some n => ofNode d n

/-- The configuration that a text holds. -/
def ofText (text : String) : Except Fault Config :=
  if Text.isBlankText text then .ok empty else ofDocument (.ofText text)

/-- The configuration in a file, given what reading the file came to. -/
def ofFile (file : Location) (content : Except DiskError Bytes) : Except Failure Config :=
  match fileText content with
  | .error e => .error ⟨["Failed to read config file " ++ file.display], .disk e⟩
  | .ok text =>
    match ofText text with
    | .ok c => .ok c
    | .error f => .error ⟨["Failed to parse config file " ++ file.display], .catalog (.markup f)⟩

end Config

end TemplateCatalog
