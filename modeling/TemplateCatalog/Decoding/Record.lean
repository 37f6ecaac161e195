import TemplateCatalog.Decoding.Mistake
import TemplateCatalog.Dictionary
import TemplateCatalog.Disk.Location
import TemplateCatalog.Json.Printer

/-!
# Records

Reading records from values: what their fields hold, and the two forms in which
JSON gives a record, an object with a member for each field or an array of the
fields in order. Members of an object are read in ascending order of their names,
of two with one name the later counts, and members that the record does not have
are passed over.
-/

namespace TemplateCatalog.Decoding

open Decimal Yaml

/-! ## Fields -/

/-- The text of a value that must be one. -/
def textOf (v : Value) : Except Mistake String :=
  match v.untagged with
  | .string s => .ok s
  | v => .error (.wrongType (.ofValue v) "a string")

/-- The truth value of a value that must be one. -/
def boolOf (v : Value) : Except Mistake Bool :=
  match v.untagged with
  | .bool b => .ok b
  | v => .error (.wrongType (.ofValue v) "a boolean")

/-- The unsigned integer of 64 bits that a value must be. -/
def wordOf (v : Value) : Except Mistake UInt64 :=
  match v with
  | .number (.integer i) =>
    if 0 ≤ i && i < unsignedBound 64 then .ok (UInt64.ofNat i.toNat)
    else .error (.wrongValue (.integer i) "u64")
  | v => .error (.wrongType (.ofValue v) "u64")

/-- The location that a value must be. -/
def locationOf (v : Value) : Except Mistake Location :=
  match v with
  | .string s => .ok (.ofString s)
  | v => .error (.wrongType (.ofValue v) "path string")

/-- What a value holds, unless it is null. -/
def optional {α : Type} (of : Value → Except Mistake α) (v : Value) : Except Mistake (Option α) :=
  match v with
  | .null => .ok none
  | v => (of v).map some

/-- The texts in the entries of a value that must be a mapping. -/
def textsOf (v : Value) : Except Mistake (Dictionary String) :=
  match v with
  | .mapping entries =>
    (entries.mapM fun (k, v) => do return (← textOf k, ← textOf v)).map Dictionary.ofList
  | v => .error (.wrongType (.ofValue v) "a map")

/-! ## Records -/

/-- How a record is read field by field. -/
structure Record (σ α : Type) where
  /-- The name of the record in messages. -/
  name : String
  /-- The names of the fields, in order. -/
  fields : List String
  /-- The state before the first field. -/
  start : σ
  /-- Reads a field. -/
  set : σ → String → Value → Except Mistake σ
  /-- The record, given what to say if a field is missing. -/
  finish : (String → Mistake) → σ → Except Mistake α

namespace Record

variable {σ α : Type}

/-- The name of a record where one is expected. -/
def expected (r : Record σ α) : String := "struct " ++ r.name

/-- Reads the fields in the entries of a mapping. -/
def ofEntries (r : Record σ α) : σ → List (Value × Value) → Except Mistake σ
  | s, [] => .ok s
  | s, (k, v) :: rest =>
    match k.untagged with
    | .string key => do r.ofEntries (← r.set s key v) rest
    | k => .error (.wrongType (.ofValue k) "field identifier")

/-- Reads the fields in the items of a sequence. -/
def ofItems (r : Record σ α) : σ → List (String × Value) → Except Mistake σ
  | s, [] => .ok s
  | s, (key, v) :: rest => do r.ofItems (← r.set s key v) rest

/-- The record that a JSON value holds. -/
def ofValue (r : Record σ α) (v : Value) : Except Mistake α :=
  match v with
  | .mapping entries => do r.finish .missingField (← r.ofEntries r.start entries)
  | .sequence items => do
    let s ← r.ofItems r.start (r.fields.zip items)
    let a ← r.finish (fun _ => .wrongLength items.length
      (r.expected ++ " with " ++ toString r.fields.length ++ " elements")) s
    if r.fields.length < items.length then
      .error (.wrongLength items.length "fewer elements in array")
    return a
  | v => .error (.wrongType (.ofValue v) r.expected)

end Record

/-! ## JSON as values -/

mutual

/-- The value of a JSON value, with the members of objects in ascending order. -/
def ofJson : Json → Value
  | .null => .null
  | .bool b => .bool b
  | .number n => .number n
  | .string s => .string s
  | .array items => .sequence (ofJsonItems items)
  | .object members =>
    .mapping ((Dictionary.ofList (ofJsonMembers members)).entries.map fun e => (.string e.1, e.2))

/-- The values of the items of an array. -/
def ofJsonItems : List Json → List Value
  | [] => []
  | j :: rest => ofJson j :: ofJsonItems rest

/-- The values of the members of an object. -/
def ofJsonMembers : List (String × Json) → List (String × Value)
  | [] => []
  | (k, j) :: rest => (k, ofJson j) :: ofJsonMembers rest

end

/-- How JSON words what was found. -/
def Wording.json : Wording := ⟨"null", Json.layout⟩

/-- The record that a JSON value holds. -/
def Record.ofJson {σ α : Type} (r : Record σ α) (j : Json) : Except Mistake α :=
  r.ofValue (Decoding.ofJson j)

/-- A member that an object has only if there is a value for it. -/
def member? {α : Type} (key : String) (encode : α → Json) : Option α → List (String × Json)
  | some a => [(key, encode a)]
  | none => []

end TemplateCatalog.Decoding
