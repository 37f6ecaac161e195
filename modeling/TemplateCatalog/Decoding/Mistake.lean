import TemplateCatalog.Yaml.Value

/-!
# Mistakes in the content of a document

A document may be well-formed and still not be what its reader expects. A
`Mistake` says what is wrong; its text differs between document formats in two
points only, which a `Wording` states.
-/

namespace TemplateCatalog.Decoding

open Decimal Yaml

/-- What was found where something else was expected. -/
inductive Found where
  | nothing
  | bool (b : Bool)
  | integer (i : Int)
  /-- An integer beyond 64 bits. -/
  | wide (i : Int)
  | double (d : Double)
  | text (s : String)
  | sequence
  | map
  deriving DecidableEq, Repr

/-- What is wrong with the content of a document. -/
inductive Mistake where
  | wrongType (found : Found) (expected : String)
  | wrongValue (found : Found) (expected : String)
  | wrongLength (found : Nat) (expected : String)
  | missingField (name : String)
  | duplicateField (name : String)
  | duplicateEntry (key : Value)
  /-- A collection or a tagged value where a scalar is needed. -/
  | notScalar (found : Value)
  deriving Repr

/-- How a format words what was found. -/
structure Wording where
  /-- The name of nothing. -/
  nothing : String
  /-- How doubles are written. -/
  layout : Layout

/-- How a document of markup words what was found: doubles are always positional. -/
def Wording.markup : Wording :=
  ⟨"unit value",
    { positional := none, plus := false, infinite := "inf", negativeInfinite := "-inf"
      notANumber := "NaN" }⟩

/-- What a value shows itself as. -/
def Found.ofValue : Value → Found
  | .null => .nothing
  | .bool b => .bool b
  | .number (.integer i) => .integer i
  | .number (.double d) => .double d
  | .string s => .text s
  | .sequence _ => .sequence
  | .mapping _ => .map
  | .tagged _ v => .ofValue v

/-- The words for what was found. -/
def Found.describe (w : Wording) : Found → String
  | .nothing => w.nothing
  | .bool b => "boolean `" ++ toString b ++ "`"
  | .integer i => "integer `" ++ toString i ++ "`"
  | .wide i => "integer `" ++ toString i ++ "` as " ++ (if i < 0 then "i128" else "u128")
  | .double d => "floating point `" ++ w.layout.write d ++ "`"
  | .text s => "string " ++ Text.quoted s
  | .sequence => "sequence"
  | .map => "map"

/-- The words for a key that a mapping holds twice. -/
def describeKey : Value → String
  | .null => "with null key"
  | .bool b => "with key `" ++ toString b ++ "`"
  | .number n => "with key " ++ Value.numberText n
  | .string s => "with key " ++ Text.quoted s
  | _ => "in YAML map"

/-- The text of a mistake. -/
def Mistake.text (w : Wording) : Mistake → String
  | .wrongType found expected => "invalid type: " ++ found.describe w ++ ", expected " ++ expected
  | .wrongValue found expected => "invalid value: " ++ found.describe w ++ ", expected " ++ expected
  | .wrongLength n expected => "invalid length " ++ toString n ++ ", expected " ++ expected
  | .missingField name => "missing field `" ++ name ++ "`"
  | .duplicateField name => "duplicate field `" ++ name ++ "`"
  | .duplicateEntry key => "duplicate entry " ++ describeKey key
  | .notScalar v => "expected a scalar value, found " ++ v.describe

/-- The text of a scalar in its own form, `none` for nothing; numbers lose the
    form in which they were given. -/
def scalarText : Value → Except Mistake (Option String)
  | .null => .ok none
  | .string s => .ok (some s)
  | .bool b => .ok (some (toString b))
  | .number n => .ok (some (Value.numberText n))
  | v => .error (.notScalar v)

end TemplateCatalog.Decoding
