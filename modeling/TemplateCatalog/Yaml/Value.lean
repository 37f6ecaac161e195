import TemplateCatalog.Decimal.Number
import TemplateCatalog.Text.Quoted

/-!
# Values of a document

What a document holds once its scalars are understood: truth values, numbers and
texts, in sequences and mappings, with the tags that an author put in front.

`Value.same` is equality as the keys of a mapping see it: the order of entries
does not matter, numbers of different kinds differ, and what is not a number is
the same as itself. `Value.describe` is how a value is shown in a message.
-/

namespace TemplateCatalog.Yaml

open Decimal

/-- A value. -/
inductive Value where
  | null
  | bool (b : Bool)
  | number (n : Number)
  | string (s : String)
  | sequence (items : List Value)
  | mapping (entries : List (Value × Value))
  /-- A value with a tag in front, which is written without its exclamation mark. -/
  | tagged (tag : String) (value : Value)
  deriving Repr, Inhabited

namespace Value

/-- Doubles are written without a sign before a positive exponent, outside `1e-5`
    to `1e15`. -/
def layout : Layout :=
  { positional := some (-5, 15), plus := false
    infinite := ".inf", negativeInfinite := "-.inf", notANumber := ".nan" }

/-- The text of a number. -/
def numberText (n : Number) : String := n.text layout

/-- The value under all tags. -/
def untagged : Value → Value
  | .tagged _ v => v.untagged
  | v => v

/-- A tag without an exclamation mark in front, unless it is nothing else. -/
def bareTag (tag : String) : String :=
  match tag.toList with
  | '!' :: c :: rest => String.ofList (c :: rest)
  | _ => tag

mutual

/-- Whether two values are the same key. -/
def same : Value → Value → Bool
  | .null, .null => true
  | .bool a, .bool b => a = b
  | .number a, .number b => a.same b
  | .string a, .string b => a = b
  | .sequence as, .sequence bs => sameItems as bs
  | .mapping as, .mapping bs => as.length = bs.length && sameEntries as bs
  | .tagged s a, .tagged t b => bareTag s = bareTag t && same a b
  | _, _ => false

/-- Whether two lists of items are the same. -/
def sameItems : List Value → List Value → Bool
  | [], [] => true
  | a :: as, b :: bs => same a b && sameItems as bs
  | _, _ => false

/-- Whether every entry of the first list is one of the second. -/
def sameEntries : List (Value × Value) → List (Value × Value) → Bool
  | [], _ => true
  | (k, v) :: rest, bs => bs.any (fun b => same k b.1 && same v b.2) && sameEntries rest bs

end

/-- The value of the entry with that key. -/
def lookup (key : Value) (entries : List (Value × Value)) : Option Value :=
  (entries.find? fun e => e.1.same key).map (·.2)

mutual

/-- How a value is shown in a message. -/
def describe : Value → String
  | .null => "Null"
  | .bool b => "Bool(" ++ toString b ++ ")"
  | .number n => "Number(" ++ numberText n ++ ")"
  | .string s => "String(" ++ Text.quoted s ++ ")"
  | .sequence items => "Sequence [" ++ ", ".intercalate (describeItems items) ++ "]"
  | .mapping entries =>
    "Mapping \x7b" ++ ", ".intercalate (describeEntries entries) ++ "\x7d"
  | .tagged tag v =>
    "TaggedValue \x7b tag: !" ++ bareTag tag ++ ", value: " ++ describe v ++ " \x7d"

/-- How items are shown. -/
def describeItems : List Value → List String
  | [] => []
  | v :: rest => describe v :: describeItems rest

/-- How entries are shown. Simple keys stand without their kind. -/
def describeEntries : List (Value × Value) → List String
  | [] => []
  | (k, v) :: rest =>
    let key := match k with
      | .bool b => toString b
      | .number n => numberText n
      | .string s => Text.quoted s
      | k => describe k
    (key ++ ": " ++ describe v) :: describeEntries rest

end

end Value

end TemplateCatalog.Yaml
