import TemplateCatalog.Yaml.Fault
import TemplateCatalog.Yaml.Scalar

/-!
# From nodes to values

Reading a node follows aliases, so a small document can stand for a huge value or
refer to itself. Two limits keep reading finite: collections nest at most 128
deep, and no more than a hundred aliases are followed for each event of the
document.

The result of reading depends on the order in which the nodes are visited: the
first fault on the way counts, and a document that breaks off is at fault where
it does so, even if its last part is not needed.
-/

namespace TemplateCatalog.Yaml

open Decoding Scalar

/-- A reading of a document, which counts the aliases it follows. -/
abbrev Reader (α : Type) := StateT Nat (Except Fault) α

/-- The depth to which collections may nest. -/
def depthLimit : Nat := 128

namespace Reader

/-- A mistake without a place. -/
def mistake {α : Type} (m : Mistake) : Reader α := throw (.mistake m none)

/-- A reading whose mistakes, if they have no place yet, are about a node. -/
def located {α : Type} (pos : Position) (path : Path) (r : Reader α) : Reader α := fun n =>
  match r n with
  | .ok a => .ok a
  | .error f => .error (f.locate pos path)

/-- The result of a step that may be a mistake. -/
def ofExcept {α : Type} : Except Mistake α → Reader α
  | .ok a => pure a
  | .error m => mistake m

end Reader

/-- The tag that an author gave to a node, without its exclamation mark. Standard
    tags are none of these. -/
def Label.ownTag (l : Label) : Option String :=
  match l.tag with
  | none => none
  | some t =>
    match t.toList with
    | '!' :: c :: rest => some (String.ofList (c :: rest))
    | ['!'] => some "!"
    | _ => none

/-- The standard tag for a kind of scalar. -/
def standardTag (kind : String) : Option String := some ("tag:yaml.org,2002:" ++ kind)

/-- What a scalar shows itself as; `none` for its own text. A standard tag must fit
    the text. Quoted texts and blocks are texts, and so is what has any other tag,
    unless the tag is an author's own, which does not change the meaning. -/
def Scalar.meaning (label : Label) (inTag plain : Bool) (text : String) : Except Mistake Meaning :=
  let wrong (expected : String) : Except Mistake Meaning :=
    .error (.wrongValue (.text text) expected)
  if inTag || label.tag = none then .ok (if plain then .ofPlain text else .text)
  else if label.tag = standardTag "bool" then
    match bool? text with
    | some b => .ok (.bool b)
    | none => wrong "a boolean"
  else if label.tag = standardTag "int" then
    match Meaning.integer? text with
    | some m => .ok m
    | none => wrong "an integer"
  else if label.tag = standardTag "float" then
    match double? text with
    | some d => .ok (.number (.double d))
    | none => wrong "a float"
  else if label.tag = standardTag "null" then
    if isNull text then .ok .null else wrong "null"
  else if label.ownTag.isSome && plain then .ok (.ofPlain text)
  else .ok .text

/-- What a meaning of a text shows itself as. -/
def Scalar.Meaning.found (text : String) : Meaning → Found
  | .null => .nothing
  | .bool b => .bool b
  | .number (.integer i) => .integer i
  | .number (.double d) => .double d
  | .wide i => .wide i
  | .text => .text text

/-- The value of a scalar. -/
def Scalar.value (label : Label) (inTag plain : Bool) (text : String) : Except Mistake Value :=
  match meaning label inTag plain text with
  | .error m => .error m
  | .ok .null => .ok .null
  | .ok (.bool b) => .ok (.bool b)
  | .ok (.number n) => .ok (.number n)
  | .ok (.wide i) => .error (.wrongType (.wide i) "any YAML value")
  | .ok .text => .ok (.string text)

namespace Document

/-- The fault at which the document breaks off. -/
def fault (d : Document) : Fault := .ofBreach (d.breach.getD .malformed)

/-- The node that an alias stands for, counting it. -/
def follow (d : Document) (target : Nat) : Reader Node := do
  modify (· + 1)
  if d.size * 100 < (← get) then throw .tooManyAliases
  return (d.anchored.lookup target).getD .cut

/-- The path to the value of a key. -/
def entryPath (path : Path) : Node → Path
  | .scalar _ _ key => .entry path key
  | _ => .unnamed path

/-- Puts the tag of an author in front of a value. -/
def withTag : Option String → Value → Value
  | some t, v => .tagged t v
  | none, v => v

/-- The entries of a mapping. A key must not occur twice, which is found before the
    second value is read. The first argument holds the entries so far, in reverse. -/
def readEntries (key : Node → Reader Value) (value : Path → Node → Reader Value) (path : Path) :
    List (Value × Value) → List (Node × Node) → Reader Value
  | done, [] => return .mapping done.reverse
  | done, (keyNode, valueNode) :: rest => do
    let k ← key keyNode
    if done.any fun e => e.1.same k then Reader.mistake (.duplicateEntry k)
    let v ← value (entryPath path keyNode) valueNode
    readEntries key value path ((k, v) :: done) rest

end Document

namespace Node

/-- The node itself or what it is an alias of, whether its tag has been taken into
    account, and the path to it. -/
def target (d : Document) (inTag : Bool) (path : Path) : Node → Reader (Node × Bool × Path)
  | .alias _ n => return (← d.follow n, false, .alias path)
  | n => return (n, inTag, path)

/-- The value of a node, collections nesting at most `depth` deep. Keys are read in
    the context of their mapping: at its path, and without their tags if the mapping
    has one. -/
def valueAt (d : Document) (depth : Nat) (inTag : Bool) (path : Path) (n : Node) :
    Reader Value := do
  let (n, inTag, path) ← n.target d inTag path
  match n with
  | .scalar label plain text =>
    let tag := if inTag then none else label.ownTag
    Reader.located label.pos path <| .ofExcept <|
      (Scalar.value label (inTag || tag.isSome) plain text).map (Document.withTag tag)
  | .sequence label items =>
    match depth with
    | 0 => throw (.tooDeep label.pos)
    | depth + 1 =>
      let tag := if inTag then none else label.ownTag
      Reader.located label.pos path do
        let items ← items.zipIdx.mapM fun (item, i) => valueAt d depth false (.item path i) item
        return Document.withTag tag (.sequence items)
  | .mapping label entries =>
    match depth with
    | 0 => throw (.tooDeep label.pos)
    | depth + 1 =>
      let tag := if inTag then none else label.ownTag
      Reader.located label.pos path do
        let m ← Document.readEntries (valueAt d depth (inTag || tag.isSome) path)
          (valueAt d depth false) path [] entries
        return Document.withTag tag m
  | .alias .. => throw d.fault
  | .cut => throw d.fault

/-- Whether a node may be passed over: it must not break off. -/
def skip (d : Document) (n : Node) : Reader Unit :=
  if n.isWhole then pure () else throw d.fault

/-- What a node shows itself as, where it is of no use. -/
def found (d : Document) : Node → Except Fault Found
  | .scalar label plain text =>
    match Scalar.meaning label false plain text with
    | .ok m => .ok (m.found text)
    | .error m => .error (.mistake m none)
  | .sequence .. => .ok .sequence
  | .mapping .. => .ok .map
  | .alias .. => .error d.fault
  | .cut => .error d.fault

/-- The text of a key that must be a scalar. -/
def keyText (d : Document) (path : Path) (n : Node) : Reader String := do
  let (n, _, path) ← n.target d false path
  match n with
  | .scalar _ _ text => return text
  | .sequence label _ => throw (.mistake (.wrongType .sequence "field identifier") (some ⟨label.pos, path⟩))
  | .mapping label _ => throw (.mistake (.wrongType .map "field identifier") (some ⟨label.pos, path⟩))
  | .alias .. => throw d.fault
  | .cut => throw d.fault

end Node

namespace Document

/-- A reading of the whole document, which must not break off and must be the only
    one. -/
def run {α : Type} (d : Document) (r : Reader α) : Except Fault α :=
  match r 0 with
  | .error f => .error f
  | .ok (a, _) =>
    if d.breach.isSome then .error d.fault
    else if d.more then .error .moreDocuments
    else .ok a

/-- The value of a document; null if there is none. -/
def value (d : Document) : Except Fault Value :=
  d.run <|
    match d.root with
    | none => return .null
    | some n => n.valueAt d depthLimit false .root

end Document

/-- The value of a text. -/
def Value.ofText (text : String) : Except Fault Value := (Document.ofText text).value

end TemplateCatalog.Yaml
