import TemplateCatalog.Yaml.Event
import TemplateCatalog.Yaml.Token.Lexer

/-!
# Documents as trees

A document as a tree of nodes. Where a malformed text breaks the document off,
the tree holds the node `cut`: whoever reads the tree in order meets everything
in front of the fault first, so an earlier mistake in the content is found before
the fault in the markup.

An alias holds the number of its anchor. Anchors are numbered by how many
different names there have been before, so a name that is given again may take
the number of a later one; of two nodes with one number the later counts.
-/

namespace TemplateCatalog.Yaml

/-- What is known of a node besides its content. -/
structure Label where
  pos : Position
  tag : Option String
  /-- The number of its anchor. -/
  anchor : Option Nat
  deriving DecidableEq, Repr

/-- A node of a document. -/
inductive Node where
  | scalar (label : Label) (plain : Bool) (text : String)
  | sequence (label : Label) (items : List Node)
  | mapping (label : Label) (entries : List (Node × Node))
  | alias (pos : Position) (target : Nat)
  /-- The document breaks off here. -/
  | cut
  deriving Repr

/-- Why a document breaks off. -/
inductive Breach where
  | malformed
  /-- An alias at this place names no anchor. -/
  | unknownAnchor (pos : Position)
  deriving DecidableEq, Repr

/-- The first document of a text. -/
structure Document where
  /-- Its root; `none` if the text holds no document. -/
  root : Option Node
  /-- The nodes with anchors, the later before the earlier. -/
  anchored : List (Nat × Node)
  /-- Why it breaks off, if it does. -/
  breach : Option Breach
  /-- Whether another document seems to follow. -/
  more : Bool
  /-- The number of its events. -/
  size : Nat

namespace Node

/-- Pairs each key with the value after it. -/
def pairs : List Node → List (Node × Node)
  | [] => []
  | [k] => [(k, .cut)]
  | k :: v :: rest => (k, v) :: pairs rest

/-- A collection that is still open. -/
structure Frame where
  isMapping : Bool
  label : Label
  /-- The nodes inside so far, in reverse. -/
  inside : List Node

/-- The node of a collection that has ended. -/
def Frame.node (f : Frame) : Node :=
  if f.isMapping then .mapping f.label (pairs f.inside.reverse) else .sequence f.label f.inside.reverse

/-- A tree in the making: the open collections, innermost first, and the finished
    root. -/
structure Builder where
  frames : List Frame
  root : Option Node
  /-- The numbers of the anchors by name. -/
  names : List (String × Nat)
  /-- The number of events so far. -/
  size : Nat

namespace Builder

/-- Nothing yet. -/
def empty : Builder := ⟨[], none, [], 0⟩

/-- Puts a node into the innermost collection. -/
def put (b : Builder) (n : Node) : Builder :=
  match b.frames with
  | f :: rest => { b with frames := { f with inside := n :: f.inside } :: rest }
  | [] => { b with root := some n }

/-- Opens a collection. -/
def openFrame (b : Builder) (isMapping : Bool) (label : Label) : Builder :=
  { b with frames := ⟨isMapping, label, []⟩ :: b.frames }

/-- Ends the innermost collection. -/
def close (b : Builder) : Builder :=
  match b.frames with
  | f :: rest => { b with frames := rest }.put f.node
  | [] => b

/-- The label of a node, with the number of its anchor. -/
def label (b : Builder) (pos : Position) (ps : Properties) : Builder × Label :=
  match ps.anchor with
  | none => (b, ⟨pos, ps.tag, none⟩)
  | some name =>
    let others := b.names.filter (·.1 != name)
    let number := b.names.length
    ({ b with names := (name, number) :: others }, ⟨pos, ps.tag, some number⟩)

/-- One more event; the place of an alias that names no anchor as failure. -/
def event (b : Builder) (e : Event) : Except Position Builder :=
  match e with
  | .alias pos name =>
    match b.names.lookup name with
    | some n => .ok (b.put (.alias pos n))
    | none => .error pos
  | .scalar pos ps plain text =>
    let (b, label) := b.label pos ps
    .ok (b.put (.scalar label plain text))
  | .sequenceStart pos ps =>
    let (b, label) := b.label pos ps
    .ok (b.openFrame false label)
  | .mappingStart pos ps =>
    let (b, label) := b.label pos ps
    .ok (b.openFrame true label)
  | .close => .ok b.close

/-- All events up to the first fault. -/
def events : List Event → Builder → Builder × Option Position
  | [], b => (b, none)
  | e :: rest, b =>
    match b.event e with
    | .ok b => events rest { b with size := b.size + 1 }
    | .error pos => (b, some pos)

/-- The tree of a document that breaks off: every open collection ends with the
    break. -/
def broken (b : Builder) : Node :=
  match b.root with
  | some n => n
  | none => (b.frames.foldl (fun inner f => { f with inside := inner :: f.inside }.node) .cut)

end Builder

mutual

/-- The nodes with anchors in a tree, in the order of the text. -/
def anchored : Node → List (Nat × Node)
  | .scalar label plain text => (label.anchor.map (·, .scalar label plain text)).toList
  | .sequence label items =>
    (label.anchor.map (·, .sequence label items)).toList ++ anchoredItems items
  | .mapping label entries =>
    (label.anchor.map (·, .mapping label entries)).toList ++ anchoredEntries entries
  | .alias .. => []
  | .cut => []

/-- The nodes with anchors in a list of items. -/
def anchoredItems : List Node → List (Nat × Node)
  | [] => []
  | n :: rest => anchored n ++ anchoredItems rest

/-- The nodes with anchors in a list of entries. -/
def anchoredEntries : List (Node × Node) → List (Nat × Node)
  | [] => []
  | (k, v) :: rest => anchored k ++ anchored v ++ anchoredEntries rest

end

mutual

/-- Whether a tree does not break off anywhere. -/
def isWhole : Node → Bool
  | .sequence _ items => areWhole items
  | .mapping _ entries => entriesAreWhole entries
  | .scalar .. => true
  | .alias .. => true
  | .cut => false

/-- Whether none of the items breaks off. -/
def areWhole : List Node → Bool
  | [] => true
  | n :: rest => isWhole n && areWhole rest

/-- Whether none of the entries breaks off. -/
def entriesAreWhole : List (Node × Node) → Bool
  | [] => true
  | (k, v) :: rest => isWhole k && isWhole v && entriesAreWhole rest

end

end Node

namespace Document

/-- The document of a tree. -/
def ofRoot (root : Node) (breach : Option Breach) (more : Bool) (size : Nat) : Document :=
  ⟨some root, root.anchored.reverse, breach, more, size⟩

/-- The document of a list of events. -/
def ofEvents (events : List Event) (ending : Ending) : Document :=
  let (b, unknown) := Node.Builder.empty.events events
  match unknown, ending, b.root with
  | some pos, _, _ => .ofRoot b.broken (some (.unknownAnchor pos)) false b.size
  | none, .void, _ => ⟨none, [], none, false, 1⟩
  | none, .whole more, some root => .ofRoot root none more b.size
  | none, _, _ => .ofRoot b.broken (some .malformed) false b.size

/-- The first document of a text. A text whose tokens stop short is malformed. -/
def ofText (text : String) : Document :=
  let (tokens, _) := Token.ofText text.toList
  let (events, ending) := Event.ofTokens tokens
  .ofEvents events ending

end Document

end TemplateCatalog.Yaml
