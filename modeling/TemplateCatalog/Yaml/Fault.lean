import TemplateCatalog.Decoding.Mistake
import TemplateCatalog.Yaml.Node

/-!
# Faults of a document

Why a document could not be read: its markup is malformed, it refers to itself
without end, or its content is not what was expected. A mistake in the content is
reported with the path to the node it is about and with the place of that node,
except at the very start of the document, where neither says anything.
-/

namespace TemplateCatalog.Yaml

open Decoding

/-- The way from the root of a document to a node. -/
inductive Path where
  | root
  | item (parent : Path) (index : Nat)
  | entry (parent : Path) (key : String)
  /-- Through an alias. -/
  | alias (parent : Path)
  /-- The value of a key that is no scalar. -/
  | unnamed (parent : Path)
  deriving DecidableEq, Repr

namespace Path

/-- The text of a path. -/
def text : Path → String
  | .root => "."
  | .item p i => p.text ++ "[" ++ toString i ++ "]"
  | .entry .root key => key
  | .entry p key => p.text ++ "." ++ key
  | .alias p => p.text
  | .unnamed .root => "?"
  | .unnamed p => p.text ++ ".?"

end Path

/-- Where a mistake was made. -/
structure Site where
  pos : Position
  path : Path
  deriving DecidableEq, Repr

/-- Why a document could not be read. -/
inductive Fault where
  | malformed
  | unknownAnchor (pos : Position)
  /-- Collections are nested too deeply. -/
  | tooDeep (pos : Position)
  /-- Aliases are followed too often. -/
  | tooManyAliases
  | moreDocuments
  | mistake (m : Mistake) (site : Option Site)
  deriving Repr

/-- The text of a position, unless it is the start of the document. -/
def Position.suffix (p : Position) : String :=
  if p.line = 0 && p.column = 0 then ""
  else " at line " ++ toString (p.line + 1) ++ " column " ++ toString (p.column + 1)

namespace Fault

/-- The fault of a document that breaks off. -/
def ofBreach : Breach → Fault
  | .malformed => .malformed
  | .unknownAnchor pos => .unknownAnchor pos

/-- A mistake that has no place yet, at a node. -/
def locate (pos : Position) (path : Path) : Fault → Fault
  | .mistake m none => .mistake m (some ⟨pos, path⟩)
  | f => f

/-- The text of a fault. What is wrong with malformed markup is not said. -/
def text : Fault → String
  | .malformed => "<syntax>"
  | .unknownAnchor pos => "unknown anchor" ++ pos.suffix
  | .tooDeep pos => "recursion limit exceeded" ++ pos.suffix
  | .tooManyAliases => "repetition limit exceeded"
  | .moreDocuments => "deserializing from YAML containing more than one document is not supported"
  | .mistake m none => m.text .markup
  | .mistake m (some ⟨pos, path⟩) =>
    (if path.text = "." then "" else path.text ++ ": ") ++ m.text .markup ++ pos.suffix

end Fault

end TemplateCatalog.Yaml
