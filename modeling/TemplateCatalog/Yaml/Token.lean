import TemplateCatalog.Yaml.Position

/-!
# Tokens

The pieces of markup that a document is made of. Indentation and the keys that
no indicator announces are tokens as well, so that the structure of a document
can be read off its tokens alone.
-/

namespace TemplateCatalog.Yaml

/-- What a token is. -/
inductive Lexeme where
  | textEnd
  /-- A directive that names a version of the markup. -/
  | version (major minor : Nat)
  /-- A directive that lets a handle stand for the start of tags. -/
  | tagHandle (handle start : String)
  | documentStart
  | documentEnd
  | blockSequenceStart
  | blockMappingStart
  | blockEnd
  | flowSequenceStart
  | flowSequenceEnd
  | flowMappingStart
  | flowMappingEnd
  | blockEntry
  | flowEntry
  | key
  | value
  | alias (name : String)
  | anchor (name : String)
  | tag (handle suffix : String)
  /-- A text; `plain` if it stands without quotes and is no block. -/
  | scalar (plain : Bool) (text : String)
  deriving DecidableEq, Repr

/-- A token with the places where it starts and ends. -/
structure Token where
  lexeme : Lexeme
  start : Position
  stop : Position
  deriving DecidableEq, Repr

end TemplateCatalog.Yaml
