import TemplateCatalog.Yaml.Token

/-!
# Events

The structure of a document as a sequence: collections that open and close, the
scalars in them, and aliases. Events are read off the tokens by working through
*goals*, what the document may go on with; reaching a goal takes tokens, yields
an event or none, and sets the goals that come before the remaining ones.

A scalar that the text leaves out, such as the value after a lone colon, is an
empty plain scalar.
-/

namespace TemplateCatalog.Yaml

/-- What may stand in front of a node. -/
structure Properties where
  anchor : Option String
  tag : Option String
  deriving DecidableEq, Repr

/-- A step in the structure of a document. -/
inductive Event where
  | alias (pos : Position) (name : String)
  | scalar (pos : Position) (properties : Properties) (plain : Bool) (text : String)
  | sequenceStart (pos : Position) (properties : Properties)
  | mappingStart (pos : Position) (properties : Properties)
  /-- The end of the innermost open collection. -/
  | close
  deriving DecidableEq, Repr

namespace Event

/-- A scalar that the text leaves out. -/
def missing (pos : Position) : Event := .scalar pos ⟨none, none⟩ true ""

/-- What a document may go on with. -/
inductive Goal where
  /-- A node; inside a block collection or not, and if a sequence may start at
      the column of the key before it. -/
  | node (block : Bool) (indentless : Bool)
  | blockItem
  | indentlessItem
  | blockKey
  | blockValue
  | flowItem (first : Bool)
  /-- The key of a pair that stands alone in a flow sequence. -/
  | pairKey
  | pairValue
  | pairEnd
  | flowKey (first : Bool)
  | flowValue
  /-- A key of a flow mapping that has no colon. -/
  | flowNoValue
  deriving DecidableEq, Repr

/-- What reaching a goal comes to. -/
structure Move where
  event : Option Event
  /-- The goals that come first now. -/
  goals : List Goal
  /-- The tokens that are left. -/
  tokens : List Token

/-- The starts of tags that handles stand for. -/
abbrev Handles := List (String × String)

/-- The handles of every document. -/
def standardHandles : Handles := [("!", "!"), ("!!", "tag:yaml.org,2002:")]

/-- The full form of a tag; `none` if its handle stands for nothing. -/
def fullTag (handles : Handles) (handle suffix : String) : Option String :=
  if handle = "" then some suffix else (handles.lookup handle).map (· ++ suffix)

/-- The properties in front of a node, at most one anchor and one tag in either
    order, and the tokens after them. -/
def properties (handles : Handles) : List Token → Option (Properties × List Token)
  | ⟨.anchor a, _, _⟩ :: ⟨.tag h s, _, _⟩ :: rest
  | ⟨.tag h s, _, _⟩ :: ⟨.anchor a, _, _⟩ :: rest =>
    (fullTag handles h s).map fun t => (⟨some a, some t⟩, rest)
  | ⟨.anchor a, _, _⟩ :: rest => some (⟨some a, none⟩, rest)
  | ⟨.tag h s, _, _⟩ :: rest => (fullTag handles h s).map fun t => (⟨none, some t⟩, rest)
  | rest => some (⟨none, none⟩, rest)

/-- The collection that a token opens, with the goals inside it. -/
def opened (block : Bool) (pos : Position) (ps : Properties) : Lexeme → Option (Event × List Goal)
  | .flowSequenceStart => some (.sequenceStart pos ps, [.flowItem true])
  | .flowMappingStart => some (.mappingStart pos ps, [.flowKey true])
  | .blockSequenceStart => if block then some (.sequenceStart pos ps, [.blockItem]) else none
  | .blockMappingStart => if block then some (.mappingStart pos ps, [.blockKey]) else none
  | _ => none

/-- Reaches a node. A node starts where its properties do, and keeps the tag that it
    has. A lone exclamation mark is kept like any other, in front of a scalar that is
    written out, plain or quoted, as well as of one that is left out: it is a tag of
    the author's own, and `! 5` is told of as `TaggedValue { tag: !!, value: Number(5) }`. -/
def nodeMove (handles : Handles) (block indentless : Bool) (tokens : List Token) : Option Move :=
  match tokens with
  | ⟨.alias name, pos, _⟩ :: rest => some ⟨some (.alias pos name), [], rest⟩
  | first :: _ =>
    match properties handles tokens with
    | some (ps, ⟨lexeme, start, stop⟩ :: rest) =>
      -- A sequence at the column of its key has no token that opens or closes it.
      if indentless && lexeme = .blockEntry then
        some ⟨some (.sequenceStart first.start ps), [.indentlessItem], ⟨lexeme, start, stop⟩ :: rest⟩
      else
        match lexeme, opened block first.start ps lexeme with
        | .scalar plain text, _ => some ⟨some (.scalar first.start ps plain text), [], rest⟩
        | _, some (event, goals) => some ⟨some event, goals, rest⟩
        | _, none =>
          -- Properties alone stand in front of a scalar that is left out.
          if ps = ⟨none, none⟩ then none
          else some ⟨some (.scalar first.start ps true ""), [], ⟨lexeme, start, stop⟩ :: rest⟩
    | _ => none
  | [] => none

/-- Reaches a node if none of the lexemes `absent` stands in front; otherwise the
    node is missing at `pos`. -/
def nodeUnless (absent : List Lexeme) (node : Goal) (pos : Position) (goals : List Goal) :
    List Token → Option Move
  | [] => none
  | t :: rest =>
    if absent.contains t.lexeme then some ⟨some (missing pos), goals, t :: rest⟩
    else some ⟨none, node :: goals, t :: rest⟩

/-- The start of the next token. -/
def nextStart (tokens : List Token) (otherwise : Position) : Position :=
  match tokens with
  | t :: _ => t.start
  | [] => otherwise

/-- Reaches the item of a flow sequence that starts here. -/
def flowItemMove : List Token → Option Move
  | ⟨.key, pos, _⟩ :: rest =>
    some ⟨some (.mappingStart pos ⟨none, none⟩), [.pairKey, .flowItem false], rest⟩
  | ⟨.flowSequenceEnd, _, _⟩ :: rest => some ⟨some .close, [], rest⟩
  | t :: rest => some ⟨none, [.node false false, .flowItem false], t :: rest⟩
  | [] => none

/-- Reaches the key of a flow mapping that starts here. -/
def flowKeyMove : List Token → Option Move
  | ⟨.key, _, stop⟩ :: rest =>
    nodeUnless [.value, .flowEntry, .flowMappingEnd] (.node false false) (nextStart rest stop)
      [.flowValue, .flowKey false] rest
  | ⟨.flowMappingEnd, _, _⟩ :: rest => some ⟨some .close, [], rest⟩
  | t :: rest => some ⟨none, [.node false false, .flowNoValue, .flowKey false], t :: rest⟩
  | [] => none

/-- Reaches a goal. -/
def move (handles : Handles) : Goal → List Token → Option Move
  | _, [] => none
  | .node block indentless, tokens => nodeMove handles block indentless tokens
  | .blockItem, t :: rest =>
    match t.lexeme with
    | .blockEntry =>
      nodeUnless [.blockEntry, .blockEnd] (.node true false) t.stop [.blockItem] rest
    | .blockEnd => some ⟨some .close, [], rest⟩
    | _ => none
  | .indentlessItem, t :: rest =>
    match t.lexeme with
    | .blockEntry =>
      nodeUnless [.blockEntry, .key, .value, .blockEnd] (.node true false) t.stop
        [.indentlessItem] rest
    | _ => some ⟨some .close, [], t :: rest⟩
  | .blockKey, t :: rest =>
    match t.lexeme with
    | .key =>
      nodeUnless [.key, .value, .blockEnd] (.node true true) t.stop [.blockValue, .blockKey] rest
    | .blockEnd => some ⟨some .close, [], rest⟩
    | _ => none
  | .blockValue, t :: rest =>
    match t.lexeme with
    | .value => nodeUnless [.key, .value, .blockEnd] (.node true true) t.stop [] rest
    | _ => some ⟨some (missing t.start), [], t :: rest⟩
  | .flowItem first, t :: rest =>
    match first, t.lexeme with
    | true, _ => flowItemMove (t :: rest)
    | false, .flowSequenceEnd => some ⟨some .close, [], rest⟩
    | false, .flowEntry => flowItemMove rest
    | false, _ => none
  | .pairKey, t :: rest =>
    match t.lexeme with
    -- The token that shows that the key is missing is taken for it.
    | .value | .flowEntry | .flowSequenceEnd =>
      some ⟨some (missing t.stop), [.pairValue, .pairEnd], rest⟩
    | _ => some ⟨none, [.node false false, .pairValue, .pairEnd], t :: rest⟩
  | .pairValue, t :: rest =>
    match t.lexeme with
    | .value =>
      nodeUnless [.flowEntry, .flowSequenceEnd] (.node false false) (nextStart rest t.stop) [] rest
    | _ => some ⟨some (missing t.start), [], t :: rest⟩
  | .pairEnd, tokens => some ⟨some .close, [], tokens⟩
  | .flowKey first, t :: rest =>
    match first, t.lexeme with
    | true, _ => flowKeyMove (t :: rest)
    | false, .flowMappingEnd => some ⟨some .close, [], rest⟩
    | false, .flowEntry => flowKeyMove rest
    | false, _ => none
  | .flowValue, t :: rest =>
    match t.lexeme with
    | .value =>
      nodeUnless [.flowEntry, .flowMappingEnd] (.node false false) (nextStart rest t.stop) [] rest
    | _ => some ⟨some (missing t.start), [], t :: rest⟩
  | .flowNoValue, t :: rest => some ⟨some (missing t.start), [], t :: rest⟩

/-- The events on the way to the goals, as far as the tokens lead, in reverse before
    `events`; with the tokens that are left if all goals are reached. -/
def reach (handles : Handles) :
    Nat → List Goal → List Token → List Event → List Event × Option (List Token)
  | _, [], tokens, events => (events, some tokens)
  | 0, _ :: _, _, events => (events, none)
  | fuel + 1, goal :: goals, tokens, events =>
    match move handles goal tokens with
    | none => (events, none)
    | some m =>
      reach handles fuel (m.goals ++ goals) m.tokens
        (match m.event with
          | some e => e :: events
          | none => events)

/-- The directives in front of a document: one version at most, which is 1.1 or
    1.2, and each handle once. -/
def directives : Bool → Handles → List Token → Option (Handles × List Token)
  | versioned, handles, ⟨.version major minor, _, _⟩ :: rest =>
    if !versioned && major = 1 && (minor = 1 || minor = 2) then directives true handles rest
    else none
  | versioned, handles, ⟨.tagHandle handle start, _, _⟩ :: rest =>
    if (handles.lookup handle).isSome then none
    else directives versioned ((handle, start) :: handles) rest
  | _, handles, rest => some (handles, rest)

end Event

/-- How the first document of a text ends. -/
inductive Ending where
  /-- There is no document. -/
  | void
  /-- The document is whole; `more` if another one seems to follow. -/
  | whole (more : Bool)
  /-- The text is malformed at the end of the events. -/
  | malformed
  deriving DecidableEq, Repr

namespace Event

/-- Whether something follows a document whose end has been seen. -/
def hasMore (tokens : List Token) : Bool :=
  match tokens.dropWhile (·.lexeme = .documentEnd) with
  | ⟨.textEnd, _, _⟩ :: _ => false
  | _ => true

/-- The events of a document whose content starts with the tokens. -/
def ofContent (handles : Handles) (tokens : List Token) : List Event × Ending :=
  let (events, left) := reach handles (16 * (tokens.length + 2)) [.node true false] tokens []
  match left with
  | some (t :: rest) => (events.reverse, .whole (hasMore (t :: rest)))
  | _ => (events.reverse, .malformed)

/-- The events of the first document. The content may be missing after an explicit
    start only. -/
def ofTokens : List Token → List Event × Ending
  | [] => ([], .malformed)
  | t :: rest =>
    match t.lexeme with
    | .textEnd => ([], .void)
    | .version .. | .tagHandle .. | .documentStart =>
      match directives false [] (t :: rest) with
      | some (handles, ⟨.documentStart, _, _⟩ :: content) =>
        match content with
        | [] => ([], .malformed)
        | first :: _ =>
          match first.lexeme with
          | .version .. | .tagHandle .. | .documentStart | .documentEnd | .textEnd =>
            ([missing first.start], .whole (hasMore content))
          | _ => ofContent (handles ++ standardHandles) content
      | _ => ([], .malformed)
    | _ => ofContent standardHandles (t :: rest)

end Event

end TemplateCatalog.Yaml
