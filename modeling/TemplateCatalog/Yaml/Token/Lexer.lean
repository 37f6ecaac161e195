import TemplateCatalog.Text.Utf8
import TemplateCatalog.Yaml.Token
import TemplateCatalog.Yaml.Token.Scalar

/-!
# Cutting a document into tokens

A lexer goes over a text token by token and turns indentation into tokens that
open and close blocks. A key without an indicator is recognised only by the
colon after it, so where a key may start the lexer notes a *candidate*; when the
colon comes, the tokens that announce a key go in front of the tokens read since.
A candidate must end on its line and within 1024 characters.

`Token.ofText` gives the tokens of a text and whether the text is well-formed to
its end. If it is not, the tokens stop at the place up to which the structure is
certain: before the first candidate that is still open.
-/

namespace TemplateCatalog.Yaml

open Decimal

/-- A place at which a key may have started. -/
structure Candidate where
  /-- The number of tokens before it. -/
  number : Nat
  pos : Position
  /-- Whether the structure demands that a key starts there. -/
  required : Bool

/-- The state of a lexer between two tokens. -/
structure Lexer where
  cursor : Cursor
  /-- The column of the innermost block; `-1` outside all blocks. -/
  indent : Int
  /-- The columns of the blocks around it. -/
  indents : List Int
  /-- The candidate of the innermost flow collection, or of the block if there is
      none. -/
  candidate : Option Candidate
  /-- The candidates of the collections around it. -/
  outer : List (Option Candidate)
  /-- Whether a key may start here. -/
  keyAllowed : Bool
  /-- The tokens so far, in reverse, and their number. -/
  tokens : List Token
  count : Nat
  ended : Bool

namespace Lexer

/-- The lexer before the first token of a text. -/
def start (cs : List Char) : Lexer :=
  ⟨⟨cs, .start⟩, -1, [], none, [], true, [], 0, false⟩

/-- Whether the lexer is inside a flow collection. -/
def inFlow (l : Lexer) : Bool := !l.outer.isEmpty

/-- The place of the lexer. -/
def pos (l : Lexer) : Position := l.cursor.pos

/-- Appends a token. -/
def push (l : Lexer) (lexeme : Lexeme) (start stop : Position) : Lexer :=
  { l with tokens := ⟨lexeme, start, stop⟩ :: l.tokens, count := l.count + 1 }

/-- Puts a token that starts at `pos` in front of all but the first `number`
    tokens. -/
def insert (l : Lexer) (number : Nat) (lexeme : Lexeme) (pos : Position) : Lexer :=
  let after := l.count - number
  { l with
    tokens := l.tokens.take after ++ ⟨lexeme, pos, pos⟩ :: l.tokens.drop after
    count := l.count + 1 }

/-- Appends the token of an indicator of `n` characters and goes over it. -/
def indicator (l : Lexer) (lexeme : Lexeme) (n : Nat) : Lexer :=
  { l.push lexeme l.pos (l.pos.right n) with cursor := l.cursor.right n }

/-- Gives up the candidate; fails if a key is demanded there. -/
def dropCandidate (l : Lexer) : Option Lexer :=
  match l.candidate with
  | some k => if k.required then none else some { l with candidate := none }
  | none => some l

/-- Notes a candidate here, if a key may start here. -/
def noteCandidate (l : Lexer) : Option Lexer :=
  if l.keyAllowed then
    l.dropCandidate.map fun l =>
      { l with
        candidate := some ⟨l.count, l.pos, !l.inFlow && l.indent = (l.pos.column : Int)⟩ }
  else some l

/-- Whether a candidate can no longer become a key. -/
def isStale (l : Lexer) (k : Candidate) : Bool :=
  k.pos.line < l.pos.line || k.pos.index + 1024 < l.pos.index

/-- A candidate if it can still become a key; fails if a key is demanded at one
    that cannot. -/
def refresh (l : Lexer) : Option Candidate → Option (Option Candidate)
  | some k => if l.isStale k then (if k.required then none else some none) else some (some k)
  | none => some none

/-- Gives up every candidate that can no longer become a key. -/
def dropStale (l : Lexer) : Option Lexer :=
  match l.refresh l.candidate, l.outer.mapM l.refresh with
  | some k, some ks => some { l with candidate := k, outer := ks }
  | _, _ => none

/-- Opens a block at a column to the right of the innermost one. The token goes
    behind the first `number` tokens. -/
def openBlock (l : Lexer) (number : Nat) (lexeme : Lexeme) (pos : Position) : Lexer :=
  if !l.inFlow && l.indent < (pos.column : Int) then
    { l.insert number lexeme pos with indent := pos.column, indents := l.indent :: l.indents }
  else l

/-- Closes the blocks to the right of a column, of which there are at most as many
    as `indents`. -/
def closeBlocksFrom (column : Int) : List Int → Lexer → Lexer
  | [], l => l
  | outer :: rest, l =>
    if column < l.indent then
      closeBlocksFrom column rest
        { l.push .blockEnd l.pos l.pos with indent := outer, indents := rest }
    else l

/-- Closes the blocks to the right of a column. -/
def closeBlocks (column : Int) (l : Lexer) : Lexer :=
  if l.inFlow then l else closeBlocksFrom column l.indents l

/-- Goes over blanks, comments and line ends. A key may start on a new line of a
    block, and after a byte order mark only blanks have been passed. -/
def skipGap (inFlow : Bool) : Bool → Bool → List Char → Position → Bool × Cursor
  | allowed, _, [], p => (allowed, ⟨[], p⟩)
  | allowed, comment, c :: rest, p =>
    if isBreak c then skipGap inFlow (allowed || !inFlow) false rest (p.after c rest)
    -- Where a key may start in a block, a tab is no blank.
    else if comment || c = ' ' || (c = '\t' && (inFlow || !allowed))
        || (c = '\uFEFF' && p.column = 0) then
      skipGap inFlow allowed comment rest (p.right 1)
    else if c = '#' then skipGap inFlow allowed true rest (p.right 1)
    else (allowed, ⟨c :: rest, p⟩)

/-- Goes to the start of the next token. -/
def toNext (l : Lexer) : Lexer :=
  let (allowed, cursor) := skipGap l.inFlow l.keyAllowed false l.cursor.rest l.cursor.pos
  { l with keyAllowed := allowed, cursor := cursor }

/-- Ends the document that the lexer is in: all blocks are closed and no key may
    start. -/
def leaveDocument (l : Lexer) : Option Lexer :=
  (l.closeBlocks (-1)).dropCandidate.map fun l => { l with keyAllowed := false }

/-- The end of the text, which counts as the start of a line. -/
def endText (l : Lexer) : Option Lexer :=
  let p := l.pos
  let p := if p.column = 0 then p else ⟨p.index, p.line + 1, 0⟩
  let l := { l with cursor := ⟨[], p⟩ }
  l.leaveDocument.map fun l => { l.push .textEnd p p with ended := true }

/-- A number of up to nine digits, with the cursor after it. -/
def number? (c : Cursor) : Option (Nat × Cursor) :=
  let (digits, c) := c.span isDecimalDigit
  if digits.length ≤ 9 then (nat? 10 digits).map fun n => (n, c) else none

/-- The handle of a tag: between exclamation marks, or the first of them alone. -/
def handle? (c : Cursor) : Option (List Char × Cursor) :=
  match c.rest with
  | '!' :: _ =>
    let (word, after) := (c.right 1).span isWordChar
    match after.rest with
    | '!' :: _ => some ('!' :: word ++ ['!'], after.right 1)
    | _ => some ('!' :: word, after)
  | _ => none

/-- Whether `c` may stand in a tag as it is; some indicators of flow collections
    only where the tag is enclosed. -/
def isTagChar (enclosed : Bool) (c : Char) : Bool :=
  isWordChar c || ";/?:@&=+$.%!~*'()".toList.contains c || (enclosed && ",[]".toList.contains c)

/-- The number of bytes of the character that starts with the byte `b`; zero if
    none does. -/
def escapeWidth (b : Nat) : Nat :=
  if b < 0x80 then 1 else if b < 0xC0 then 0 else if b < 0xE0 then 2
  else if b < 0xF0 then 3 else if b < 0xF8 then 4 else 0

/-- The bytes of a tag: escapes of two hexadecimal digits after a percent sign
    stand for bytes, and the bytes of one character are escaped together. The first
    argument is the number of bytes that the character still lacks. -/
def tagBytes : Nat → List Char → Option (List UInt8)
  | 0, [] => some []
  | _ + 1, [] => none
  | left, '%' :: a :: b :: rest =>
    match nat? 16 [a, b] with
    | none => none
    | some n =>
      let bytes := if left = 0 then escapeWidth n else left
      if bytes = 0 || (left != 0 && n / 64 != 2) then none
      else (tagBytes (bytes - 1) rest).map (UInt8.ofNat n :: ·)
  | 0, c :: rest => if c = '%' then none else (tagBytes 0 rest).map (Text.encode (String.singleton c) ++ ·)
  | _ + 1, _ :: _ => none

/-- The part of a tag that follows `before`; not empty unless `before` is given. -/
def tagText? (enclosed : Bool) (before : List Char) (c : Cursor) : Option (String × Cursor) :=
  let (cs, c) := c.span (isTagChar enclosed)
  if cs.isEmpty && before.isEmpty then none
  else
    (tagBytes 0 cs).map fun bytes =>
      (String.ofList (before.drop 1) ++ Text.decodeLossy bytes, c)

/-- The directive `%YAML`. -/
def version? (c : Cursor) : Option (Lexeme × Cursor) := do
  let (major, c) ← number? c.skipSpaces
  guard (c.rest.head? = some '.')
  let (minor, c) ← number? (c.right 1)
  return (.version major minor, c)

/-- The directive `%TAG`. -/
def tagHandle? (c : Cursor) : Option (Lexeme × Cursor) := do
  let (handle, c) ← handle? c.skipSpaces
  guard (handle = ['!'] || (1 < handle.length && handle.getLast? = some '!'))
  guard (c.rest.head?.any isSpace)
  let (start, c) ← tagText? true [] c.skipSpaces
  guard (atGap c.rest)
  return (.tagHandle (String.ofList handle) start, c)

/-- A directive, at its percent sign. -/
def directive (l : Lexer) : Option Lexer := do
  let l ← l.leaveDocument
  let (name, c) := (l.cursor.right 1).span isWordChar
  guard (atGap c.rest)
  let (lexeme, c) ← match String.ofList name with
    | "YAML" => version? c
    | "TAG" => tagHandle? c
    | _ => none
  let stop := c.pos
  let c := c.skipSpaces.skipComment
  guard (atLineEnd c.rest)
  return { l.push lexeme l.pos stop with cursor := c.skipBreak }

/-- A marker that starts or ends a document. -/
def documentMarker (l : Lexer) (lexeme : Lexeme) : Option Lexer :=
  l.leaveDocument.map fun l => l.indicator lexeme 3

/-- The start of a flow collection, at which a key may start as well. -/
def flowStart (l : Lexer) (lexeme : Lexeme) : Option Lexer := do
  let l ← l.noteCandidate
  -- The whole collection may be a key, so its candidate waits until it ends.
  return { l with candidate := none, outer := l.candidate :: l.outer, keyAllowed := true }.indicator
    lexeme 1

/-- The end of a flow collection. -/
def flowEnd (l : Lexer) (lexeme : Lexeme) : Option Lexer := do
  let l ← l.dropCandidate
  let l := match l.outer with
    | k :: ks => { l with candidate := k, outer := ks }
    | [] => l
  return { l with keyAllowed := false }.indicator lexeme 1

/-- The comma between two items of a flow collection. -/
def flowEntry (l : Lexer) : Option Lexer := do
  let l ← l.dropCandidate
  return { l with keyAllowed := true }.indicator .flowEntry 1

/-- The dash before an item of a block. -/
def blockEntry (l : Lexer) : Option Lexer := do
  guard (l.inFlow || l.keyAllowed)
  let l ← (l.openBlock l.count .blockSequenceStart l.pos).dropCandidate
  return { l with keyAllowed := true }.indicator .blockEntry 1

/-- The question mark before a key. -/
def key (l : Lexer) : Option Lexer := do
  guard (l.inFlow || l.keyAllowed)
  let l ← (l.openBlock l.count .blockMappingStart l.pos).dropCandidate
  return { l with keyAllowed := !l.inFlow }.indicator .key 1

/-- The colon before a value. If there is a candidate, it was a key. -/
def value (l : Lexer) : Option Lexer :=
  match l.candidate with
  | some k =>
    -- Put at the same place, the start of a block comes in front of its first key.
    let l := (l.insert k.number .key k.pos).openBlock k.number .blockMappingStart k.pos
    some ({ l with candidate := none, keyAllowed := false }.indicator .value 1)
  | none => do
    guard (l.inFlow || l.keyAllowed)
    let l := l.openBlock l.count .blockMappingStart l.pos
    return { l with keyAllowed := !l.inFlow }.indicator .value 1

/-- Appends a token that ends at `stop` and goes on at `next`. -/
def finish (l : Lexer) (lexeme : Lexeme) (stop : Position) (next : Cursor) : Lexer :=
  { l.push lexeme l.pos stop with cursor := next }

/-- Whether a name of an anchor may end before a text. -/
def endsName : List Char → Bool
  | [] => true
  | c :: _ => isSpace c || isBreak c || "?:,]\x7d%@\x60".toList.contains c

/-- An anchor or an alias, at its indicator. -/
def name (l : Lexer) (lexeme : String → Lexeme) : Option Lexer := do
  let l ← l.noteCandidate
  let (cs, c) := (l.cursor.right 1).span isWordChar
  guard (!cs.isEmpty && endsName c.rest)
  return { l with keyAllowed := false }.finish (lexeme (String.ofList cs)) c.pos c

/-- The handle and the suffix of a tag, at its exclamation mark. -/
def tag? (c : Cursor) : Option ((String × String) × Cursor) := do
  if (c.rest.drop 1).head? = some '<' then
    let (suffix, c) ← tagText? true [] (c.right 2)
    guard (c.rest.head? = some '>')
    return (("", suffix), c.right 1)
  let (handle, c) ← handle? c
  if 1 < handle.length && handle.getLast? = some '!' then
    let (suffix, c) ← tagText? false [] c
    return ((String.ofList handle, suffix), c)
  let (suffix, c) ← tagText? false handle c
  return (if suffix.isEmpty then ("", "!") else ("!", suffix), c)

/-- A tag, at its exclamation mark. -/
def tag (l : Lexer) : Option Lexer := do
  let l ← l.noteCandidate
  let ((handle, suffix), c) ← tag? l.cursor
  guard (atGap c.rest || (l.inFlow && c.rest.head? = some ','))
  return { l with keyAllowed := false }.finish (.tag handle suffix) c.pos c

/-- A block, at its indicator. -/
def block (l : Lexer) (literal : Bool) : Option Lexer := do
  let l ← l.dropCandidate
  let r ← blockScalar literal l.indent (l.cursor.right 1)
  return { l with keyAllowed := true }.finish (.scalar false r.text) r.stop r.next

/-- A quoted text, at its quote. -/
def quoted (l : Lexer) (quote : Char) : Option Lexer := do
  let l ← l.noteCandidate
  let c := l.cursor.right 1
  let r ← quotedText quote .direct c.rest c.pos [] .empty
  return { l with keyAllowed := false }.finish (.scalar false r.text) r.stop r.next

/-- A plain text. A key may start after it if a line has ended. -/
def plain (l : Lexer) : Option Lexer := do
  let l ← l.noteCandidate
  let r ← plainText l.inFlow (l.indent + 1) l.cursor.rest l.pos [] .empty l.pos
  return { l with keyAllowed := r.crossed }.finish (.scalar true r.text) r.stop r.next

/-- Whether a plain text may start with `c` before `rest`. -/
def startsPlain (inFlow : Bool) (c : Char) (rest : List Char) : Bool :=
  !"\t-?:,[]\x7b\x7d#&*!|>'\x22%@\x60".toList.contains c
    || (c = '-' && !(rest.head?.any isSpace))
    || (!inFlow && (c = '?' || c = ':') && !atGap rest)

/-- Reads the token that starts here. -/
def token (l : Lexer) : Option Lexer :=
  match l.cursor.rest with
  | [] => l.endText
  | c :: rest =>
    let atStart := l.pos.column = 0
    if atStart && c = '%' then l.directive
    else if atStart && isMarker '-' (c :: rest) then l.documentMarker .documentStart
    else if atStart && isMarker '.' (c :: rest) then l.documentMarker .documentEnd
    else if c = '[' then l.flowStart .flowSequenceStart
    else if c = '\x7b' then l.flowStart .flowMappingStart
    else if c = ']' then l.flowEnd .flowSequenceEnd
    else if c = '\x7d' then l.flowEnd .flowMappingEnd
    else if c = ',' then l.flowEntry
    else if c = '-' && atGap rest then l.blockEntry
    else if c = '?' && (l.inFlow || atGap rest) then l.key
    else if c = ':' && (l.inFlow || atGap rest) then l.value
    else if c = '*' then l.name .alias
    else if c = '&' then l.name .anchor
    else if c = '!' then l.tag
    else if c = '|' && !l.inFlow then l.block true
    else if c = '>' && !l.inFlow then l.block false
    else if c = '\'' || c = '\x22' then l.quoted c
    else if startsPlain l.inFlow c rest then l.plain
    else none

/-- Whether a text that goes on after the readable part is still readable at a
    place that needs `n` characters. -/
def canSee (whole : Bool) (n : Nat) (l : Lexer) : Bool :=
  whole || n ≤ (l.cursor.rest.take n).length

/-- Goes to the next token and reads it, looking four characters ahead. -/
def step (whole : Bool) (l : Lexer) : Option Lexer := do
  let l := l.toNext
  let l ← l.dropStale
  guard (l.canSee whole 4)
  let l ← (l.closeBlocks l.pos.column).token
  guard (l.canSee whole 1)
  l.dropStale

/-- The number of tokens whose structure is certain: those before every
    candidate. -/
def certain (l : Lexer) : Nat :=
  (l.candidate :: l.outer).foldl (fun n k => match k with
    | some k => min n k.number
    | none => n) l.count

/-- Reads tokens to the end of the text. Every token takes a character, so the
    fuel of one more step than there are characters suffices. -/
def run (whole : Bool) : Nat → Lexer → List Token × Bool
  | 0, l => (l.tokens.reverse.take l.certain, false)
  | fuel + 1, l =>
    match l.step whole with
    | none => (l.tokens.reverse.take l.certain, false)
    | some l => if l.ended then (l.tokens.reverse, true) else run whole fuel l

end Lexer

/-- The tokens of a text up to its end or as far as they are certain, and whether
    the text is well-formed to its end. -/
def Token.ofText (text : List Char) : List Token × Bool :=
  let (cs, whole) := readable text
  Lexer.run whole (cs.length + 1) (.start cs)

end TemplateCatalog.Yaml
