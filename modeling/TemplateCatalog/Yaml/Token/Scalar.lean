import TemplateCatalog.Yaml.Position
import TemplateCatalog.Decimal.Numeral

/-!
# Scalar tokens

The texts that tokens carry: plain, between quotes, and in blocks. In the first
two, blanks and line breaks between two pieces of text are folded: blanks on a
line stand for themselves, a single break stands for a blank, and of several
breaks the first is dropped. A block keeps its breaks or folds those between two
lines of text, and its header says what becomes of the breaks at its end.

Every reader goes over its text once, character by character, with what it has
read so far in reverse.
-/

namespace TemplateCatalog.Yaml

open Decimal

/-- What has been passed since the last piece of text. -/
structure Gap where
  /-- Whether a line has ended. -/
  crossed : Bool
  /-- The blanks since the text, while no line has ended, in reverse. -/
  blanks : List Char
  /-- The first break; none if that one was escaped. -/
  first : List Char
  /-- The breaks after the first, in reverse. -/
  more : List Char

namespace Gap

/-- No gap. -/
def empty : Gap := ⟨false, [], [], []⟩

/-- Whether nothing has been passed. -/
def isEmpty (g : Gap) : Bool := !g.crossed && g.blanks.isEmpty

/-- A gap and one more blank. -/
def blank (g : Gap) (c : Char) : Gap := if g.crossed then g else { g with blanks := c :: g.blanks }

/-- A gap and one more line break. -/
def cross (g : Gap) (c : Char) : Gap :=
  if g.crossed then { g with more := breakText c :: g.more } else ⟨true, [], [breakText c], []⟩

/-- The text that a gap stands for, in reverse. -/
def folded (g : Gap) : List Char :=
  if g.crossed then
    if g.first = ['\n'] then (if g.more.isEmpty then [' '] else g.more) else g.more ++ g.first
  else g.blanks

end Gap

/-- A text that has been read, with the cursor after it. -/
structure Reading where
  text : String
  /-- Where the text itself ends. -/
  stop : Position
  /-- The cursor after the text and the gap that follows it. -/
  next : Cursor
  /-- Whether a line has ended since the text. -/
  crossed : Bool

/-- Whether `c` separates or encloses the items of a flow collection. -/
def isFlowIndicator (c : Char) : Bool := c = ',' || c = '[' || c = ']' || c = '\x7b' || c = '\x7d'

/-- Whether the next character separates or encloses flow items, or is a question
    mark. -/
def atFlowIndicator : List Char → Bool
  | [] => false
  | c :: _ => isFlowIndicator c || c = '?'

/-- Reads a plain text whose continuation lines start at the column `indent` or
    after it. It ends before a comment, a document marker, a value indicator, and
    in a flow collection before what ends an item. -/
def plainText (inFlow : Bool) (indent : Int) :
    List Char → Position → List Char → Gap → Position → Option Reading
  | [], p, text, gap, stop => some ⟨.ofList text.reverse, stop, ⟨[], p⟩, gap.crossed⟩
  | c :: rest, p, text, gap, stop =>
    if isSpace c then
      -- A tab does not indent.
      if gap.crossed && c = '\t' && p.column < indent then none
      else plainText inFlow indent rest (p.right 1) text (gap.blank c) stop
    else if isSplitBreak c rest then
      plainText inFlow indent rest (p.after c rest) text gap stop
    else if isBreak c then
      plainText inFlow indent rest (p.after c rest) text (gap.cross c) stop
    else if !gap.isEmpty && ((!inFlow && p.column < indent) || atMarker p (c :: rest) || c = '#') then
      some ⟨.ofList text.reverse, stop, ⟨c :: rest, p⟩, gap.crossed⟩
    else if inFlow && c = ':' && atFlowIndicator rest then none
    else if (c = ':' && atGap rest) || (inFlow && isFlowIndicator c) then
      some ⟨.ofList text.reverse, stop, ⟨c :: rest, p⟩, gap.crossed⟩
    else
      plainText inFlow indent rest (p.right 1) (c :: (gap.folded ++ text)) .empty (p.right 1)

/-- How the next character of a quoted text is taken. -/
inductive Quoting where
  | direct
  /-- After a quote that is followed by another one. -/
  | doubled
  /-- After a backslash. -/
  | escaped
  /-- Inside an escape that has `left` more hexadecimal digits. -/
  | numeric (left value : Nat)

/-- The character that an escape of one letter stands for. -/
def escapedChar : Char → Option Char
  | '0' => some '\x00'
  | 'a' => some '\x07'
  | 'b' => some '\x08'
  | 't' => some '\t'
  | '\t' => some '\t'
  | 'n' => some '\n'
  | 'v' => some '\x0b'
  | 'f' => some '\x0c'
  | 'r' => some '\r'
  | 'e' => some '\x1b'
  | ' ' => some ' '
  | '\x22' => some '\x22'
  | '/' => some '/'
  | '\\' => some '\\'
  | 'N' => some '\u0085'
  | '_' => some '\u00a0'
  | 'L' => some '\u2028'
  | 'P' => some '\u2029'
  | _ => none

/-- The number of hexadecimal digits after the letter of an escape. -/
def escapedDigits : Char → Option Nat
  | 'x' => some 2
  | 'u' => some 4
  | 'U' => some 8
  | _ => none

/-- The character of a code point that is one. -/
def charOf (n : Nat) : Option Char :=
  if n < 0xD800 || (0xDFFF < n && n < 0x110000) then some (Char.ofNat n) else none

/-- Reads a text up to its closing quote. -/
def quotedText (quote : Char) :
    Quoting → List Char → Position → List Char → Gap → Option Reading
  | _, [], _, _, _ => none
  | .direct, c :: rest, p, text, gap =>
    if isSpace c then quotedText quote .direct rest (p.right 1) text (gap.blank c)
    else if isSplitBreak c rest then quotedText quote .direct rest (p.after c rest) text gap
    else if isBreak c then quotedText quote .direct rest (p.after c rest) text (gap.cross c)
    else if atMarker p (c :: rest) then none
    else
      let text := gap.folded ++ text
      if c = quote then
        if quote = '\'' && rest.head? = some quote then
          quotedText quote .doubled rest (p.right 1) text .empty
        else some ⟨.ofList text.reverse, p.right 1, ⟨rest, p.right 1⟩, false⟩
      else if c = '\\' && quote = '\x22' then
        quotedText quote .escaped rest (p.right 1) text .empty
      else quotedText quote .direct rest (p.right 1) (c :: text) .empty
  | .doubled, c :: rest, p, text, gap => quotedText quote .direct rest (p.right 1) (c :: text) gap
  | .escaped, c :: rest, p, text, gap =>
    if isSplitBreak c rest then quotedText quote .escaped rest (p.after c rest) text gap
    else if isBreak c then
      -- An escaped break stands for nothing, and so do the blanks after it.
      quotedText quote .direct rest (p.after c rest) text ⟨true, [], [], []⟩
    else
      match escapedChar c, escapedDigits c with
      | some e, _ => quotedText quote .direct rest (p.right 1) (e :: text) gap
      | none, some n => quotedText quote (.numeric n 0) rest (p.right 1) text gap
      | none, none => none
  | .numeric left value, c :: rest, p, text, gap =>
    match digitIn 16 c with
    | none => none
    | some d =>
      if 1 < left then quotedText quote (.numeric (left - 1) (value * 16 + d)) rest (p.right 1) text gap
      else
        match charOf (value * 16 + d) with
        | some e => quotedText quote .direct rest (p.right 1) (e :: text) gap
        | none => none

/-- What becomes of the breaks at the end of a block. -/
inductive Chomping where
  | strip
  | clip
  | keep
  deriving DecidableEq

/-- The header of a block. -/
structure BlockHeader where
  /-- Whether breaks are kept as they are. -/
  literal : Bool
  chomping : Chomping
  /-- The columns of indentation that the header asks for. -/
  increment : Option Nat

/-- The chomping that a character of a header asks for. -/
def chompingOf : Char → Option Chomping
  | '-' => some .strip
  | '+' => some .keep
  | _ => none

/-- The indentation that a character of a header asks for. -/
def incrementOf (c : Char) : Option Nat :=
  if '1' ≤ c && c ≤ '9' then some (c.toNat - '0'.toNat) else none

/-- Reads the header of a block after its indicator: chomping and indentation in
    either order. -/
def blockHeader (literal : Bool) (c : Cursor) : BlockHeader × Cursor :=
  match c.rest with
  | a :: r =>
    match chompingOf a, incrementOf a with
    | some k, _ =>
      match r.head?.bind incrementOf with
      | some n => (⟨literal, k, some n⟩, c.right 2)
      | none => (⟨literal, k, none⟩, c.right 1)
    | none, some n =>
      match r.head?.bind chompingOf with
      | some k => (⟨literal, k, some n⟩, c.right 2)
      | none => (⟨literal, .clip, some n⟩, c.right 1)
    | none, none => (⟨literal, .clip, none⟩, c)
  | [] => (⟨literal, .clip, none⟩, c)

/-- What has been read of a block. -/
structure BlockState where
  /-- The text up to the last line, in reverse. -/
  text : List Char
  /-- The break that ended the last line of text, and the breaks after it, in
      reverse. -/
  ended : List Char
  more : List Char
  /-- Whether the last line of text starts with a blank. -/
  blankStart : Bool
  /-- The column at which lines start, once it is known. -/
  indent : Option Nat
  /-- The greatest column at which a line started so far. -/
  widest : Nat

/-- Whether a column lies within the indentation. -/
def BlockState.indenting (s : BlockState) (column : Nat) : Bool :=
  match s.indent with
  | none => true
  | some n => column < n

/-- The column at which the lines of a block start, inside a block at `outer`. -/
def BlockState.column (outer : Int) (s : BlockState) : Nat :=
  match s.indent with
  | some n => n
  | none => max s.widest (max (outer + 1).toNat 1)

/-- Starts a line of text whose first character is a blank or not. In a folded
    block a single break between two lines that do not start with a blank is a
    blank, and the first of several is dropped. -/
def BlockState.startLine (literal blankFirst : Bool) (s : BlockState) : BlockState :=
  let joined :=
    if !literal && s.ended = ['\n'] && !s.blankStart && !blankFirst then
      if s.more.isEmpty then [' '] else []
    else s.ended
  { s with text := s.more ++ (joined ++ s.text), ended := [], more := [], blankStart := blankFirst }

/-- The text of a block that has ended. -/
def BlockState.finish (chomping : Chomping) (s : BlockState) : String :=
  let text := if chomping = .strip then s.text else s.ended ++ s.text
  .ofList (if chomping = .keep then s.more ++ text else text).reverse

/-- Reads the lines of a block; `inLine` inside a line of text. -/
def blockText (h : BlockHeader) (outer : Int) :
    Bool → List Char → Position → BlockState → Option Reading
  | _, [], p, s => some ⟨s.finish h.chomping, p, ⟨[], p⟩, false⟩
  | true, c :: rest, p, s =>
    if isSplitBreak c rest then blockText h outer true rest (p.after c rest) s
    else if isBreak c then
      blockText h outer false rest (p.after c rest) { s with ended := [breakText c] }
    else blockText h outer true rest (p.right 1) { s with text := c :: s.text }
  | false, c :: rest, p, s =>
    if s.indenting p.column && c = ' ' then blockText h outer false rest (p.right 1) s
    else
      let s := { s with widest := max s.widest p.column }
      if s.indenting p.column && c = '\t' then none
      else if isSplitBreak c rest then blockText h outer false rest (p.after c rest) s
      else if isBreak c then
        blockText h outer false rest (p.after c rest) { s with more := breakText c :: s.more }
      else
        let column := s.column outer
        let s := { s with indent := some column }
        if p.column = column then
          let s := s.startLine h.literal (isSpace c)
          blockText h outer true rest (p.right 1) { s with text := c :: s.text }
        else some ⟨s.finish h.chomping, p, ⟨c :: rest, p⟩, false⟩

/-- Reads a block after its indicator, inside a block at the column `outer`. -/
def blockScalar (literal : Bool) (outer : Int) (c : Cursor) : Option Reading :=
  let (header, c) := blockHeader literal c
  let c := c.skipSpaces.skipComment
  if atLineEnd c.rest then
    let c := c.skipBreak
    let indent := header.increment.map fun n => if 0 ≤ outer then outer.toNat + n else n
    blockText header outer false c.rest c.pos ⟨[], [], [], false, indent, 0⟩
  else none

end TemplateCatalog.Yaml
