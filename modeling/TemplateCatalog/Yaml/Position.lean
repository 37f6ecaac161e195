/-!
# Places in a document

The characters of a document that the markup sets apart, and the position of a
place in it. Lines and columns count from zero; a line ends at any of five
characters, of which a carriage return before a line feed is one break with it.
-/

namespace TemplateCatalog.Yaml

/-- Whether `c` ends a line. -/
def isBreak (c : Char) : Bool :=
  c = '\n' || c = '\r' || c = '\u0085' || c = '\u2028' || c = '\u2029'

/-- Whether `c` is a blank inside a line. -/
def isSpace (c : Char) : Bool := c = ' ' || c = '\t'

/-- Whether `c` may stand in the name of an anchor or of a tag handle. -/
def isWordChar (c : Char) : Bool :=
  ('0' ≤ c && c ≤ '9') || ('A' ≤ c && c ≤ 'Z') || ('a' ≤ c && c ≤ 'z') || c = '_' || c = '-'

/-- Whether the next character is a blank or ends a line, or the text ends. -/
def atGap : List Char → Bool
  | [] => true
  | c :: _ => isSpace c || isBreak c

/-- Whether the text ends or a line does. -/
def atLineEnd : List Char → Bool
  | [] => true
  | c :: _ => isBreak c

/-- Whether a carriage return stands before a line feed. -/
def isSplitBreak (c : Char) (rest : List Char) : Bool := c = '\r' && rest.head? = some '\n'

/-- What a line break contributes to a text: a line feed, unless it separates
    lines or paragraphs. -/
def breakText (c : Char) : Char := if c = '\u2028' || c = '\u2029' then c else '\n'

/-- A place in a document. -/
structure Position where
  /-- The number of characters before it. -/
  index : Nat
  line : Nat
  column : Nat
  deriving DecidableEq, Repr, Inhabited

/-- The first place. -/
def Position.start : Position := ⟨0, 0, 0⟩

/-- The place after `n` characters that do not end a line. -/
def Position.right (p : Position) (n : Nat) : Position := ⟨p.index + n, p.line, p.column + n⟩

/-- The place after the character `c` that stands before `rest`. -/
def Position.after (p : Position) (c : Char) (rest : List Char) : Position :=
  if isSplitBreak c rest then ⟨p.index + 1, p.line, p.column⟩
  else if isBreak c then ⟨p.index + 1, p.line + 1, 0⟩
  else p.right 1

/-- A place together with the text from there on. -/
structure Cursor where
  rest : List Char
  pos : Position

namespace Cursor

/-- Goes over `n` characters that do not end a line. -/
def right (c : Cursor) (n : Nat) : Cursor := ⟨c.rest.drop n, c.pos.right n⟩

/-- The characters in front that satisfy `p`, none of which ends a line, and the
    cursor after them. -/
def span (c : Cursor) (p : Char → Bool) : List Char × Cursor :=
  let cs := c.rest.takeWhile p
  (cs, c.right cs.length)

/-- Goes over blanks. -/
def skipSpaces (c : Cursor) : Cursor := (c.span isSpace).2

/-- Goes over one line break, if there is one. -/
def skipBreak (c : Cursor) : Cursor :=
  match c.rest with
  | '\r' :: '\n' :: rest => ⟨rest, ⟨c.pos.index + 2, c.pos.line + 1, 0⟩⟩
  | ch :: rest => if isBreak ch then ⟨rest, c.pos.after ch rest⟩ else c
  | [] => c

/-- Goes over a comment, if one starts here. -/
def skipComment (c : Cursor) : Cursor :=
  match c.rest with
  | '#' :: _ => (c.span fun ch => !isBreak ch).2
  | _ => c

end Cursor

/-- Whether a text starts with a line that marks the start of a document (`-`) or
    its end (`.`). -/
def isMarker (mark : Char) : List Char → Bool
  | a :: b :: c :: rest => a = mark && b = mark && c = mark && atGap rest
  | _ => false

/-- Whether a document marker stands at `p`. -/
def atMarker (p : Position) (cs : List Char) : Bool :=
  p.column = 0 && (isMarker '-' cs || isMarker '.' cs)

/-- Whether a character may stand in a document at all. -/
def isAllowed (c : Char) : Bool :=
  c = '\t' || c = '\n' || c = '\r' || (' ' ≤ c && c ≤ '~') || c = '\u0085'
    || ('\u00a0' ≤ c && c ≤ '\uFFFD') || 0x10000 ≤ c.toNat

/-- The bytes of text that are examined at a time for characters that are not
    allowed. -/
def blockSize : Nat := 16384

/-- The blocks of whole characters before the first block that holds a character
    that is not allowed; with `true` if there is no such block. The first
    arguments are the size of the current block and the characters, in reverse,
    of that block and of those before it. -/
def readableFrom : Nat → List Char → List Char → List Char → List Char × Bool
  | _, block, done, [] => ((block ++ done).reverse, true)
  | used, block, done, c :: cs =>
    let n := c.utf8Size
    if used + n ≤ blockSize then
      if isAllowed c then readableFrom (used + n) (c :: block) done cs else (done.reverse, false)
    else if isAllowed c then readableFrom n [c] (block ++ done) cs
    else ((block ++ done).reverse, false)

/-- The part of a text that can be read, and whether it is all of it. -/
def readable (cs : List Char) : List Char × Bool :=
  if cs.all isAllowed then (cs, true) else readableFrom 0 [] [] cs

end TemplateCatalog.Yaml
