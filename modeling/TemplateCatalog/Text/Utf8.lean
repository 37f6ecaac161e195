/-!
# UTF-8

Names on disk and contents of files are bytes; everything that is shown is
text. `encode` writes a text as bytes. `decode?` reads bytes strictly and fails
on any that are not UTF-8; `decodeLossy` never fails and writes the replacement
character for every ill-formed piece.

An ill-formed piece is as long as possible: the bytes that begin some character
are taken together up to the first byte that cannot continue it, so a character
cut short at the end of the text gives one replacement character, not one for
each of its bytes.
-/

namespace TemplateCatalog.Text

/-- What stands at the front of a byte sequence, with the bytes after it: a
    character, or an ill-formed piece (`none`). -/
abbrev Piece (r : List UInt8) := Option Char × { s : List UInt8 // s.length ≤ r.length }

/-- Whether `b` lies between `lo` and `hi`. -/
def between (lo hi b : UInt8) : Bool := lo ≤ b && b ≤ hi

/-- Whether `b` may continue a character. -/
def isTail (b : UInt8) : Bool := between 0x80 0xBF b

/-- The six low bits of a continuation byte. -/
def tailBits (b : UInt8) : Nat := b.toNat % 64

/-- The bounds of the second byte of a character of three bytes that starts with
    `a`: no overlong form and no surrogate. -/
def secondOfThree (a : UInt8) : UInt8 × UInt8 :=
  if a = 0xE0 then (0xA0, 0xBF) else if a = 0xED then (0x80, 0x9F) else (0x80, 0xBF)

/-- The bounds of the second byte of a character of four bytes that starts with
    `a`: no overlong form and nothing above U+10FFFF. -/
def secondOfFour (a : UInt8) : UInt8 × UInt8 :=
  if a = 0xF0 then (0x90, 0xBF) else if a = 0xF4 then (0x80, 0x8F) else (0x80, 0xBF)

/-- The first piece of `a :: r`. -/
def firstPiece (a : UInt8) (r : List UInt8) : Piece r :=
  if a < 0x80 then (some (Char.ofNat a.toNat), ⟨r, Nat.le_refl _⟩)
  else if between 0xC2 0xDF a then
    match r with
    | b :: r₁ =>
      if isTail b then
        (some (Char.ofNat (a.toNat % 32 * 64 + tailBits b)), ⟨r₁, Nat.le_succ _⟩)
      else (none, ⟨b :: r₁, Nat.le_refl _⟩)
    | [] => (none, ⟨[], Nat.le_refl _⟩)
  else if between 0xE0 0xEF a then
    match r with
    | b :: r₁ =>
      if between (secondOfThree a).1 (secondOfThree a).2 b then
        match r₁ with
        | c :: r₂ =>
          if isTail c then
            (some (Char.ofNat (a.toNat % 16 * 4096 + tailBits b * 64 + tailBits c)),
              ⟨r₂, by simp only [List.length_cons]; omega⟩)
          else (none, ⟨c :: r₂, by simp⟩)
        | [] => (none, ⟨[], by simp⟩)
      else (none, ⟨b :: r₁, Nat.le_refl _⟩)
    | [] => (none, ⟨[], Nat.le_refl _⟩)
  else if between 0xF0 0xF4 a then
    match r with
    | b :: r₁ =>
      if between (secondOfFour a).1 (secondOfFour a).2 b then
        match r₁ with
        | c :: r₂ =>
          if isTail c then
            match r₂ with
            | d :: r₃ =>
              if isTail d then
                (some (Char.ofNat (a.toNat % 8 * 262144 + tailBits b * 4096 + tailBits c * 64
                  + tailBits d)), ⟨r₃, by simp only [List.length_cons]; omega⟩)
              else (none, ⟨d :: r₃, by simp only [List.length_cons]; omega⟩)
            | [] => (none, ⟨[], by simp⟩)
          else (none, ⟨c :: r₂, by simp⟩)
        | [] => (none, ⟨[], by simp⟩)
      else (none, ⟨b :: r₁, Nat.le_refl _⟩)
    | [] => (none, ⟨[], Nat.le_refl _⟩)
  else (none, ⟨r, Nat.le_refl _⟩)

/-- The pieces of a byte sequence, in order: characters, and `none` for each
    ill-formed piece. -/
def pieces : List UInt8 → List (Option Char)
  | [] => []
  | a :: r =>
    (firstPiece a r).1 :: pieces (firstPiece a r).2.1
termination_by bytes => bytes.length
decreasing_by
  have := (firstPiece a r).2.2
  simp only [List.length_cons]
  omega

/-- The bytes of a text. -/
def encode (s : String) : List UInt8 := s.toList.flatMap String.utf8EncodeChar

/-- The text of a byte sequence, if all of it is UTF-8. -/
def decode? (bytes : List UInt8) : Option String :=
  ((pieces bytes).mapM id).map String.ofList

/-- The text of a byte sequence, with U+FFFD for every ill-formed piece. -/
def decodeLossy (bytes : List UInt8) : String :=
  String.ofList ((pieces bytes).map (·.getD '\uFFFD'))

end TemplateCatalog.Text
