import TemplateCatalog.Text.Utf8

/-!
# Laws of UTF-8

Reading undoes writing, and only writing gives what can be read strictly: a text has one
form as bytes, with no other way to write any of its characters. Both follow from the
four forms of a character (`Form`), which are what the reader accepts (`firstPiece_iff`)
and what the writer makes (`form_iff`).

* `decode?_eq_some`: bytes are read as a text exactly if they are that text, written;
* `decodeLossy_encode`: lossy reading loses nothing of what was written;
* `mem_of_mem_decodeLossy`: a character is only read where it was written, so a separator
  in a name as it is shown is one in its bytes;
* `encode_lt_encode`: texts are in the same order as their bytes;
* `isText_append_cons_iff`: bytes on both sides of a separator are texts if all of them are one.
-/

namespace TemplateCatalog.Text

/-- The bytes start with a character, before the rest `r`: one form for each length. -/
inductive Form : List UInt8 → Char → List UInt8 → Prop
  | one {a : UInt8} {r : List UInt8} (ha : a.toNat < 0x80) :
    Form (a :: r) (Char.ofNat a.toNat) r
  | two {a b : UInt8} {r : List UInt8} (ha : between 0xC2 0xDF a = true)
    (hb : isTail b = true) :
    Form (a :: b :: r) (Char.ofNat (a.toNat % 32 * 64 + tailBits b)) r
  | three {a b c : UInt8} {r : List UInt8} (ha : between 0xE0 0xEF a = true)
    (hb : between (secondOfThree a).1 (secondOfThree a).2 b = true) (hc : isTail c = true) :
    Form (a :: b :: c :: r)
      (Char.ofNat (a.toNat % 16 * 4096 + tailBits b * 64 + tailBits c)) r
  | four {a b c d : UInt8} {r : List UInt8} (ha : between 0xF0 0xF4 a = true)
    (hb : between (secondOfFour a).1 (secondOfFour a).2 b = true) (hc : isTail c = true)
    (hd : isTail d = true) :
    Form (a :: b :: c :: d :: r)
      (Char.ofNat (a.toNat % 8 * 262144 + tailBits b * 4096 + tailBits c * 64 + tailBits d)) r

/-- Bounds on a byte are bounds on its number. -/
theorem between_iff {lo hi b : UInt8} :
    between lo hi b = true ↔ lo.toNat ≤ b.toNat ∧ b.toNat ≤ hi.toNat := by
  simp only [between, Bool.and_eq_true, decide_eq_true_eq, UInt8.le_iff_toNat_le]

theorem isTail_iff {b : UInt8} : isTail b = true ↔ 0x80 ≤ b.toNat ∧ b.toNat ≤ 0xBF :=
  between_iff

/-- The first byte of a longer form is none of the first form. -/
theorem not_ascii {lo hi a : UInt8} (h : between lo hi a = true) (hlo : 0x80 ≤ lo) :
    ¬ a < 0x80 := by
  simp only [between, Bool.and_eq_true, decide_eq_true_eq] at h
  exact UInt8.not_lt.2 (UInt8.le_trans hlo h.1)

/-- A byte within bounds is not within lower ones. -/
theorem not_between {lo hi lo' hi' a : UInt8} (h : between lo hi a = true) (hlo : hi' < lo) :
    between lo' hi' a = false := by
  simp only [between, Bool.and_eq_true, decide_eq_true_eq, Bool.and_eq_false_iff,
    decide_eq_false_iff_not, UInt8.not_le] at h ⊢
  exact .inr (UInt8.lt_of_lt_of_le hlo h.1)

/-! ## Reading -/

/-- The branches of the reader that give a character are the forms. -/
theorem form_of_firstPiece {a : UInt8} {r : List UInt8} {c : Char} {s : List UInt8}
    (hc : (firstPiece a r).1 = some c) (hs : (firstPiece a r).2.1 = s) : Form (a :: r) c s := by
  fun_cases firstPiece a r
  all_goals simp only [firstPiece, *, if_true, if_false, reduceCtorEq, Option.some.injEq,
    Bool.false_eq_true] at hc hs
  case case1 ha => exact hc ▸ hs ▸ .one (UInt8.lt_iff_toNat_lt.1 ha)
  case case2 ha b r₁ hb => exact hc ▸ hs ▸ .two ha hb
  case case5 ha b hb c r₂ htail => exact hc ▸ hs ▸ .three ha hb htail
  case case10 ha b hb c htail d r₃ hd => exact hc ▸ hs ▸ .four ha hb htail hd

/-- Each form takes the reader to its branch, for the bounds on the first byte tell them apart. -/
theorem firstPiece_of_form {a : UInt8} {r : List UInt8} {c : Char} {s : List UInt8}
    (h : Form (a :: r) c s) : (firstPiece a r).1 = some c ∧ (firstPiece a r).2.1 = s := by
  cases h with
  | one ha => simp [firstPiece, UInt8.lt_iff_toNat_lt, ha]
  | two ha hb => simp [firstPiece, not_ascii ha (by decide), ha, hb]
  | three ha hb hc =>
    simp [firstPiece, not_ascii ha (by decide), not_between ha (by decide : (0xDF : UInt8) < 0xE0), ha,
      hb, hc]
  | four ha hb hc hd =>
    simp [firstPiece, not_ascii ha (by decide), not_between ha (by decide : (0xDF : UInt8) < 0xF0),
      not_between ha (by decide : (0xEF : UInt8) < 0xF0), ha, hb, hc, hd]

/-- The first piece is a character exactly if the bytes start with one of the forms. -/
theorem firstPiece_iff {a : UInt8} {r : List UInt8} {c : Char} {s : List UInt8} :
    (firstPiece a r).1 = some c ∧ (firstPiece a r).2.1 = s ↔ Form (a :: r) c s :=
  ⟨fun h => form_of_firstPiece h.1 h.2, firstPiece_of_form⟩

/-! ## Writing -/

/-- The second byte of a character of three continues it, and avoids overlong forms and
    surrogates. -/
theorem secondOfThree_iff {a b : UInt8} :
    between (secondOfThree a).1 (secondOfThree a).2 b = true ↔
      0x80 ≤ b.toNat ∧ b.toNat ≤ 0xBF ∧ (a.toNat = 0xE0 → 0xA0 ≤ b.toNat) ∧
        (a.toNat = 0xED → b.toNat ≤ 0x9F) := by
  simp only [between_iff, secondOfThree, ← UInt8.toNat_inj, UInt8.reduceToNat]
  split
  · simp only [UInt8.reduceToNat]
    omega
  split <;> simp only [UInt8.reduceToNat] <;> omega

/-- The second byte of a character of four continues it, and avoids overlong forms and
    what is no code point. -/
theorem secondOfFour_iff {a b : UInt8} :
    between (secondOfFour a).1 (secondOfFour a).2 b = true ↔
      0x80 ≤ b.toNat ∧ b.toNat ≤ 0xBF ∧ (a.toNat = 0xF0 → 0x90 ≤ b.toNat) ∧
        (a.toNat = 0xF4 → b.toNat ≤ 0x8F) := by
  simp only [between_iff, secondOfFour, ← UInt8.toNat_inj, UInt8.reduceToNat]
  split
  · simp only [UInt8.reduceToNat]
    omega
  split <;> simp only [UInt8.reduceToNat] <;> omega

/-- The code point of a character made from a number that is one. -/
theorem toNat_ofNat {n : Nat} (h : n.isValidChar) : (Char.ofNat n).val.toNat = n := by
  rw [Char.ofNat, dif_pos h]
  rfl

/-- The byte of a number that a byte has. -/
theorem byte_eq {a : UInt8} {n : Nat} (h : n = a.toNat) : UInt8.ofNat n = a := by
  rw [h, UInt8.ofNat_toNat]

/-- The bytes of a form are those that are written of its character. -/
theorem Form.eq_append {bs : List UInt8} {c : Char} {r : List UInt8} (h : Form bs c r) :
    bs = String.utf8EncodeChar c ++ r := by
  cases h with
  | @one a r ha =>
    rw [String.utf8EncodeChar, toNat_ofNat (.inl (by omega)), if_pos (by omega)]
    rw [byte_eq rfl, List.singleton_append]
  | @two a b r ha hb =>
    simp only [between_iff, UInt8.reduceToNat] at ha
    rw [isTail_iff] at hb
    simp only [tailBits]
    rw [String.utf8EncodeChar, toNat_ofNat (.inl (by omega)), if_neg (by omega),
      if_pos (by omega)]
    rw [byte_eq (a := a) (by omega), byte_eq (a := b) (by omega)]
    rfl
  | @three a b c r ha hb hc =>
    simp only [between_iff, UInt8.reduceToNat] at ha
    rw [secondOfThree_iff] at hb
    rw [isTail_iff] at hc
    simp only [tailBits]
    -- No surrogate, by the bounds on the second byte.
    have hv : (a.toNat % 16 * 4096 + b.toNat % 64 * 64 + c.toNat % 64).isValidChar := by
      rw [Nat.isValidChar]
      omega
    rw [String.utf8EncodeChar, toNat_ofNat hv, if_neg (by omega), if_neg (by omega),
      if_pos (by omega)]
    rw [byte_eq (a := a) (by omega), byte_eq (a := b) (by omega), byte_eq (a := c) (by omega)]
    rfl
  | @four a b c d r ha hb hc hd =>
    simp only [between_iff, UInt8.reduceToNat] at ha
    rw [secondOfFour_iff] at hb
    rw [isTail_iff] at hc hd
    simp only [tailBits]
    -- A code point, by the bounds on the second byte.
    have hv : (a.toNat % 8 * 262144 + b.toNat % 64 * 4096 + c.toNat % 64 * 64
        + d.toNat % 64).isValidChar := by
      rw [Nat.isValidChar]
      omega
    rw [String.utf8EncodeChar, toNat_ofNat hv, if_neg (by omega), if_neg (by omega),
      if_neg (by omega)]
    rw [byte_eq (a := a) (by omega), byte_eq (a := b) (by omega), byte_eq (a := c) (by omega),
      byte_eq (a := d) (by omega)]
    rfl

/-- The number of a byte that is made from a number. -/
theorem byte_toNat {n : Nat} (h : n < 256) : (UInt8.ofNat n).toNat = n :=
  UInt8.toNat_ofNat_of_lt' h

/-- What is written of a character has a form of it. -/
theorem form_utf8EncodeChar (c : Char) (r : List UInt8) :
    Form (String.utf8EncodeChar c ++ r) c r := by
  have hv : c.val.toNat.isValidChar := c.valid
  have hc : Char.ofNat c.val.toNat = c := Char.ofNat_toNat c
  rw [String.utf8EncodeChar, ← hc, toNat_ofNat hv]
  generalize c.val.toNat = v at hv
  rw [Nat.isValidChar] at hv
  -- One case for each length. The digits of the number are put together again at the end.
  split
  · next h =>
    have ha := byte_toNat (n := v) (by omega)
    have := Form.one (a := UInt8.ofNat v) (r := r) (by omega)
    rwa [ha] at this
  split
  · next h₁ h₂ =>
    have ha := byte_toNat (n := v / 64 % 0x20 + 0xc0) (by omega)
    have hb := byte_toNat (n := v % 0x40 + 0x80) (by omega)
    have := Form.two (r := r) (between_iff.2 (by rw [ha]; simp only [UInt8.reduceToNat]; omega))
      (isTail_iff.2 (by rw [hb]; omega))
    rw [tailBits, ha, hb] at this
    rwa [show (v / 64 % 0x20 + 0xc0) % 32 * 64 + (v % 0x40 + 0x80) % 64 = v by omega] at this
  split
  · next h₁ h₂ h₃ =>
    have ha := byte_toNat (n := v / 4096 % 0x10 + 0xe0) (by omega)
    have hb := byte_toNat (n := v / 64 % 0x40 + 0x80) (by omega)
    have hc := byte_toNat (n := v % 0x40 + 0x80) (by omega)
    have := Form.three (b := UInt8.ofNat (v / 64 % 0x40 + 0x80)) (r := r)
      (between_iff.2 (by rw [ha]; simp only [UInt8.reduceToNat]; omega))
      (secondOfThree_iff.2 (by rw [ha, hb]; omega)) (isTail_iff.2 (by rw [hc]; omega))
    rw [tailBits, tailBits, ha, hb, hc] at this
    rwa [show (v / 4096 % 0x10 + 0xe0) % 16 * 4096 + (v / 64 % 0x40 + 0x80) % 64 * 64
      + (v % 0x40 + 0x80) % 64 = v by omega] at this
  · next h₁ h₂ h₃ =>
    have ha := byte_toNat (n := v / 262144 % 0x08 + 0xf0) (by omega)
    have hb := byte_toNat (n := v / 4096 % 0x40 + 0x80) (by omega)
    have hc := byte_toNat (n := v / 64 % 0x40 + 0x80) (by omega)
    have hd := byte_toNat (n := v % 0x40 + 0x80) (by omega)
    have := Form.four (b := UInt8.ofNat (v / 4096 % 0x40 + 0x80)) (r := r)
      (between_iff.2 (by rw [ha]; simp only [UInt8.reduceToNat]; omega))
      (secondOfFour_iff.2 (by rw [ha, hb]; omega)) (isTail_iff.2 (by rw [hc]; omega))
      (isTail_iff.2 (by rw [hd]; omega))
    rw [tailBits, tailBits, tailBits, ha, hb, hc, hd] at this
    rwa [show (v / 262144 % 0x08 + 0xf0) % 8 * 262144 + (v / 4096 % 0x40 + 0x80) % 64 * 4096
      + (v / 64 % 0x40 + 0x80) % 64 * 64 + (v % 0x40 + 0x80) % 64 = v by omega] at this

/-- What is written of a character are the bytes of a form of it, and only they are. -/
theorem form_iff {bs : List UInt8} {c : Char} {r : List UInt8} :
    Form bs c r ↔ bs = String.utf8EncodeChar c ++ r :=
  ⟨Form.eq_append, fun h => h ▸ form_utf8EncodeChar c r⟩

/-! ## Texts and pieces -/

theorem pieces_nil : pieces [] = [] := by rw [pieces]

theorem pieces_cons (a : UInt8) (r : List UInt8) :
    pieces (a :: r) = (firstPiece a r).1 :: pieces (firstPiece a r).2.1 := by rw [pieces]

/-- The pieces of bytes that start with a character. -/
theorem pieces_utf8EncodeChar_append (c : Char) (r : List UInt8) :
    pieces (String.utf8EncodeChar c ++ r) = some c :: pieces r := by
  have h := form_utf8EncodeChar c r
  generalize String.utf8EncodeChar c ++ r = bytes at h
  cases bytes with
  | nil => cases h
  | cons a s =>
    obtain ⟨hc, hr⟩ := firstPiece_iff.2 h
    rw [pieces_cons, hc, hr]

/-- The pieces of a text are its characters. -/
theorem pieces_encode (s : String) : pieces (encode s) = s.toList.map some := by
  rw [encode]
  induction s.toList with
  | nil => exact pieces_nil
  | cons c l ih => rw [List.flatMap_cons, pieces_utf8EncodeChar_append, ih, List.map_cons]

/-- Bytes without ill-formed pieces are their characters, written. -/
theorem eq_flatMap_of_pieces {bytes : List UInt8} {cs : List Char}
    (h : pieces bytes = cs.map some) : bytes = cs.flatMap String.utf8EncodeChar := by
  induction cs generalizing bytes with
  | nil =>
    cases bytes with
    | nil => rfl
    | cons a r => rw [pieces_cons] at h; cases h
  | cons c cs ih =>
    cases bytes with
    | nil => rw [pieces_nil] at h; cases h
    | cons a r =>
      rw [pieces_cons, List.map_cons, List.cons.injEq] at h
      rw [(firstPiece_iff.1 ⟨h.1, rfl⟩).eq_append, List.flatMap_cons, ih h.2]

/-- A list of options that all have a value is the list of the values. -/
theorem mapM_id_eq_some {α : Type} {l : List (Option α)} {as : List α} :
    l.mapM id = some as ↔ l = as.map some := by
  induction l generalizing as with
  | nil => cases as <;> simp
  | cons o l ih =>
    rw [List.mapM_cons]
    cases o with
    | none => cases as <;> simp
    | some a =>
      cases hl : l.mapM id with
      | none =>
        have hne : ∀ bs : List α, l ≠ bs.map some := fun bs h => by simp [ih.2 h] at hl
        cases as <;> simp [hne]
      | some bs =>
        rw [ih] at hl
        subst hl
        cases as <;> simp [List.map_inj_right]

/-- Bytes are read as a text exactly if they are that text, written. -/
theorem decode?_eq_some {bytes : List UInt8} {s : String} :
    decode? bytes = some s ↔ encode s = bytes := by
  rw [decode?]
  constructor
  · intro h
    obtain ⟨cs, hcs, rfl⟩ := Option.map_eq_some_iff.1 h
    rw [encode, String.toList_ofList]
    exact (eq_flatMap_of_pieces (mapM_id_eq_some.1 hcs)).symm
  · rintro rfl
    rw [mapM_id_eq_some.2 (pieces_encode s), Option.map_some, String.ofList_toList]

/-- Lossy reading loses nothing of what was written. -/
@[simp] theorem decodeLossy_encode (s : String) : decodeLossy (encode s) = s := by
  rw [decodeLossy, pieces_encode, List.map_map]
  exact (congrArg String.ofList (List.map_id _)).trans String.ofList_toList

/-- Texts that are written alike are the same. -/
theorem encode_inj {s t : String} : encode s = encode t ↔ s = t := by
  constructor
  · intro h
    rw [← decodeLossy_encode s, h, decodeLossy_encode]
  · rintro rfl
    rfl

/-- A byte of ASCII is only written for the character that it is. -/
theorem mem_of_mem_encode {b : UInt8} {s : String} (hb : b.toNat < 0x80) (h : b ∈ encode s) :
    Char.ofNat b.toNat ∈ s.toList := by
  obtain ⟨c, hc, hbc⟩ := List.mem_flatMap.1 h
  have hform := form_utf8EncodeChar c []
  rw [List.append_nil] at hform
  generalize String.utf8EncodeChar c = bytes at hform hbc
  -- A longer form has bytes above ASCII only.
  cases hform with
  | one ha =>
    obtain rfl := List.mem_singleton.1 hbc
    exact hc
  | two ha hb' =>
    simp only [between_iff, isTail_iff, UInt8.reduceToNat] at ha hb'
    simp only [List.mem_cons, List.not_mem_nil, or_false] at hbc
    rcases hbc with rfl | rfl <;> omega
  | three ha hb' hc' =>
    simp only [between_iff, isTail_iff, UInt8.reduceToNat] at ha hc'
    rw [secondOfThree_iff] at hb'
    simp only [List.mem_cons, List.not_mem_nil, or_false] at hbc
    rcases hbc with rfl | rfl | rfl <;> omega
  | four ha hb' hc' hd =>
    simp only [between_iff, isTail_iff, UInt8.reduceToNat] at ha hc' hd
    rw [secondOfFour_iff] at hb'
    simp only [List.mem_cons, List.not_mem_nil, or_false] at hbc
    rcases hbc with rfl | rfl | rfl | rfl <;> omega

/-- What follows the first piece is an end of the bytes. -/
theorem firstPiece_suffix (a : UInt8) (r : List UInt8) : (firstPiece a r).2.1 <:+ r := by
  unfold firstPiece
  repeat' split
  all_goals simp [List.suffix_cons_iff]

/-- A character that is read was written. -/
theorem utf8EncodeChar_subset {bytes : List UInt8} {c : Char} (h : some c ∈ pieces bytes) :
    String.utf8EncodeChar c ⊆ bytes := by
  induction bytes using pieces.induct with
  | case1 => rw [pieces_nil] at h; cases h
  | case2 a r ih =>
    rw [pieces_cons] at h
    rcases List.mem_cons.1 h with h | h
    · -- The first piece is the character: its bytes come first.
      rw [(firstPiece_iff.1 ⟨h.symm, rfl⟩).eq_append]
      exact List.subset_append_left _ _
    · have hsub := (firstPiece_suffix a r).subset
      exact fun b hb => List.mem_cons_of_mem a (hsub (ih h hb))

/-- A character that is shown was written, unless it is the replacement character. -/
theorem mem_of_mem_decodeLossy {bytes : List UInt8} {c : Char}
    (h : c ∈ (decodeLossy bytes).toList) (hc : c ≠ '\uFFFD') :
    String.utf8EncodeChar c ⊆ bytes := by
  rw [decodeLossy, String.toList_ofList] at h
  obtain ⟨p, hp, rfl⟩ := List.mem_map.1 h
  cases p with
  | none => exact absurd rfl hc
  | some c => exact utf8EncodeChar_subset hp

/-- What is shown without a replacement character is all that was written. -/
theorem encode_decodeLossy {bytes : List UInt8} (h : '\uFFFD' ∉ (decodeLossy bytes).toList) :
    encode (decodeLossy bytes) = bytes := by
  rw [decodeLossy, String.toList_ofList] at h
  have hpieces : pieces bytes = ((pieces bytes).map (·.getD '\uFFFD')).map some := by
    rw [List.map_map]
    refine (List.map_id _).symm.trans (List.map_congr_left fun p hp => ?_)
    cases p with
    | none => exact absurd (List.mem_map.2 ⟨none, hp, rfl⟩) h
    | some c => rfl
  rw [encode, decodeLossy, String.toList_ofList]
  exact (eq_flatMap_of_pieces hpieces).symm

/-- Something is shown for every name but the empty one. -/
theorem decodeLossy_eq_empty {bytes : List UInt8} : decodeLossy bytes = "" ↔ bytes = [] := by
  rw [decodeLossy, String.ofList_eq_empty_iff, List.map_eq_nil_iff]
  cases bytes with
  | nil => simp [pieces_nil]
  | cons a r => simp [pieces_cons]

/-! ## Order -/

/-- Bytes are in order if the first of them are, and the others wherever the first are
    equal. -/
theorem cons_lt_cons {m n : Nat} {r s : List UInt8} (hn : n < 256) (hle : m ≤ n)
    (h : m = n → r < s) : UInt8.ofNat m :: r < UInt8.ofNat n :: s := by
  rcases Nat.lt_or_eq_of_le hle with hlt | heq
  · refine List.cons_lt_cons_iff.2 (.inl ?_)
    rw [UInt8.lt_iff_toNat_lt, byte_toNat (by omega), byte_toNat hn]
    exact hlt
  · exact List.cons_lt_cons_iff.2 (.inr ⟨congrArg UInt8.ofNat heq, h heq⟩)

/-- What is written of a smaller character comes first, whatever follows. -/
theorem utf8EncodeChar_append_lt {c d : Char} (h : c < d) (r s : List UInt8) :
    String.utf8EncodeChar c ++ r < String.utf8EncodeChar d ++ s := by
  have h : c.val.toNat < d.val.toNat := h
  have hd : d.val.toNat.isValidChar := d.valid
  rw [String.utf8EncodeChar, String.utf8EncodeChar]
  generalize c.val.toNat = v at h
  generalize d.val.toNat = w at h hd
  rw [Nat.isValidChar] at hd
  -- Of two forms the longer one begins with the greater byte; within a form the digits decide,
  -- the first in which the numbers differ.
  split
  · split
    · exact cons_lt_cons (by omega) (by omega) fun _ => by omega
    split
    · exact cons_lt_cons (by omega) (by omega) fun _ => by omega
    split
    · exact cons_lt_cons (by omega) (by omega) fun _ => by omega
    · exact cons_lt_cons (by omega) (by omega) fun _ => by omega
  split
  · rw [if_neg (by omega)]
    split
    · refine cons_lt_cons (by omega) (by omega) fun _ => ?_
      exact cons_lt_cons (by omega) (by omega) fun _ => by omega
    split
    · exact cons_lt_cons (by omega) (by omega) fun _ => by omega
    · exact cons_lt_cons (by omega) (by omega) fun _ => by omega
  split
  · rw [if_neg (by omega), if_neg (by omega)]
    split
    · refine cons_lt_cons (by omega) (by omega) fun _ => ?_
      refine cons_lt_cons (by omega) (by omega) fun _ => ?_
      exact cons_lt_cons (by omega) (by omega) fun _ => by omega
    · exact cons_lt_cons (by omega) (by omega) fun _ => by omega
  · rw [if_neg (by omega), if_neg (by omega), if_neg (by omega)]
    refine cons_lt_cons (by omega) (by omega) fun _ => ?_
    refine cons_lt_cons (by omega) (by omega) fun _ => ?_
    refine cons_lt_cons (by omega) (by omega) fun _ => ?_
    exact cons_lt_cons (by omega) (by omega) fun _ => by omega

/-- The order of texts by their characters is the order of their bytes. -/
theorem encode_lt_encode {a b : String} (h : a < b) : encode a < encode b := by
  have h : a.toList < b.toList := h
  rw [encode, encode]
  generalize a.toList = l at h
  generalize b.toList = m at h
  induction l generalizing m with
  | nil =>
    cases m with
    | nil => exact absurd h (List.not_lt_nil _)
    | cons d m =>
      rw [List.flatMap_nil, List.flatMap_cons]
      cases hform : String.utf8EncodeChar d ++ m.flatMap String.utf8EncodeChar with
      | nil => exact absurd (form_iff.2 hform.symm) nofun
      | cons x bytes => exact List.nil_lt_cons _ _
  | cons c l ih =>
    cases m with
    | nil => exact absurd h (List.not_lt_nil _)
    | cons d m =>
      rw [List.flatMap_cons, List.flatMap_cons]
      rcases List.cons_lt_cons_iff.1 h with hlt | ⟨rfl, hlt⟩
      · exact utf8EncodeChar_append_lt hlt _ _
      · exact List.append_left_lt (ih m hlt)

/-! ## Bytes that are texts -/

/-- Bytes are a text. -/
def IsText (bytes : List UInt8) : Prop := ∃ s, encode s = bytes

theorem isText_encode (s : String) : IsText (encode s) := ⟨s, rfl⟩

theorem isSome_decode?_iff {bytes : List UInt8} : (decode? bytes).isSome = true ↔ IsText bytes := by
  rw [Option.isSome_iff_exists]
  exact exists_congr fun s => decode?_eq_some

instance : DecidablePred IsText := fun _ => decidable_of_iff _ isSome_decode?_iff

/-- Texts that are written one after the other are a text. -/
theorem IsText.append {a b : List UInt8} (ha : IsText a) (hb : IsText b) : IsText (a ++ b) := by
  obtain ⟨s, rfl⟩ := ha
  obtain ⟨t, rfl⟩ := hb
  refine ⟨s ++ t, ?_⟩
  rw [encode, String.toList_append, List.flatMap_append]
  rfl

theorem isText_utf8EncodeChar (c : Char) : IsText (String.utf8EncodeChar c) :=
  ⟨String.ofList [c], by rw [encode, String.toList_ofList, List.flatMap_singleton]⟩

/-- A byte of ASCII is a character by itself. -/
theorem utf8EncodeChar_ofNat {b : UInt8} (hb : b.toNat < 0x80) :
    String.utf8EncodeChar (Char.ofNat b.toNat) = [b] := by
  have h := form_iff.1 (Form.one (r := []) hb)
  rw [List.append_nil] at h
  exact h.symm

/-- Bytes on both sides of a byte of ASCII are texts exactly if all of them are one. -/
theorem isText_append_cons_iff {a b : List UInt8} {x : UInt8} (hx : x.toNat < 0x80) :
    IsText (a ++ x :: b) ↔ IsText a ∧ IsText b := by
  have hascii : IsText [x] := utf8EncodeChar_ofNat hx ▸ isText_utf8EncodeChar _
  constructor
  · rintro ⟨s, hs⟩
    rw [encode] at hs
    generalize s.toList = l at hs
    induction l generalizing a with
    | nil => exact absurd hs.symm (by simp)
    | cons c l ih =>
      rw [List.flatMap_cons] at hs
      rcases List.append_eq_append_iff.1 hs with ⟨a', rfl, hrest⟩ | ⟨c', hc, hrest⟩
      · -- The first character ends before the byte.
        obtain ⟨ha', hb⟩ := ih hrest
        exact ⟨(isText_utf8EncodeChar c).append ha', hb⟩
      · cases c' with
        | nil =>
          rw [List.append_nil] at hc
          exact ⟨hc ▸ isText_utf8EncodeChar c, (ih (a := []) hrest.symm).2⟩
        | cons y c' =>
          -- The byte belongs to the first character, so it is all of it.
          obtain ⟨rfl, rfl⟩ := List.cons.inj hrest
          have hmem : x ∈ encode (String.ofList [c]) := by
            rw [encode, String.toList_ofList, List.flatMap_singleton, hc]
            exact List.mem_append_right _ List.mem_cons_self
          have hchar := mem_of_mem_encode hx hmem
          rw [String.toList_ofList, List.mem_singleton] at hchar
          rw [← hchar, utf8EncodeChar_ofNat hx] at hc
          have hlength := congrArg List.length hc
          rw [List.length_append, List.length_singleton, List.length_cons] at hlength
          obtain rfl : a = [] := List.eq_nil_of_length_eq_zero (by omega)
          obtain rfl : c' = [] := List.eq_nil_of_length_eq_zero (by omega)
          exact ⟨⟨"", rfl⟩, ⟨String.ofList l, by rw [encode, String.toList_ofList]; rfl⟩⟩
  · rintro ⟨ha, hb⟩
    rw [← List.singleton_append]
    exact ha.append (hascii.append hb)

end TemplateCatalog.Text
