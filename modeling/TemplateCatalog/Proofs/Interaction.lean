import TemplateCatalog.Interaction

/-!
# What an interaction comes to

An interaction followed from its first question to its end: the answers that it was given,
in turn, and the result that it came to. Where one interaction is made of others, the
answers are theirs one after another, so what was told to a part of it is a stretch of all
that was told (`comesTo_bind`, `ComesTo.exists_of_mem`). If the surroundings change, but not
while it asks, it comes to what it comes to in them (`run_follow`).
-/

namespace TemplateCatalog.Interaction

variable {Q : Type} {A : Q → Type} {α β : Type}

/-- What an interaction comes to after these answers to its questions, in turn. -/
inductive ComesTo : Interaction Q A α → List ((q : Q) × A q) → α → Prop
  | done (a : α) : ComesTo (done a) [] a
  | ask {q : Q} {next : A q → Interaction Q A α} {told : List ((q : Q) × A q)} {a : α}
    (answer : A q) : ComesTo (next answer) told a → ComesTo (ask q next) (⟨q, answer⟩ :: told) a

variable {i : Interaction Q A α} {told : List ((q : Q) × A q)} {a : α} {b : β}

theorem comesTo_pure_iff {b' : β} :
    (pure b : Interaction Q A β).ComesTo told b' ↔ told = [] ∧ b' = b := by
  constructor
  · intro h
    cases h
    exact ⟨rfl, rfl⟩
  · rintro ⟨rfl, rfl⟩
    exact .done _

/-- A question comes to its answer. -/
theorem comesTo_question_iff {q : Q} {x : A q} :
    (question q : Interaction Q A (A q)).ComesTo told x ↔ told = [⟨q, x⟩] := by
  constructor
  · intro h
    cases h with
    | ask answer h =>
      cases h
      rfl
  · rintro rfl
    exact .ask x (.done x)

/-- What an interaction comes to, it comes to after some of the answers. -/
theorem exists_comesTo_run (answers : ∀ q, A q) (i : Interaction Q A α) :
    ∃ told, i.ComesTo told (i.run answers) ∧ ∀ x ∈ told, x.2 = answers x.1 := by
  induction i with
  | done a => exact ⟨[], .done a, nofun⟩
  | ask q next ih =>
    obtain ⟨told, h, htold⟩ := ih (answers q)
    exact ⟨_, .ask (answers q) h, List.forall_mem_cons.2 ⟨rfl, htold⟩⟩

/-- If the answers are those of surroundings that stay as they are, it comes to what it comes to
    in them. -/
theorem ComesTo.eq_run {answers : ∀ q, A q} (h : i.ComesTo told a)
    (htold : ∀ x ∈ told, x.2 = answers x.1) : a = i.run answers := by
  induction h with
  | done a => rfl
  | @ask q next told a answer _ ih =>
    obtain ⟨hanswer, hrest⟩ := List.forall_mem_cons.1 htold
    obtain rfl : answer = answers q := hanswer
    exact ih hrest

/-- One interaction after another is told the answers to the one and then those to the
    other. -/
theorem comesTo_bind {f : α → Interaction Q A β} :
    (i >>= f).ComesTo told b ↔
      ∃ told₁ a told₂, told = told₁ ++ told₂ ∧ i.ComesTo told₁ a ∧ (f a).ComesTo told₂ b := by
  induction i generalizing told with
  | done a =>
    constructor
    · intro h
      exact ⟨[], a, told, rfl, .done a, h⟩
    · rintro ⟨told₁, a', told₂, rfl, h₁, h₂⟩
      cases h₁
      exact h₂
  | ask q next ih =>
    constructor
    · intro h
      cases h with
      | ask answer h =>
        obtain ⟨told₁, a, told₂, rfl, h₁, h₂⟩ := (ih answer).1 h
        exact ⟨⟨q, answer⟩ :: told₁, a, told₂, rfl, .ask answer h₁, h₂⟩
    · rintro ⟨told₁, a, told₂, rfl, h₁, h₂⟩
      cases h₁ with
      | ask answer h₁ => exact .ask answer ((ih answer).2 ⟨_, a, told₂, rfl, h₁, h₂⟩)

/-- The answers settle when an interaction comes to its end, and to what. -/
theorem ComesTo.of_append {told' more more' : List ((q : Q) × A q)} {a' : α} (h : i.ComesTo told a)
    (h' : i.ComesTo told' a') (heq : told ++ more = told' ++ more') : told = told' ∧ a = a' := by
  induction h generalizing told' with
  | done a =>
    cases h'
    exact ⟨rfl, rfl⟩
  | ask answer _ ih =>
    cases h' with
    | ask answer' h' =>
      obtain ⟨hanswer, hrest⟩ := List.cons.inj heq
      obtain rfl := eq_of_heq (Sigma.mk.inj hanswer).2
      obtain ⟨rfl, rfl⟩ := ih h' hrest
      exact ⟨rfl, rfl⟩

/-- What is told to the rest of an interaction is what is told to all of it after the first part
    has come to its end. -/
theorem ComesTo.bind_append_iff {f : α → Interaction Q A β} (h : i.ComesTo told a)
    {more : List ((q : Q) × A q)} :
    (i >>= f).ComesTo (told ++ more) b ↔ (f a).ComesTo more b := by
  refine comesTo_bind.trans ⟨?_, fun hrest => ⟨told, a, more, rfl, h, hrest⟩⟩
  rintro ⟨told', a', more', heq, h', hrest⟩
  obtain ⟨rfl, rfl⟩ := h.of_append h' heq
  exact List.append_cancel_left heq ▸ hrest

/-- If another interaction answers each question, what is told is told to these, one after
    another. -/
theorem comesTo_runWith {Q' : Type} {A' : Q' → Type} {answer : ∀ q, Interaction Q' A' (A q)}
    {told' : List ((q : Q') × A' q)} :
    (i.runWith answer).ComesTo told' a ↔
      ∃ parts : List (((q : Q) × A q) × List ((q : Q') × A' q)),
        told' = parts.flatMap (·.2) ∧ i.ComesTo (parts.map (·.1)) a ∧
          ∀ p ∈ parts, (answer p.1.1).ComesTo p.2 p.1.2 := by
  -- By induction on the interaction: the first part answers its first question.
  induction i generalizing told' with
  | done b =>
    refine comesTo_pure_iff.trans ⟨?_, ?_⟩
    · rintro ⟨rfl, rfl⟩
      exact ⟨[], rfl, .done a, nofun⟩
    · rintro ⟨parts, rfl, h, -⟩
      generalize hmap : parts.map (·.1) = told at h
      cases h
      rw [List.map_eq_nil_iff.1 hmap]
      exact ⟨rfl, rfl⟩
  | ask q next ih =>
    refine comesTo_bind.trans ⟨?_, ?_⟩
    · rintro ⟨told₁, x, told₂, rfl, hfirst, hrest⟩
      obtain ⟨parts, rfl, h, hparts⟩ := (ih x).1 hrest
      exact ⟨(⟨q, x⟩, told₁) :: parts, rfl, .ask x h, List.forall_mem_cons.2 ⟨hfirst, hparts⟩⟩
    · rintro ⟨parts, rfl, h, hparts⟩
      cases parts with
      | nil => cases h
      | cons p parts =>
        obtain ⟨⟨_, x⟩, told₁⟩ := p
        cases h with
        | ask x h =>
          obtain ⟨hfirst, hparts⟩ := List.forall_mem_cons.1 hparts
          exact ⟨told₁, x, _, rfl, hfirst, (ih x).2 ⟨parts, rfl, h, hparts⟩⟩

/-- In surroundings that stay as they are it comes to what it comes to if each question is answered
    by what the other comes to there. -/
theorem run_runWith {Q' : Type} {A' : Q' → Type} (answer : ∀ q, Interaction Q' A' (A q))
    (answers : ∀ q, A' q) (i : Interaction Q A α) :
    (i.runWith answer).run answers = i.run fun q => (answer q).run answers := by
  induction i with
  | done a => rfl
  | ask q next ih => exact (run_bind ..).trans (ih _)

/-- Each result of a list of interactions is what one of them came to, after a stretch of the
    answers. -/
theorem ComesTo.exists_of_mem {f : α → Interaction Q A β} {l : List α} {bs : List β}
    (h : (each f l).ComesTo told bs) (hb : b ∈ bs) :
    ∃ a ∈ l, ∃ told', told' <:+: told ∧ (f a).ComesTo told' b := by
  induction l generalizing told bs with
  | nil =>
    obtain ⟨-, rfl⟩ := comesTo_pure_iff.1 h
    cases hb
  | cons a l ih =>
    obtain ⟨told₁, b', told₂, rfl, hfirst, h⟩ := comesTo_bind.1 h
    obtain ⟨told₃, bs', told₄, rfl, hrest, h⟩ := comesTo_bind.1 h
    obtain ⟨rfl, rfl⟩ := comesTo_pure_iff.1 h
    rcases List.mem_cons.1 hb with rfl | hb
    · exact ⟨a, List.mem_cons_self, told₁, List.infix_append' [] told₁ _, hfirst⟩
    · obtain ⟨a', ha', told', hinfix, ha⟩ := ih hrest hb
      refine ⟨a', List.mem_cons_of_mem _ ha', told', ?_, ha⟩
      exact hinfix.trans ⟨told₁, [], by simp⟩

/-- An interaction comes to the same, whatever answers of a kind it is given: to what it comes to
    if each question has one answer. -/
def Determined (Kind : ((q : Q) × A q) → Prop) (answers : ∀ q, A q) (i : Interaction Q A α) :
    Prop :=
  ∀ ⦃told a⦄, i.ComesTo told a → (∀ x ∈ told, Kind x) → a = i.run answers

section

variable {Kind : ((q : Q) × A q) → Prop} {answers : ∀ q, A q}

theorem determined_pure (a : α) : (pure a : Interaction Q A α).Determined Kind answers :=
  fun _ _ h _ => (comesTo_pure_iff.1 h).2

/-- A question to which there is one answer of a kind. -/
theorem determined_question {q : Q} (h : ∀ x, Kind ⟨q, x⟩ → x = answers q) :
    (question q : Interaction Q A (A q)).Determined Kind answers := by
  intro told a hcomes hkind
  obtain rfl := comesTo_question_iff.1 hcomes
  exact h a (hkind _ (List.mem_singleton_self _))

theorem Determined.bind {f : α → Interaction Q A β} (hi : i.Determined Kind answers)
    (hf : ∀ a, (f a).Determined Kind answers) : (i >>= f).Determined Kind answers := by
  intro told b hcomes hkind
  obtain ⟨told₁, a, told₂, rfl, hfirst, hrest⟩ := comesTo_bind.1 hcomes
  obtain ⟨hkind₁, hkind₂⟩ := List.forall_mem_append.1 hkind
  obtain rfl := hi hfirst hkind₁
  rw [run_bind]
  exact hf _ hrest hkind₂

theorem determined_each {f : α → Interaction Q A β} (hf : ∀ a, (f a).Determined Kind answers)
    (l : List α) : (each f l).Determined Kind answers := by
  induction l with
  | nil => exact determined_pure []
  | cons a l ih =>
    exact (hf a).bind fun b => ih.bind fun bs => determined_pure (b :: bs)

end

/-- What is left of an interaction after some answers comes to what all of it comes to. -/
theorem Reaches.comesTo {j : Interaction Q A α} {told' : List ((q : Q) × A q)}
    (h : i.Reaches told j) (hj : j.ComesTo told' a) : i.ComesTo (told ++ told') a := by
  induction h generalizing told' with
  | start => exact hj
  | @answer told q next x _ ih =>
    rw [List.append_assoc]
    exact ih (.ask x hj)

/-- What is left of an interaction after each of these has answered one question. -/
def follow (l : List (∀ q, A q)) (i : Interaction Q A α) : Interaction Q A α :=
  l.foldl (fun i answers => i.advance answers) i

theorem follow_concat (l : List (∀ q, A q)) (answers : ∀ q, A q) (i : Interaction Q A α) :
    i.follow (l ++ [answers]) = (i.follow l).advance answers := List.foldl_append ..

/-- As long as the answers stay as they are, what is left comes to what all of it comes to. -/
theorem run_follow {l : List (∀ q, A q)} {answers : ∀ q, A q} (h : ∀ given ∈ l, given = answers)
    (i : Interaction Q A α) : (i.follow l).run answers = i.run answers := by
  induction l generalizing i with
  | nil => rfl
  | cons given l ih =>
    obtain ⟨rfl, h⟩ := List.forall_mem_cons.1 h
    exact (ih h (i.advance given)).trans (run_advance given i)

end TemplateCatalog.Interaction
