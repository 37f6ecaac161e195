/-!
# Interactions

A computation that asks questions of its surroundings, each depending on the answers
before it, and comes to a result. It is a tree, so what it does can be told for
surroundings that stay as they are (`run`), that change from question to question
(`runWith`), or that answer anything at all (`Yields`).

* `run_bind`: answers that stay as they are do not depend on what was asked before;
* `yields_run`: what an interaction comes to is among what it may come to.
-/

namespace TemplateCatalog

/-- A computation that asks questions `q : Q`, to be answered by an `A q`. -/
inductive Interaction (Q : Type) (A : Q → Type) (α : Type) where
  | done (a : α)
  | ask (q : Q) (next : A q → Interaction Q A α)

namespace Interaction

variable {Q : Type} {A : Q → Type} {α β : Type}

/-- One interaction after another. -/
def bind : Interaction Q A α → (α → Interaction Q A β) → Interaction Q A β
  | done a, f => f a
  | ask q next, f => ask q fun answer => (next answer).bind f

instance : Monad (Interaction Q A) where
  pure := done
  bind := bind

/-- Asks one question. -/
def question (q : Q) : Interaction Q A (A q) := ask q done

/-- What an interaction comes to if each question has one answer. -/
def run (answers : ∀ q, A q) : Interaction Q A α → α
  | done a => a
  | ask q next => (next (answers q)).run answers

/-- What is left of an interaction after its first question is answered. -/
def advance (answers : ∀ q, A q) : Interaction Q A α → Interaction Q A α
  | done a => done a
  | ask q next => next (answers q)

/-- What an interaction comes to if something else answers its questions. -/
def runWith {m : Type → Type} [Monad m] (answer : ∀ q, m (A q)) : Interaction Q A α → m α
  | done a => Pure.pure a
  | ask q next => do (next (← answer q)).runWith answer

/-- What an interaction may come to, whatever the answers. -/
inductive Yields : Interaction Q A α → α → Prop
  | done (a : α) : Yields (done a) a
  | ask {q : Q} {next : A q → Interaction Q A α} {a : α} (answer : A q) :
    Yields (next answer) a → Yields (ask q next) a

/-- What is left of an interaction after these answers to its questions, in turn. -/
inductive Reaches (i : Interaction Q A α) : List ((q : Q) × A q) → Interaction Q A α → Prop
  | start : Reaches i [] i
  | answer {l : List ((q : Q) × A q)} {q : Q} {next : A q → Interaction Q A α} (a : A q) :
    Reaches i l (ask q next) → Reaches i (l ++ [⟨q, a⟩]) (next a)

@[simp] theorem run_pure (answers : ∀ q, A q) (a : α) :
    (pure a : Interaction Q A α).run answers = a := rfl

@[simp] theorem run_advance (answers : ∀ q, A q) (i : Interaction Q A α) :
    (i.advance answers).run answers = i.run answers := by
  cases i <;> rfl

@[simp] theorem run_question (answers : ∀ q, A q) (q : Q) :
    (question q : Interaction Q A (A q)).run answers = answers q := rfl

@[simp] theorem run_bind (answers : ∀ q, A q) (i : Interaction Q A α)
    (f : α → Interaction Q A β) : (i >>= f).run answers = (f (i.run answers)).run answers := by
  induction i with
  | done a => rfl
  | ask q next ih => exact ih (answers q)

/-- What an interaction comes to is among what it may come to. -/
theorem yields_run (answers : ∀ q, A q) (i : Interaction Q A α) : i.Yields (i.run answers) := by
  induction i with
  | done a => exact .done a
  | ask q next ih => exact .ask (answers q) (ih (answers q))

/-- An interaction for each member of a list, in turn. -/
def each (f : α → Interaction Q A β) : List α → Interaction Q A (List β)
  | [] => pure []
  | a :: rest => do
    let b ← f a
    let bs ← each f rest
    return b :: bs

@[simp] theorem run_each (answers : ∀ q, A q) (f : α → Interaction Q A β) (l : List α) :
    (each f l).run answers = l.map fun a => (f a).run answers := by
  induction l with
  | nil => rfl
  | cons a rest ih => simp [each, ih]

end Interaction

end TemplateCatalog
