import TemplateCatalog.CommandLine.Console
import TemplateCatalog.Proofs.Procedure

/-!
# What is done at a console

A computation at a console followed from its beginning to its end: what it did, in turn, with what
came of each. Of all that was done one may look at the answers of the disk alone
(`Gesture.answers`), or at what was printed (`Gesture.printed`).

* `Console.comesTo_ofProcedure`: the work of the service is done as it is without a console, and
  prints nothing;
* `Console.run_ofProcedure`: in surroundings that stay as they are it comes to the same.
-/

namespace TemplateCatalog.CommandLine

/-- Something that was done at a console, with what came of it. -/
abbrev Gesture := (e : ConsoleEffect) × e.Result

namespace Gesture

/-- The answer of the disk, if it was asked. -/
def answer? : Gesture → Option ((q : DiskQuestion) × q.Answer)
  | ⟨.work (.ask q), a⟩ => some ⟨q, a⟩
  | _ => none

/-- The text that was printed, if one was. -/
def print? : Gesture → Option String
  | ⟨.print text, _⟩ => some text
  | _ => none

/-- All answers of the disk. -/
def answers (told : List Gesture) : List ((q : DiskQuestion) × q.Answer) := told.filterMap answer?

/-- All that was printed. Notes and explanations go elsewhere. -/
def printed (told : List Gesture) : List String := told.filterMap print?

variable {told told' : List Gesture}

@[simp] theorem answers_append : answers (told ++ told') = answers told ++ answers told' :=
  List.filterMap_append

@[simp] theorem printed_append : printed (told ++ told') = printed told ++ printed told' :=
  List.filterMap_append

end Gesture

namespace Console

variable {α : Type} {g : Logging} {told : List Gesture}

/-- A note prints nothing, wherever it is written. -/
theorem comesTo_write {n : Log.Note} {u : Unit} (h : (write g n).ComesTo told u) :
    Gesture.answers told = [] ∧ Gesture.printed told = [] := by
  rw [write] at h
  split at h
  · obtain ⟨told₁, now, told₂, rfl, hclock, hline⟩ := Interaction.comesTo_bind.1 h
    obtain rfl := Interaction.comesTo_question_iff.1 hclock
    cases hfile : g.file with
    | none =>
      simp only [hfile] at hline
      obtain rfl := Interaction.comesTo_question_iff.1 hline
      exact ⟨rfl, rfl⟩
    | some l =>
      simp only [hfile] at hline
      obtain rfl := Interaction.comesTo_question_iff.1 hline
      exact ⟨rfl, rfl⟩
  · obtain ⟨rfl, -⟩ := Interaction.comesTo_pure_iff.1 h
    exact ⟨rfl, rfl⟩

/-- How a console does one thing for the service. -/
def carryOut (g : Logging) : (e : Effect) → Console e.Result
  | .note n => write g n
  | .ask q => Interaction.question (ConsoleEffect.work (.ask q))
  | .findGit => Interaction.question (ConsoleEffect.work .findGit)
  | .git c => Interaction.question (ConsoleEffect.work (.git c))
  | .clock => Interaction.question (ConsoleEffect.work .clock)

theorem ofProcedure_eq (p : Procedure α) : ofProcedure g p = p.runWith (carryOut g) := rfl

/-- Of what is done for the service the disk sees its own questions, and nothing is printed. -/
theorem comesTo_carryOut {e : Effect} {x : e.Result} (h : (carryOut g e).ComesTo told x) :
    Gesture.answers told = (Deed.answer? ⟨e, x⟩).toList ∧ Gesture.printed told = [] := by
  cases e with
  | note n => exact comesTo_write h
  | _ =>
    obtain rfl := Interaction.comesTo_question_iff.1 h
    exact ⟨rfl, rfl⟩

/-- The work of the service, done at a console, is told the same by the disk, and nothing is
    printed. -/
theorem comesTo_ofProcedure {p : Procedure α} {a : α} (h : (ofProcedure g p).ComesTo told a) :
    ∃ deeds, p.ComesTo deeds a ∧ Gesture.answers told = Deed.answers deeds ∧
      Gesture.printed told = [] := by
  rw [ofProcedure_eq] at h
  obtain ⟨parts, rfl, hcomes, hparts⟩ := Interaction.comesTo_runWith.1 h
  refine ⟨_, hcomes, ?_⟩
  clear h hcomes
  induction parts with
  | nil => exact ⟨rfl, rfl⟩
  | cons part parts ih =>
    obtain ⟨hpart, hrest⟩ := List.forall_mem_cons.1 hparts
    obtain ⟨hanswers, hprinted⟩ := ih hrest
    obtain ⟨hanswer, hprint⟩ := comesTo_carryOut hpart
    rw [List.flatMap_cons, List.map_cons, Gesture.answers_append, Gesture.printed_append,
      Deed.answers_cons, hanswers, hprinted, hanswer, hprint]
    exact ⟨rfl, rfl⟩

/-- Surroundings that stay as they are: those of the service, and files that can be added to. -/
def still (d : Disk) (outcome : Git.Outcome) : ∀ e : ConsoleEffect, e.Result
  | .work e => Procedure.still d outcome e
  | .openLog _ => .ok ()
  | .append .. => ()
  | .print _ => ()
  | .printError _ => ()

/-- In still surroundings a console is told what the disk says. -/
theorem exists_comesTo_still (c : Console α) (d : Disk) (outcome : Git.Outcome) :
    ∃ told, c.ComesTo told (c.run (still d outcome)) ∧
      ∀ x ∈ Gesture.answers told, x.2 = d x.1 := by
  obtain ⟨told, hcomes, htold⟩ := Interaction.exists_comesTo_run (still d outcome) c
  refine ⟨told, hcomes, fun x hx => ?_⟩
  obtain ⟨⟨e, a⟩, hgesture, hanswer⟩ := List.mem_filterMap.1 hx
  cases e with
  | work e =>
    cases e with
    | ask q =>
      cases hanswer
      exact htold _ hgesture
    | _ => cases hanswer
  | _ => cases hanswer

/-- In still surroundings the work of the service comes to what it comes to without a console. -/
theorem run_ofProcedure (p : Procedure α) (d : Disk) (outcome : Git.Outcome) :
    (ofProcedure g p).run (still d outcome) = p.run (Procedure.still d outcome) := by
  rw [ofProcedure_eq, Interaction.run_runWith]
  congr 1
  funext e
  cases e <;> rfl

end Console

end TemplateCatalog.CommandLine
