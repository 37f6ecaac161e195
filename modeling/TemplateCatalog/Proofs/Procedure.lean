import TemplateCatalog.Procedure
import TemplateCatalog.Proofs.Interaction

/-!
# What procedures do

A procedure followed from its first effect to its end: what it did, in turn, with what came of
each. Of all that was done one may look at the answers of the disk alone (`Deed.answers`), or at
the git commands (`Deed.commands`), which are all that can change the disk.

* `Procedure.comesTo_ofInquiry`: an inquiry does nothing but ask, and comes to what it comes to;
* `Procedure.comesTo_noteAll`, `Procedure.comesTo_git`: the other parts of procedures.
-/

namespace TemplateCatalog

/-- Something that was done, with what came of it. -/
abbrev Deed := (e : Effect) × e.Result

namespace Deed

/-- The disk was asked, and answered. -/
def ofAnswer (x : (q : DiskQuestion) × q.Answer) : Deed := ⟨.ask x.1, x.2⟩

/-- Something was noted. -/
def ofNote (n : Log.Note) : Deed := ⟨.note n, ()⟩

/-- The answer of the disk, if it was asked. -/
def answer? : Deed → Option ((q : DiskQuestion) × q.Answer)
  | ⟨.ask q, a⟩ => some ⟨q, a⟩
  | _ => none

/-- The git command and how it ended, if one was run. -/
def command? : Deed → Option (Git.Command × Git.Outcome)
  | ⟨.git c, o⟩ => some (c, o)
  | _ => none

/-- All answers of the disk. -/
def answers (told : List Deed) : List ((q : DiskQuestion) × q.Answer) := told.filterMap answer?

/-- All git commands that were run, and how they ended. -/
def commands (told : List Deed) : List (Git.Command × Git.Outcome) := told.filterMap command?

variable {told told' : List Deed}

@[simp] theorem answers_nil : answers [] = [] := rfl

@[simp] theorem commands_nil : commands [] = [] := rfl

@[simp] theorem answers_cons (x : Deed) :
    answers (x :: told) = x.answer?.toList ++ answers told := by
  rw [answers, List.filterMap_cons]
  cases x.answer? <;> rfl

@[simp] theorem commands_cons (x : Deed) :
    commands (x :: told) = x.command?.toList ++ commands told := by
  rw [commands, List.filterMap_cons]
  cases x.command? <;> rfl

@[simp] theorem answers_append : answers (told ++ told') = answers told ++ answers told' :=
  List.filterMap_append

@[simp] theorem commands_append : commands (told ++ told') = commands told ++ commands told' :=
  List.filterMap_append

@[simp] theorem answers_ofAnswer (asked : List ((q : DiskQuestion) × q.Answer)) :
    answers (asked.map ofAnswer) = asked := by
  rw [answers, List.filterMap_map]
  exact List.filterMap_some

@[simp] theorem commands_ofAnswer (asked : List ((q : DiskQuestion) × q.Answer)) :
    commands (asked.map ofAnswer) = [] := by
  rw [commands, List.filterMap_map]
  exact List.filterMap_eq_nil_iff.2 fun _ _ => rfl

@[simp] theorem answers_ofNote (notes : List Log.Note) : answers (notes.map ofNote) = [] := by
  rw [answers, List.filterMap_map]
  exact List.filterMap_eq_nil_iff.2 fun _ _ => rfl

@[simp] theorem commands_ofNote (notes : List Log.Note) : commands (notes.map ofNote) = [] := by
  rw [commands, List.filterMap_map]
  exact List.filterMap_eq_nil_iff.2 fun _ _ => rfl

end Deed

namespace Procedure

variable {α : Type} {told : List Deed}

/-- Several things are noted, and nothing else is done. -/
theorem comesTo_noteAll {notes : List Log.Note} {u : Unit} :
    (noteAll notes).ComesTo told u ↔ told = notes.map Deed.ofNote := by
  induction notes generalizing told with
  | nil => exact Interaction.comesTo_pure_iff.trans (and_iff_left rfl)
  | cons n notes ih =>
    refine Interaction.comesTo_bind.trans ⟨?_, ?_⟩
    · rintro ⟨told₁, _, told₂, rfl, hfirst, hrest⟩
      obtain rfl := Interaction.comesTo_question_iff.1 hfirst
      obtain rfl := ih.1 hrest
      rfl
    · rintro rfl
      exact ⟨[_], (), _, rfl, Interaction.comesTo_question_iff.2 rfl, ih.2 rfl⟩

/-- An inquiry is told the answers of the disk, and nothing else is done. -/
theorem comesTo_ofInquiry {i : Inquiry α} {a : α} :
    (ofInquiry i).ComesTo told a ↔ ∃ asked, told = asked.map Deed.ofAnswer ∧ i.ComesTo asked a := by
  refine Interaction.comesTo_runWith.trans ⟨?_, ?_⟩
  · rintro ⟨parts, rfl, h, hparts⟩
    refine ⟨_, ?_, h⟩
    rw [List.map_map, List.map_eq_flatMap, List.flatMap_def, List.flatMap_def]
    refine congrArg List.flatten (List.map_congr_left fun p hp => ?_)
    exact Interaction.comesTo_question_iff.1 (hparts p hp)
  · rintro ⟨asked, rfl, h⟩
    refine ⟨asked.map fun x => (x, [Deed.ofAnswer x]), ?_, ?_, ?_⟩
    · rw [List.flatMap_map]
      exact List.map_eq_flatMap
    · rw [List.map_map]
      exact (List.map_id asked).symm ▸ h
    · intro p hp
      obtain ⟨x, -, rfl⟩ := List.mem_map.1 hp
      exact Interaction.comesTo_question_iff.2 rfl

/-- A git command is run once, between notes, and what it comes to is what its outcome means. -/
theorem comesTo_git {c : Git.Command} {r : Except Failure Git.Output} :
    (git c).ComesTo told r ↔ ∃ outcome, r = c.interpret outcome ∧
      told = c.notesBefore.map Deed.ofNote ++ ⟨.git c, outcome⟩ ::
        (c.notesAfter outcome).map Deed.ofNote := by
  refine Interaction.comesTo_bind.trans ⟨?_, ?_⟩
  · rintro ⟨told₁, _, told₂, rfl, hbefore, hrest⟩
    obtain ⟨told₃, outcome, told₄, rfl, hrun, hrest⟩ := Interaction.comesTo_bind.1 hrest
    obtain ⟨told₅, _, told₆, rfl, hafter, hpure⟩ := Interaction.comesTo_bind.1 hrest
    obtain rfl := comesTo_noteAll.1 hbefore
    obtain rfl := Interaction.comesTo_question_iff.1 hrun
    obtain rfl := comesTo_noteAll.1 hafter
    obtain ⟨rfl, rfl⟩ := Interaction.comesTo_pure_iff.1 hpure
    exact ⟨outcome, rfl, by simp⟩
  · rintro ⟨outcome, rfl, rfl⟩
    refine ⟨_, (), _, rfl, comesTo_noteAll.2 rfl, Interaction.comesTo_bind.2
      ⟨[_], outcome, _, rfl, Interaction.comesTo_question_iff.2 rfl, Interaction.comesTo_bind.2
        ⟨_, (), [], (List.append_nil _).symm, comesTo_noteAll.2 rfl,
          Interaction.comesTo_pure_iff.2 ⟨rfl, rfl⟩⟩⟩⟩

/-- Surroundings that stay as they are: a disk, and a git program all of whose commands end in
    the same way. -/
def still (d : Disk) (outcome : Git.Outcome) : ∀ e : Effect, e.Result
  | .ask q => d q
  | .findGit => true
  | .git _ => outcome
  | .clock => 0
  | .note _ => ()

/-- In still surroundings a procedure is told what the disk says. -/
theorem exists_comesTo_still (p : Procedure α) (d : Disk) (outcome : Git.Outcome) :
    ∃ told, p.ComesTo told (p.run (still d outcome)) ∧ ∀ x ∈ Deed.answers told, x.2 = d x.1 := by
  obtain ⟨told, hcomes, htold⟩ := Interaction.exists_comesTo_run (still d outcome) p
  refine ⟨told, hcomes, fun x hx => ?_⟩
  obtain ⟨⟨e, a⟩, hdeed, hanswer⟩ := List.mem_filterMap.1 hx
  cases e with
  | ask q =>
    cases hanswer
    exact htold _ hdeed
  | _ => cases hanswer

end Procedure

end TemplateCatalog
