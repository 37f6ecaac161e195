import Mathlib.Data.List.Forall2
import Mathlib.Logic.Function.Basic
import TemplateCatalog.Proofs.Refresh.Resilience
import TemplateCatalog.Proofs.Service.Presence

/-!
# Cycles of a service as courses

A service goes through a cycle as one procedure, from its question for a mirror to its report; a
schedule goes through one by events, between which there may be others. They do the same: a cycle of
a service is a course that its schedule goes through alone, on disks that say what the cycle is told.

* `Schedule.exists_run_told`: a walk is part of a run, on disks that say what it is told;
* `Schedule.alone_failed`, `Schedule.alone_completed`: so is a whole course, from its admission to
  its end;
* `Service.exists_course`: every cycle of a service is such a course.
-/

namespace TemplateCatalog

/-- A disk that says one thing that is told. -/
def Disk.saying (x : (q : DiskQuestion) × q.Answer) : Disk := Function.update Disk.bare x.1 x.2

theorem Disk.saying_self {q : DiskQuestion} (answer : q.Answer) : saying ⟨q, answer⟩ q = answer :=
  Function.update_self ..

namespace Schedule

variable {ι : Type}

/-- What a cycle comes to that has taken a course. -/
def Course.outcome (c : Course ι) : Except Failure Report :=
  match c.request.fatal? (.ofPresence c.present) c.result with
  | some f => .error f
  | none => .ok c.report

/-- The disks that walks have looked at say what is told, in turn. -/
def Saw (log : List (Act ι)) (told : List ((q : DiskQuestion) × q.Answer)) : Prop :=
  List.Forall₂ (fun (d : Disk) x => x.2 = d x.1) (looks log) told

variable [DecidableEq ι]

/-- A course that a schedule goes through alone, from its admission to its end. -/
def Alone (root : Location) (p p' : Snapshot) (c : Course ι)
    (told : List ((q : DiskQuestion) × q.Answer)) : Prop :=
  ∃ log d, Run (Evolves root) (idle p 0) (.step (.asked c.caller c.request .admitted) d :: log)
    (idle p' 0) ∧ work log = c.events ∧ Saw log told

variable {root : Location} {caller : ι} {r : Request} {p : Snapshot} {present : Bool}
  {result : Except Failure Unit} {told : List ((q : DiskQuestion) × q.Answer)} {survey : Survey}

/-- A walk is part of a run, on disks that say what it is told. -/
theorem exists_run_told (root : Location) (caller : ι) (r : Request) (queue : List ι)
    (p : Snapshot) (o : Nat) {walk : Inquiry Survey} (h : walk.ComesTo told survey) :
    ∃ log, Run (Evolves root) (busy queue ⟨caller, r, .walking walk⟩ p o) log
        (busy queue ⟨caller, r, .walking (.done survey)⟩ p o) ∧
      work log = List.replicate told.length (.looked caller) ∧ Saw log told := by
  induction h with
  | done survey => exact ⟨[], .nil, rfl, List.Forall₂.nil⟩
  | @ask q next told survey answer _ ih =>
    obtain ⟨log, hrun, hwork, hsaw⟩ := ih
    have hlook : Goes root caller r (.walking (.ask q next)) p _ _ _ p :=
      .look next p (Disk.saying ⟨q, answer⟩)
    have hlooked := hlook.evolves queue o
    rw [Disk.saying_self] at hlooked
    refine ⟨_, .cons hlooked hrun, ?_, List.Forall₂.cons (Disk.saying_self answer).symm hsaw⟩
    rw [List.length_cons, List.replicate_succ, ← hwork]
    rfl

/-- With no cycle in flight, anybody is let in. -/
theorem evolves_letIn (root : Location) (caller : ι) (r : Request) (p : Snapshot) (o : Nat) :
    Evolves root (idle p o) (.step (.asked caller r .admitted) .bare)
      (busy [] ⟨caller, r, .admitted⟩ p o) := by
  have hask : Evolves root (idle p o) _ _ := .ask caller r .bare
  cases r <;> exact hask

/-- A course that fails has published nothing. -/
theorem alone_failed (caller : ι) {f : Failure}
    (hf : r.fatal? (.ofPresence present) result = some f) (report : Report) :
    Alone root p p ⟨caller, r, present, result, 0, report⟩ [] := by
  have hcall : Goes root caller r .admitted p _ _ _ p := .call p present .bare
  have hfail : Ends caller r (.calling (.ofPresence present)) _ _ := .fail hf
  refine ⟨_, .bare, .cons (evolves_letIn root caller r p 0) (.cons (hcall.evolves [] 0)
    (.cons (hfail.evolves [] p 0 .bare) .nil)), ?_, List.Forall₂.nil⟩
  rw [Course.events, hf]
  rfl

/-- A course that completes has published what its walk came to. -/
theorem alone_completed (caller : ι) (hf : r.fatal? (.ofPresence present) result = none)
    (h : (Survey.inquire root).ComesTo told survey) (now : Nat) :
    Alone root p (p.next now survey)
      ⟨caller, r, present, result, told.length, survey.report (p.generation + 1)⟩ told := by
  obtain ⟨log, hwalk, hwork, hsaw⟩ := exists_run_told root caller r [] p 0 h
  have hcall : Goes root caller r .admitted p _ _ _ p := .call p present .bare
  have hreturn : Goes root caller r (.calling (.ofPresence present)) p _ _ _ p := .walk p .bare hf
  have hpublish : Goes root caller r (.walking (.done survey)) p _ _ _ _ :=
    .publish survey p now .bare
  have hfinish : Ends caller r (.published (survey.report (p.generation + 1))) _ _ := .finish _
  have hend := Run.cons (hpublish.evolves [] 0)
    (.cons (hfinish.evolves [] (p.next now survey) 0 .bare) .nil)
  refine ⟨_, .bare, .cons (evolves_letIn root caller r p 0) (.cons (hcall.evolves [] 0)
    (.cons (hreturn.evolves [] 0) (hwalk.append hend))), ?_, ?_⟩
  · rw [Course.events, hf, walkBegun, ← hwork]
    show _ :: _ :: work (log ++ _) = _
    rw [work_append]
    rfl
  · show List.Forall₂ _ (looks (log ++ _)) told
    rw [looks_append]
    exact (List.append_nil (looks log)).symm ▸ hsaw

end Schedule

namespace Service

open Schedule

variable {ι : Type} [DecidableEq ι] {s s' : Service} {q : Request} {told : List Deed}
  {r : Except Failure Report}

/-- **Cycles are courses**: whatever a cycle of a service is told, it does what a course of the
    schedule does that nobody else is part of. It publishes the same and comes to the same. -/
theorem exists_course (h : (s.cycle q).ComesTo told (s', r)) (caller : ι) :
    ∃ (c : Course ι) (asked : List ((q : DiskQuestion) × q.Answer)),
      c.caller = caller ∧ c.request = q ∧ r = c.outcome ∧ asked <:+ Deed.answers told ∧
      s' = { s with published := s'.published } ∧
      Alone s.root s.published s'.published c asked := by
  obtain ⟨present, result, called, rest, rfl, -, hrest⟩ := comesTo_cycle h
  rcases hrest with ⟨f, hf, rfl, rfl, rfl⟩ | ⟨hf, rebuilt, report, rfl, hrebuild, rfl⟩
  · refine ⟨⟨caller, q, present, result, 0, ⟨0, 0, [], []⟩⟩, [], rfl, rfl, ?_, List.nil_suffix, rfl,
      alone_failed caller hf _⟩
    rw [Course.outcome, hf]
  · obtain ⟨survey, now, hsurvey, -, rfl, rfl⟩ := comesTo_rebuild hrebuild
    refine ⟨_, Deed.answers rebuilt, rfl, rfl, ?_, ?_, rfl, alone_completed caller hf hsurvey now⟩
    · rw [Course.outcome, hf]
    · rw [Deed.answers_cons, Deed.answers_append, Deed.answers_append, Deed.answers_append]
      exact ((List.suffix_append _ _).trans (List.suffix_append _ _)).trans
        ((List.suffix_append _ _).trans (List.suffix_append _ _))

end Service

end TemplateCatalog
