import Mathlib.Logic.Relation
import TemplateCatalog.Proofs.Refresh.Polling

/-!
# Rehearsals as runs

A rehearsal takes its schedule through many events at a time: whatever it is made to do, it goes
on until everything in it waits. Each of these events is one that may happen to a schedule, in the
surroundings that the rehearsal has then. So a rehearsal is a run of its schedule, and what every
run keeps holds wherever a rehearsal comes to.

* `Rehearsal.step_leads`: a step of the cycle in flight is part of a run;
* `Rehearsal.Made.leads`, `Rehearsal.exists_run`: so is whatever a rehearsal is made to do.
-/

namespace TemplateCatalog

namespace Schedule

variable {ι : Type} [DecidableEq ι] {queue : List ι} {caller : ι} {q : Request} {p : Snapshot}
  {o : Nat}

/-- A walk over a disk that nobody changes, and what becomes of it. -/
theorem rebuilt_lookAll_busy (walk : Inquiry Survey) (d : Disk) (now : Nat) :
    ((busy queue ⟨caller, q, .walking walk⟩ p o).lookAll caller d).rebuilt caller now =
      busy queue ⟨caller, q, .published ((walk.run d).report (p.generation + 1))⟩
        (p.next now (walk.run d)) o := by
  simp only [lookAll, cycle?_busy, enter_busy, rebuilt_busy]

end Schedule

namespace Rehearsal

open Schedule

variable {r r' r'' : Rehearsal}

/-- The poll of a rehearsal has this interval, and so has any that is started. -/
structure Paced (r : Rehearsal) (interval : Nat) : Prop where
  next : r.interval = interval
  poll : ∀ p, r.poll = some p → p.interval = interval

/-- A rehearsal comes to another by a run of its schedule, and keeps its root and its pace. -/
structure Leads (r r' : Rehearsal) : Prop where
  root : r'.root = r.root
  paced : ∀ {interval : Nat}, r.Paced interval → r'.Paced interval
  run : ∃ log, Run (Evolves r.root) r.schedule log r'.schedule

namespace Leads

/-- What leaves the schedule as it is leads on. -/
theorem of_eq (hroot : r'.root = r.root)
    (hpaced : ∀ {interval : Nat}, r.Paced interval → r'.Paced interval)
    (hschedule : r'.schedule = r.schedule) : r.Leads r' :=
  ⟨hroot, hpaced, [], hschedule ▸ .nil⟩

theorem refl (r : Rehearsal) : r.Leads r := of_eq rfl id rfl

theorem trans (h : r.Leads r') (h' : r'.Leads r'') : r.Leads r'' := by
  obtain ⟨hroot, hpaced, log, hrun⟩ := h
  obtain ⟨hroot', hpaced', log', hrun'⟩ := h'
  rw [hroot] at hroot' hrun'
  exact ⟨hroot', fun h => hpaced' (hpaced h), log ++ log', hrun.append hrun'⟩

/-- Something that happens to the schedule leads on. -/
theorem of_evolves {a : Act Caller} {s : Schedule Caller} (h : Evolves r.root r.schedule a s) :
    r.Leads { r with schedule := s } :=
  ⟨rfl, fun hpaced => ⟨hpaced.next, hpaced.poll⟩, [a], Run.nil.step h⟩

theorem onePermit (h : r.Leads r') (hone : r.schedule.OnePermit) : r'.schedule.OnePermit := by
  obtain ⟨-, -, log, hrun⟩ := h
  exact onePermit_of_run hrun hone

end Leads

/-! ## What is asked for, and what is answered -/

/-- All that a request does: it is put to the schedule, and one that is skipped is answered. -/
theorem request_eq (r : Rehearsal) (caller : Caller) (q : Request) :
    ∃ answers poll, (poll = r.poll ∨ caller = .poll ∧ poll = r.poll.map Poll.idle) ∧
      r.request caller q =
        { r with schedule := (r.schedule.request caller q).1, answers, poll } := by
  rw [request]
  rcases r.schedule.request caller q with ⟨schedule, admission⟩
  cases admission with
  | skipped =>
    cases caller with
    | task name => exact ⟨_, _, .inl rfl, rfl⟩
    | poll => exact ⟨_, _, .inr ⟨rfl, rfl⟩, rfl⟩
  | _ => exact ⟨_, _, .inl rfl, rfl⟩

/-- The end of a refresh of the poll leaves its pace. -/
theorem Paced.idle {poll : Option Poll} {interval : Nat} (h : r.Paced interval)
    (hpoll : poll = r.poll ∨ poll = r.poll.map Poll.idle) :
    Paced { r with poll } interval := by
  refine ⟨h.next, fun p hp => ?_⟩
  rcases hpoll with rfl | rfl
  · exact h.poll p hp
  · obtain ⟨p, hsome, rfl⟩ := Option.map_eq_some_iff.1 hp
    exact h.poll p hsome

/-- Whatever comes of a request, it is asked for. -/
theorem request_leads (r : Rehearsal) (caller : Caller) (q : Request) :
    r.Leads (r.request caller q) := by
  obtain ⟨answers, poll, hpoll, hrequest⟩ := r.request_eq caller q
  have hask : Evolves r.root r.schedule _ (r.schedule.request caller q).1 :=
    .ask caller q Disk.bare
  rw [hrequest]
  exact (Leads.of_evolves hask).trans
    (.of_eq rfl (fun hpaced => ⟨hpaced.next, (hpaced.idle (hpoll.imp id And.right)).poll⟩) rfl)

/-- A tick that is due is a request, and any other is nothing. -/
theorem tick_leads (r : Rehearsal) : r.Leads r.tick := by
  rw [tick]
  split
  · next p hp =>
    split
    · have hanswered : r.Leads { r with poll := some (p.answered r.now) } := by
        refine .of_eq rfl (fun hpaced => ⟨hpaced.next, fun p' hp' => ?_⟩) rfl
        cases hp'
        exact hpaced.poll p hp
      exact hanswered.trans (request_leads _ .poll .refresh)
    · exact .refl r
  · exact .refl r

/-- A poll that is answered goes on to its next tick, and nobody else does anything. -/
theorem ended_leads (r : Rehearsal) (caller : Caller) (answer : Option Answer) :
    r.Leads (r.ended caller answer) := by
  cases answer with
  | none => exact .refl r
  | some answer =>
    cases caller with
    | task name => exact .of_eq rfl (fun hpaced => ⟨hpaced.next, hpaced.poll⟩) rfl
    | poll =>
      have hidle : r.Leads { r with poll := r.poll.map Poll.idle } :=
        .of_eq rfl (fun hpaced => hpaced.idle (.inr rfl)) rfl
      exact hidle.trans (tick_leads _)

/-- Something that happens to the schedule leads on, and so does the answer to a request that comes
    of it. -/
theorem evolves_leads {a : Act Caller} {s : Schedule Caller} (h : Evolves r.root r.schedule a s)
    (caller : Caller) (answer : Option Answer) :
    r.Leads (ended { r with schedule := s } caller answer) :=
  (Leads.of_evolves h).trans (ended_leads _ caller answer)

/-! ## Steps of a cycle -/

/-- Another volume and another source leave a rehearsal where it is. -/
theorem Leads.surroundings (r : Rehearsal) (volume : Volume) (source : ScriptedSource) :
    r.Leads { r with volume, source } :=
  .of_eq rfl (fun hpaced => ⟨hpaced.next, hpaced.poll⟩) rfl

/-- Only the surroundings change when the mirror is made. -/
theorem ensure_fst (r : Rehearsal) : ∃ volume source, r.ensure.1 = { r with volume, source } := by
  rw [ensure]
  split
  · exact ⟨r.volume, r.source, rfl⟩
  · split <;> exact ⟨_, _, rfl⟩

/-- A synchronization waits for a release that has not come, or only the source changes. -/
theorem synchronize_cases (r : Rehearsal) :
    (r.synchronize = none ∧ r.source.held = true ∧ r.source.releases = 0) ∨
      ∃ source result, r.synchronize = some ({ r with source }, result) := by
  rw [synchronize]
  cases hheld : r.source.held with
  | false => exact .inr ⟨r.source, _, rfl⟩
  | true =>
    cases hreleases : r.source.releases with
    | zero => exact .inl ⟨rfl, rfl, rfl⟩
    | succ n => exact .inr ⟨_, _, rfl⟩

section

variable {queue : List Caller} {caller : Caller} {q : Request} {p : Snapshot} {o : Nat}

/-- A call that is over leads on, and so does the answer if it was fatal. -/
theorem returned_leads {call : SourceCall}
    (h : r.schedule = busy queue ⟨caller, q, .calling call⟩ p o) (result : Except Failure Unit) :
    r.Leads (ended { r with schedule := (r.schedule.returned caller r.root result).1 } caller
      (r.schedule.returned caller r.root result).2) := by
  have hreturned : Evolves r.root r.schedule _ (r.schedule.returned caller r.root result).1 :=
    .of_step (d := r.volume.disk) (.return caller result (h ▸ cycle?_busy)) rfl
  exact evolves_leads hreturned caller _

/-- A walk looks at the disk as it is, and what it comes to is published. -/
theorem walked_leads {walk : Inquiry Survey}
    (h : r.schedule = busy queue ⟨caller, q, .walking walk⟩ p o) (now : Nat) :
    r.Leads { r with schedule := (r.schedule.lookAll caller r.volume.disk).rebuilt caller now } := by
  obtain ⟨n, hwalk⟩ := exists_run_walk r.root caller q walk r.volume.disk queue p o
  have hpublish : Goes r.root caller q (.walking (.done (walk.run r.volume.disk))) p _ _ _ _ :=
    .publish _ p now r.volume.disk
  have hrun := hwalk.step (hpublish.evolves queue o)
  rw [← rebuilt_lookAll_busy, ← h] at hrun
  exact ⟨rfl, fun hpaced => ⟨hpaced.next, hpaced.poll⟩, _, hrun⟩

/-- The source begins the call that it counts. -/
theorem begin_leads (h : r.schedule = busy queue ⟨caller, q, .admitted⟩ p o) :
    r.Leads (r.begin caller) := by
  have hgoes : Goes r.root caller q .admitted p _ _ _ p := .call p r.hasMirror r.volume.disk
  have hcall := hgoes.evolves queue o
  rw [← call_busy, ← h] at hcall
  exact (Leads.of_evolves hcall).trans (.surroundings _ r.volume _)

/-- A step of the cycle in flight is part of a run. -/
theorem stepOf_leads {phase : Phase} (h : r.schedule = busy queue ⟨caller, q, phase⟩ p o) :
    r.Leads (r.stepOf ⟨caller, q, phase⟩) := by
  cases phase with
  | admitted => exact begin_leads h
  | calling call =>
    simp only [stepOf]
    cases call with
    | ensure =>
      obtain ⟨volume, source, hensure⟩ := r.ensure_fst
      simp only [hensure]
      exact (Leads.surroundings r volume source).trans
        (returned_leads (r := { r with volume, source }) h _)
    | synchronize =>
      rcases r.synchronize_cases with ⟨hnone, -, -⟩ | ⟨source, result, hsome⟩
      · simp only [hnone]
        exact .refl r
      · simp only [hsome]
        exact (Leads.surroundings r r.volume source).trans
          (returned_leads (r := { r with source }) h result)
  | walking walk => exact walked_leads h (r.now * 1000)
  | published report =>
    have hfinish : Evolves r.root r.schedule _ (r.schedule.finish caller).1 :=
      .of_step (d := r.volume.disk) (.finish caller (h ▸ cycle?_busy)) rfl
    exact evolves_leads hfinish caller _

end

/-- A step of a rehearsal with a cycle in flight is one of that. -/
theorem step_busy {queue : List Caller} {c : Cycle Caller} {p : Snapshot} {o : Nat}
    (h : r.schedule = busy queue c p o) : r.step = r.stepOf c := by
  rw [step, h]
  rfl

/-- Whatever a rehearsal does in a step is part of a run. -/
theorem step_leads (h : r.schedule.OnePermit) : r.Leads r.step := by
  rcases h.idle_or_busy with hidle | ⟨queue, c, hbusy⟩
  · rw [step, hidle]
    exact .refl r
  · rw [step_busy hbusy]
    exact stepOf_leads hbusy

/-- What is kept once is kept over and over. -/
theorem repeat_keeps {P : Rehearsal → Prop} {f : Rehearsal → Rehearsal} (hf : ∀ r, P r → P (f r))
    (n : Nat) (h : P r) : P (Nat.repeat f n r) := by
  induction n with
  | zero => exact h
  | succ n ih => exact hf _ ih

/-- What is done over and over is part of a run if it is so once. -/
theorem repeat_leads {f : Rehearsal → Rehearsal}
    (hf : ∀ r : Rehearsal, r.schedule.OnePermit → r.Leads (f r)) (n : Nat)
    (h : r.schedule.OnePermit) : r.Leads (Nat.repeat f n r) :=
  repeat_keeps (P := r.Leads) (fun r' hled => hled.trans (hf r' (hled.onePermit h))) n (.refl r)

/-- So is all that a rehearsal does until everything in it waits. -/
theorem settle_leads (h : r.schedule.OnePermit) : r.Leads r.settle :=
  repeat_leads (fun _ => step_leads) r.stepLimit h

/-! ## Rehearsals -/

/-- What a rehearsal is made to do. -/
inductive Made : Rehearsal → Rehearsal → Prop
  | asked (r : Rehearsal) (name : String) (q : Request) : Made r (r.ask name q)
  | released (r : Rehearsal) : Made r r.release
  | advanced (r : Rehearsal) (time : Nat) : Made r (r.advance time)
  | pollStarted (r : Rehearsal) : Made r r.startPoll
  | pollStopped (r : Rehearsal) : Made r r.stopPoll
  | rebuilt (r : Rehearsal) : Made r r.rebuild.1
  /-- The disk is changed, or the source is told what to do. -/
  | changed (r : Rehearsal) (volume : Volume) (source : ScriptedSource) :
    Made r { r with volume, source }

/-- The clock goes on to the next tick, which is answered. -/
theorem toTick_leads (deadline : Nat) (h : r.schedule.OnePermit) : r.Leads (r.toTick deadline) := by
  rw [toTick]
  split
  · split
    · next p _ _ =>
      have hlater : r.Leads { r with now := max r.now p.next } :=
        .of_eq rfl (fun hpaced => ⟨hpaced.next, hpaced.poll⟩) rfl
      have htick := hlater.trans (tick_leads _)
      exact htick.trans (settle_leads (htick.onePermit h))
    · exact .refl r
  · exact .refl r

/-- What came of earlier requests of a task is forgotten. -/
theorem Leads.forgotten (r : Rehearsal) (name : String) :
    r.Leads { r with answers := r.answers.filter (·.1 ≠ name) } :=
  .of_eq rfl (fun hpaced => ⟨hpaced.next, hpaced.poll⟩) rfl

/-- A poll that is stopped goes away. -/
theorem Leads.stopped (r : Rehearsal) :
    r.Leads { r with poll := none, schedule := r.schedule.abandon .poll } := by
  have hleft : Evolves r.root r.schedule _ (r.schedule.abandon Caller.poll) := .left Caller.poll
  exact (Leads.of_evolves hleft).trans (.of_eq rfl (fun hpaced => ⟨hpaced.next, nofun⟩) rfl)

/-- Whatever a rehearsal is made to do is part of a run. -/
theorem Made.leads (hmade : Made r r') (h : r.schedule.OnePermit) : r.Leads r' := by
  cases hmade with
  | asked name q =>
    have hask := (Leads.forgotten r name).trans (request_leads _ (.task name) q)
    exact hask.trans (settle_leads (hask.onePermit h))
  | released => exact (Leads.surroundings r r.volume _).trans (settle_leads h)
  | advanced time =>
    have hticks := repeat_leads (fun _ => toTick_leads (r.now + time))
      (time / (max 1 r.interval) + 1) h
    exact hticks.trans (.of_eq rfl (fun hpaced => ⟨hpaced.next, hpaced.poll⟩) rfl)
  | pollStarted =>
    refine .of_eq rfl (fun hpaced => ⟨hpaced.next, fun p hp => ?_⟩) rfl
    cases hp
    exact hpaced.next
  | pollStopped => exact (Leads.stopped r).trans (settle_leads ((Leads.stopped r).onePermit h))
  | rebuilt => exact .of_evolves (.outside (r.now * 1000) _)
  | changed volume source => exact .surroundings r volume source

/-- **Rehearsals are runs**: wherever a rehearsal comes to, its schedule has come to by a run from
    the beginning, in which every event is one that may happen to a schedule. -/
theorem exists_run (hempty : r.schedule = .empty) (h : Relation.ReflTransGen Made r r') :
    ∃ log, Run (Evolves r.root) .empty log r'.schedule := by
  have hleads : r.Leads r' := by
    induction h with
    | refl => exact .refl r
    | tail _ hmade ih =>
      exact ih.trans (hmade.leads (ih.onePermit (hempty ▸ idle_onePermit _ _)))
  obtain ⟨log, hrun⟩ := hleads.run
  exact ⟨log, hempty ▸ hrun⟩

end Rehearsal

end TemplateCatalog
