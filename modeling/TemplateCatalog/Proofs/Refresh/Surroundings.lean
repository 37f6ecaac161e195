import TemplateCatalog.Proofs.Refresh.SingleFlight

/-!
# A schedule in its surroundings

A schedule is not alone. The disk changes between two questions of a walk; callers go
away, and a walk that is left behind publishes what it found; and others may rebuild the
catalog that the schedule publishes. An *act* is anything that happens to a schedule: a
step, with the disk as it is then, or something that is done to it from outside.

* `OnePermit.evolves`: whatever happens, one permit is free or held;
* `Evolves.of_busy`: while a cycle is in flight and its caller stays, it goes on (`Goes`), it
  ends (`Ends`), or it is left where it is, for all that others can do is to change the queue
  and to publish;
* `OnePermit.goes_or_rests`: whatever happens, the cycle in flight goes on, or none does;
* `exists_run_cycle`: a cycle on a disk that does not change, from its admission to its
  publication.
-/

namespace TemplateCatalog

/-- The snapshot after these publications, in turn. -/
def Snapshot.after (p : Snapshot) (l : List (Nat × Survey)) : Snapshot :=
  l.foldl (fun p x => p.next x.1 x.2) p

theorem Snapshot.after_append (p : Snapshot) (l₁ l₂ : List (Nat × Survey)) :
    p.after (l₁ ++ l₂) = (p.after l₁).after l₂ := List.foldl_append ..

/-- Whether a cycle walks over the templates. -/
def Phase.isWalking : Phase → Bool
  | walking _ => true
  | _ => false

namespace Schedule

variable {ι : Type}

/-- What happens to a schedule. -/
inductive Act (ι : Type) where
  /-- A step, on the disk as it is then. -/
  | step (e : Event ι) (d : Disk)
  /-- A caller goes away. -/
  | left (caller : ι)
  /-- A walk whose caller has gone comes to a survey, which is published. -/
  | orphan (now : Nat) (survey : Survey)
  /-- Somebody else publishes a survey. -/
  | outside (now : Nat) (survey : Survey)

namespace Act

/-- The work that a cycle does. -/
def work? : Act ι → Option (Event ι)
  | step e _ => if e.isWork then some e else none
  | _ => none

/-- The disk that a walk looks at. -/
def look? : Act ι → Option Disk
  | step (.looked _) d => some d
  | _ => none

/-- Nobody goes away in an act. -/
def Stays (a : Act ι) : Prop := ∀ caller, a ≠ left caller

/-- What is published, but not by a cycle in flight. -/
def foreign? : Act ι → Option (Nat × Survey)
  | step .. => none
  | left _ => none
  | orphan now survey => some (now, survey)
  | outside now survey => some (now, survey)

end Act

/-- All the work that cycles do. -/
def work (log : List (Act ι)) : List (Event ι) := log.filterMap Act.work?

/-- All that walks look at. -/
def looks (log : List (Act ι)) : List Disk := log.filterMap Act.look?

/-- All that is published, but not by cycles in flight. -/
def foreign (log : List (Act ι)) : List (Nat × Survey) := log.filterMap Act.foreign?

theorem work_append (l₁ l₂ : List (Act ι)) : work (l₁ ++ l₂) = work l₁ ++ work l₂ :=
  List.filterMap_append

theorem looks_append (l₁ l₂ : List (Act ι)) : looks (l₁ ++ l₂) = looks l₁ ++ looks l₂ :=
  List.filterMap_append

theorem foreign_append (l₁ l₂ : List (Act ι)) : foreign (l₁ ++ l₂) = foreign l₁ ++ foreign l₂ :=
  List.filterMap_append

theorem busy_inj {queue queue' : List ι} {c c' : Cycle ι} {p p' : Snapshot} {o o' : Nat} :
    busy queue c p o = busy queue' c' p' o' ↔ queue = queue' ∧ c = c' ∧ p = p' ∧ o = o' := by
  simp [busy]

theorem busy_ne_idle {queue : List ι} {c : Cycle ι} {p p' : Snapshot} {o o' : Nat} :
    busy queue c p o ≠ idle p' o' := by
  simp [busy, idle]

/-- Nothing happens to a schedule with nothing in flight but that a request is let in. -/
theorem Turn.of_idle {root : Location} {e : Event ι} {s' : Schedule ι} {p : Snapshot} {o : Nat}
    (h : Turn root (idle p o) e s') :
    ∃ caller r, e = .asked caller r .admitted ∧ s' = busy [] ⟨caller, r, .admitted⟩ p o := by
  generalize hs : idle p o = s at h
  cases h with
  | letIn caller r =>
    cases hs
    exact ⟨caller, r, rfl, rfl⟩
  | _ => exact absurd hs.symm busy_ne_idle

variable [DecidableEq ι] {root : Location} {s s' : Schedule ι} {a : Act ι} {queue : List ι}
  {c : Cycle ι} {p : Snapshot} {o : Nat}

/-- What a schedule comes to by an act. -/
inductive Evolves (root : Location) : Schedule ι → Act ι → Schedule ι → Prop
  | step {s s' : Schedule ι} {e : Event ι} {d : Disk} :
    Step root s e s' → (∀ caller, e = .looked caller → s' = s.look caller d) →
    Evolves root s (.step e d) s'
  | left {s : Schedule ι} (caller : ι) : Evolves root s (.left caller) (s.abandon caller)
  | orphan {s : Schedule ι} (now : Nat) (survey : Survey) :
    0 < s.orphans → Evolves root s (.orphan now survey) (s.orphanRebuilt now survey)
  | outside {s : Schedule ι} (now : Nat) (survey : Survey) :
    Evolves root s (.outside now survey) (s.publish now survey).1

/-- A step that does not look at the disk is the same on any. -/
theorem Evolves.of_step {e : Event ι} {d : Disk} (hs : Step root s e s')
    (he : (Act.step e d).look? = none) : Evolves root s (.step e d) s' := by
  refine .step hs fun caller hlooked => ?_
  rw [hlooked] at he
  cases he

/-- Anybody may ask for a cycle at any time. -/
theorem Evolves.ask (caller : ι) (r : Request) (d : Disk) :
    Evolves root s (.step (.asked caller r (s.request caller r).2) d) (s.request caller r).1 :=
  .of_step (.ask caller r) rfl

omit [DecidableEq ι] in
/-- A walk that is left behind publishes what it found, and is left behind no more. -/
theorem orphanRebuilt_of_pos (h : 0 < s.orphans) (now : Nat) (survey : Survey) :
    s.orphanRebuilt now survey = { (s.publish now survey).1 with orphans := s.orphans - 1 } := by
  rw [orphanRebuilt]
  split
  · next hzero => exact absurd hzero (Nat.ne_of_gt h)
  · next hsucc => rw [hsucc, Nat.succ_eq_add_one, Nat.add_sub_cancel]

/-- Who goes away while a cycle is in flight that is not theirs only leaves the queue. -/
theorem abandon_busy_of_ne {caller : ι} (h : c.caller ≠ caller) :
    (busy queue c p o).abandon caller = busy (queue.filter (· ≠ caller)) c p o := by
  simp [abandon, busy, cycle?, Gate.leave, h]

/-- If the caller of the cycle goes away, those who wait are next. Only a walk goes on without
    its caller. -/
theorem abandon_busy_self (queue : List ι) (r : Request) (phase : Phase) (caller : ι)
    (p : Snapshot) (o : Nat) :
    (busy queue ⟨caller, r, phase⟩ p o).abandon caller =
      handedOver (queue.filter (· ≠ caller)) p (o + if phase.isWalking then 1 else 0) := by
  have hleft : ({ busy queue ⟨caller, r, phase⟩ p o with
      gate := (busy queue ⟨caller, r, phase⟩ p o).gate.leave caller } : Schedule ι) =
      busy (queue.filter (· ≠ caller)) ⟨caller, r, phase⟩ p o := rfl
  rw [abandon, hleft, cycle?_busy]
  cases phase with
  | walking walk =>
    simp only [release_busy]
    cases queue.filter (· ≠ caller) <;> rfl
  | _ => exact release_busy

/-- Whatever happens, one permit is free or held by the one cycle in flight. -/
theorem OnePermit.evolves (h : s.OnePermit) (he : Evolves root s a s') : s'.OnePermit := by
  cases he with
  | step hs _ => exact (h.turn hs).onePermit
  | left caller =>
    rcases h.idle_or_busy with hs | ⟨queue, ⟨owner, r, phase⟩, hs⟩
    · rw [hs]
      exact idle_onePermit ..
    · rw [hs]
      by_cases hc : owner = caller
      · subst hc
        rw [abandon_busy_self]
        exact handedOver_onePermit ..
      · rw [abandon_busy_of_ne hc]
        exact busy_onePermit ..
  | orphan now survey ho =>
    rw [orphanRebuilt_of_pos ho]
    exact ⟨h.count, h.waits⟩
  | outside now survey => exact ⟨h.count, h.waits⟩

/-- Whatever has happened, one permit is free or held. -/
theorem onePermit_of_run {s₀ : Schedule ι} {log : List (Act ι)} (h : Run (Evolves root) s₀ log s)
    (hp : s₀.OnePermit) : s.OnePermit :=
  h.invariant (P := fun _ s => s.OnePermit) hp OnePermit.evolves

/-- A cycle goes on from a phase to the next: with what is published, what is seen of it, the
    disk as it is then, and what is published after it. -/
inductive Goes (root : Location) (caller : ι) (r : Request) :
    Phase → Snapshot → Event ι → Disk → Phase → Snapshot → Prop
  | call (p : Snapshot) (present : Bool) (d : Disk) :
    Goes root caller r .admitted p (.called caller r present (.ofPresence present)) d
      (.calling (.ofPresence present)) p
  | walk {call : SourceCall} {result : Except Failure Unit} (p : Snapshot) (d : Disk) :
    r.fatal? call result = none →
    Goes root caller r (.calling call) p (.returned caller result none) d
      (.walking (Survey.inquire root)) p
  | look {q : DiskQuestion} (next : q.Answer → Inquiry Survey) (p : Snapshot) (d : Disk) :
    Goes root caller r (.walking (.ask q next)) p (.looked caller) d (.walking (next (d q))) p
  | publish (survey : Survey) (p : Snapshot) (now : Nat) (d : Disk) :
    Goes root caller r (.walking (.done survey)) p (.published caller (p.generation + 1)) d
      (.published (survey.report (p.generation + 1))) (p.next now survey)

/-- A cycle ends, and its request is answered. -/
inductive Ends (caller : ι) (r : Request) : Phase → Event ι → Answer → Prop
  | fail {call : SourceCall} {result : Except Failure Unit} {f : Failure} :
    r.fatal? call result = some f →
    Ends caller r (.calling call) (.returned caller result (some (.failed f))) (.failed f)
  | finish (report : Report) :
    Ends caller r (.published report) (.ended caller (some (.completed report))) (.completed report)

/-- The answer that an act gives to the request of the cycle in flight. -/
def Act.answer? : Act ι → Option Answer
  | step (.returned _ _ answer) _ => answer
  | step (.ended _ answer) _ => answer
  | _ => none

/-- The work of the cycle in flight is to go on or to end. -/
theorem Turn.of_busy {caller : ι} {r : Request} {phase : Phase} {e : Event ι} {d : Disk}
    (h : Turn root (busy queue ⟨caller, r, phase⟩ p o) e s') (hwork : e.isWork = true)
    (hlook : ∀ c, e = .looked c → s' = (busy queue ⟨caller, r, phase⟩ p o).look c d) :
    (∃ phase' p', Goes root caller r phase p e d phase' p' ∧
      s' = busy queue ⟨caller, r, phase'⟩ p' o) ∨
    (∃ answer, Ends caller r phase e answer ∧ s' = handedOver queue p o) := by
  generalize hs : busy queue ⟨caller, r, phase⟩ p o = s at h
  cases h with
  | letIn => cases hwork
  | skip => cases hwork
  | wait => cases hwork
  | call caller' r' present =>
    obtain ⟨rfl, hc, rfl, rfl⟩ := busy_inj.1 hs
    cases hc
    exact .inl ⟨_, _, .call p present d, rfl⟩
  | fail _ _ _ hf =>
    obtain ⟨rfl, hc, rfl, rfl⟩ := busy_inj.1 hs
    cases hc
    exact .inr ⟨_, .fail hf, rfl⟩
  | walk _ _ _ hf =>
    obtain ⟨rfl, hc, rfl, rfl⟩ := busy_inj.1 hs
    cases hc
    exact .inl ⟨_, _, .walk p d hf, rfl⟩
  | look caller' r' next d' =>
    -- The disk that answers is the one that the act names.
    obtain ⟨rfl, hc, rfl, rfl⟩ := busy_inj.1 hs
    cases hc
    exact .inl ⟨_, _, .look next p d, (hlook _ rfl).trans (look_busy ..)⟩
  | publish caller' r' survey now =>
    obtain ⟨rfl, hc, rfl, rfl⟩ := busy_inj.1 hs
    cases hc
    exact .inl ⟨_, _, .publish survey p now d, rfl⟩
  | finish caller' r' report =>
    obtain ⟨rfl, hc, rfl, rfl⟩ := busy_inj.1 hs
    cases hc
    exact .inr ⟨_, .finish report, rfl⟩

/-- While a cycle is in flight and its caller stays, it goes on, it ends, or it is left where
    it is. -/
theorem Evolves.of_busy {caller : ι} {r : Request} {phase : Phase}
    (h : Evolves root (busy queue ⟨caller, r, phase⟩ p o) a s') (hstay : a ≠ .left caller) :
    (∃ e d phase' p', a = .step e d ∧ Goes root caller r phase p e d phase' p' ∧
      s' = busy queue ⟨caller, r, phase'⟩ p' o) ∨
    (∃ e d answer, a = .step e d ∧ Ends caller r phase e answer ∧ s' = handedOver queue p o) ∨
    (a.work? = none ∧ a.look? = none ∧ a.answer? = none ∧
      ∃ queue' o', s' = busy queue' ⟨caller, r, phase⟩ (p.after a.foreign?.toList) o') := by
  generalize hs : busy queue ⟨caller, r, phase⟩ p o = s at h
  cases h with
  | @step _ e d hstep hlook =>
    have ht := (hs ▸ busy_onePermit queue ⟨caller, r, phase⟩ p o : s.OnePermit).turn hstep
    cases hwork : e.isWork with
    | true =>
      subst hs
      rcases ht.of_busy hwork hlook with ⟨phase', p', hgoes, rfl⟩ | ⟨answer, hends, rfl⟩
      · exact .inl ⟨e, d, phase', p', rfl, hgoes, rfl⟩
      · exact .inr (.inl ⟨e, d, answer, rfl, hends, rfl⟩)
    | false =>
      -- A request that comes now is skipped or waits.
      refine .inr (.inr ?_)
      cases ht with
      | letIn => exact absurd hs busy_ne_idle
      | skip caller queue' c' p' o' =>
        obtain ⟨rfl, rfl, rfl, rfl⟩ := busy_inj.1 hs
        exact ⟨rfl, rfl, rfl, _, _, rfl⟩
      | wait caller queue' c' p' o' =>
        obtain ⟨rfl, rfl, rfl, rfl⟩ := busy_inj.1 hs
        exact ⟨rfl, rfl, rfl, _, _, rfl⟩
      | _ => cases hwork
  | left other =>
    have hne : caller ≠ other := fun hc => hstay (by rw [hc])
    rw [← hs, abandon_busy_of_ne hne]
    exact .inr (.inr ⟨rfl, rfl, rfl, _, _, rfl⟩)
  | orphan now survey ho =>
    subst hs
    rw [orphanRebuilt_of_pos ho]
    exact .inr (.inr ⟨rfl, rfl, rfl, queue, o - 1, rfl⟩)
  | outside now survey =>
    subst hs
    exact .inr (.inr ⟨rfl, rfl, rfl, queue, o, rfl⟩)

/-- An act in which no cycle goes on: only a cycle that is let in comes into flight, and only
    what others publish is published. -/
structure Rests (a : Act ι) (s s' : Schedule ι) : Prop where
  cycles : ∀ c ∈ s'.cycles, c ∈ s.cycles ∨ c.phase = .admitted
  published : s'.published = s.published.after a.foreign?.toList
  quiet : ∀ caller g d, a ≠ .step (.published caller g) d

omit [DecidableEq ι] in
theorem admitted_of_mem_handedOver (h : c ∈ (handedOver queue p o).cycles) :
    c.phase = .admitted := by
  cases queue with
  | nil => cases h
  | cons next rest =>
    obtain rfl := List.mem_singleton.1 h
    rfl

/-- Whatever happens, the cycle in flight goes on, or none does. -/
theorem OnePermit.goes_or_rests (h : s.OnePermit) (he : Evolves root s a s') :
    (∃ queue caller r phase phase' p p' o e d, s = busy queue ⟨caller, r, phase⟩ p o ∧
      a = .step e d ∧ Goes root caller r phase p e d phase' p' ∧
      s' = busy queue ⟨caller, r, phase'⟩ p' o) ∨ Rests a s s' := by
  rcases h.idle_or_busy with hidle | ⟨queue, ⟨caller, r, phase⟩, hbusy⟩
  · rw [hidle] at he ⊢
    refine .inr ?_
    cases he with
    | step hs _ =>
      obtain ⟨caller, r, rfl, rfl⟩ := ((idle_onePermit ..).turn hs).of_idle
      exact ⟨fun c hc => .inr (congrArg Cycle.phase (List.mem_singleton.1 hc)), rfl, nofun⟩
    | left caller => exact ⟨fun c hc => .inl hc, rfl, nofun⟩
    | orphan now survey ho =>
      rw [orphanRebuilt_of_pos ho]
      exact ⟨fun c hc => .inl hc, rfl, nofun⟩
    | outside now survey => exact ⟨fun c hc => .inl hc, rfl, nofun⟩
  · rw [hbusy] at he ⊢
    -- Who goes away hands the permit over, as the end of a cycle does.
    by_cases hleft : a = .left caller
    · subst hleft
      cases he
      rw [abandon_busy_self]
      exact .inr ⟨fun c hc => .inr (admitted_of_mem_handedOver hc), published_handedOver .., nofun⟩
    rcases he.of_busy hleft with ⟨e, d, phase', p', rfl, hgoes, rfl⟩ |
      ⟨e, d, answer, rfl, hends, rfl⟩ | ⟨hwork, -, -, queue', o', rfl⟩
    · exact .inl ⟨_, _, _, _, _, _, _, _, _, _, rfl, rfl, hgoes, rfl⟩
    · refine .inr ⟨fun c hc => .inr (admitted_of_mem_handedOver hc), published_handedOver ..,
        fun caller' g d' heq => ?_⟩
      cases heq
      cases hends
    · refine .inr ⟨fun c hc => .inl hc, rfl, fun caller' g d' heq => ?_⟩
      rw [heq] at hwork
      cases hwork

/-- A cycle can go on, whatever the others have done. -/
theorem Goes.evolves {caller : ι} {r : Request} {phase phase' : Phase} {p' : Snapshot}
    {e : Event ι} {d : Disk} (h : Goes root caller r phase p e d phase' p') (queue : List ι)
    (o : Nat) :
    Evolves root (busy queue ⟨caller, r, phase⟩ p o) (.step e d)
      (busy queue ⟨caller, r, phase'⟩ p' o) := by
  have hc : (busy queue ⟨caller, r, phase⟩ p o).cycle? caller = some ⟨caller, r, phase⟩ :=
    cycle?_busy
  cases h with
  | call _ present =>
    rw [← call_busy]
    exact .of_step (.call caller present hc (by rw [call_busy, cycle?_busy])) rfl
  | @walk call result _ _ hf =>
    have hstep : Step root (busy queue ⟨caller, r, .calling call⟩ p o) _ _ :=
      .return caller result hc
    rw [returned_busy hf] at hstep
    exact .of_step hstep rfl
  | look next =>
    refine .step ?_ fun c hlooked => ?_
    · have hstep : Step root (busy queue ⟨caller, r, .walking (.ask _ next)⟩ p o) _ _ :=
        .look caller d hc
      rwa [look_busy] at hstep
    · cases hlooked
      rw [look_busy]
      rfl
  | publish survey _ now =>
    have hstep : Step root (busy queue ⟨caller, r, .walking (.done survey)⟩ p o) _ _ :=
      .publish caller now hc
    rw [rebuilt_busy] at hstep
    exact .of_step hstep rfl

/-- A cycle that can end does, whatever the others have done. -/
theorem Ends.evolves {caller : ι} {r : Request} {phase : Phase} {e : Event ι} {answer : Answer}
    (h : Ends caller r phase e answer) (queue : List ι) (p : Snapshot) (o : Nat) (d : Disk) :
    Evolves root (busy queue ⟨caller, r, phase⟩ p o) (.step e d) (handedOver queue p o) := by
  have hc : (busy queue ⟨caller, r, phase⟩ p o).cycle? caller = some ⟨caller, r, phase⟩ :=
    cycle?_busy
  cases h with
  | @fail call result f hf =>
    have hstep : Step root (busy queue ⟨caller, r, .calling call⟩ p o) _ _ :=
      .return caller result hc
    rw [returned_busy_of_fatal hf] at hstep
    exact .of_step hstep rfl
  | finish report =>
    have hstep : Step root (busy queue ⟨caller, r, .published report⟩ p o) _ _ :=
      .finish caller hc
    rw [finish_busy] at hstep
    exact .of_step hstep rfl

/-! ## Cycles on a disk that does not change -/

/-- What happens in a cycle on a disk from its admission to its publication. -/
def cycleActs (caller : ι) (r : Request) (present : Bool) (result : Except Failure Unit)
    (questions g : Nat) (d : Disk) : List (Act ι) :=
  (walkBegun caller r present result questions ++ [Event.published caller g]).map (.step · d)

omit [DecidableEq ι] in
/-- What there is to happen in a cycle on a disk. -/
theorem mem_cycleActs {caller : ι} {r : Request} {present : Bool} {result : Except Failure Unit}
    {n g : Nat} {d : Disk} (h : a ∈ cycleActs caller r present result n g d) :
    a = .step (.called caller r present (.ofPresence present)) d ∨
      a = .step (.returned caller result none) d ∨ a = .step (.looked caller) d ∨
      a = .step (.published caller g) d := by
  obtain ⟨e, he, rfl⟩ := List.mem_map.1 h
  simp only [walkBegun, List.mem_append, List.mem_cons, List.mem_replicate, List.not_mem_nil,
    or_false] at he
  rcases he with (rfl | rfl | ⟨-, rfl⟩) | rfl <;> simp

/-- A walk on a disk that does not change comes to what is on it. -/
theorem exists_run_walk (root : Location) (caller : ι) (r : Request) (walk : Inquiry Survey)
    (d : Disk) (queue : List ι) (p : Snapshot) (o : Nat) :
    ∃ n, Run (Evolves root) (busy queue ⟨caller, r, .walking walk⟩ p o)
      (List.replicate n (.step (.looked caller) d))
      (busy queue ⟨caller, r, .walking (.done (walk.run d))⟩ p o) := by
  induction walk with
  | done survey => exact ⟨0, .nil⟩
  | ask q next ih =>
    obtain ⟨n, hrest⟩ := ih (d q)
    exact ⟨n + 1, .cons ((Goes.look next p d).evolves queue o) hrest⟩

/-- A cycle on a disk that does not change publishes what is on it. -/
theorem exists_run_cycle (root : Location) (caller : ι) {present : Bool}
    {result : Except Failure Unit} (hf : r.fatal? (.ofPresence present) result = none) (d : Disk)
    (queue : List ι) (p : Snapshot) (o now : Nat) :
    ∃ n, Run (Evolves root) (busy queue ⟨caller, r, .admitted⟩ p o)
      (cycleActs caller r present result n (p.generation + 1) d)
      (busy queue ⟨caller, r, .published (((Survey.inquire root).run d).report (p.generation + 1))⟩
        (p.next now ((Survey.inquire root).run d)) o) := by
  obtain ⟨n, hwalk⟩ := exists_run_walk root caller r (Survey.inquire root) d queue p o
  have hwalked := hwalk.step ((Goes.publish _ p now d).evolves queue o)
  have hbegun := Run.cons ((Goes.call p present d).evolves queue o)
    (.cons ((Goes.walk p d hf).evolves queue o) hwalked)
  refine ⟨n, ?_⟩
  rw [cycleActs, walkBegun, List.map_append, List.map_cons, List.map_cons, List.map_replicate]
  exact hbegun

end Schedule

end TemplateCatalog
