import TemplateCatalog.Proofs.Refresh.Resilience

/-!
# Refreshes whose callers go away

A poll that is stopped goes away as any caller may, at any moment, also while its refresh is in
flight. The refresh is meant to run to completion then (`Completes`): until it has published,
the gate stays shut and no other cycle does any work. But the permit goes with the caller, so
this holds only of a refresh that has published by then. Before that, its call of the source is
cut short, and its walk goes on beside those of others (`Abandoned`).

* `OnePermit.abandoned`: what becomes of a cycle whose caller goes away, phase by phase;
* `OnePermit.exists_disturbed`: another cycle can begin at once;
* `orphans_of_run`: as many walks publish as are left behind;
* `completes_iff`: a refresh runs to completion exactly if it has published.
-/

namespace TemplateCatalog.Schedule

variable {ι : Type}

/-- The caller whose event it is. -/
def Event.caller : Event ι → ι
  | asked caller .. => caller
  | called caller .. => caller
  | returned caller .. => caller
  | looked caller => caller
  | published caller _ => caller
  | ended caller _ => caller

/-- An act in which no request is let in, and no cycle does any work but that of a caller. -/
def Act.LeavesAlone (caller : ι) : Act ι → Prop
  | step (.asked _ _ admission) _ => admission ≠ .admitted
  | step e _ => e.caller = caller
  | _ => True

/-- Whether a walk that was left behind publishes in an act. -/
def Act.isOrphan : Act ι → Bool
  | orphan .. => true
  | _ => false

/-- The cycle of a caller has published. -/
def HasPublished (caller : ι) (log : List (Act ι)) : Prop :=
  ∃ g d, .step (.published caller g) d ∈ log

variable [DecidableEq ι] {root : Location} {caller : ι} {r : Request} {p₀ p : Snapshot}
  {before log : List (Act ι)} {a : Act ι} {e : Event ι} {s₀ s s' : Schedule ι} {queue : List ι}
  {phase : Phase} {o : Nat}

/-- A refresh that was admitted when `p₀` was published runs to completion, although its caller
    goes away after these acts, in the state `s`. -/
structure Completes (root : Location) (caller : ι) (p₀ : Snapshot) (log : List (Act ι))
    (s : Schedule ι) : Prop where
  /-- It was alone as long as its caller was there. -/
  alone : ∀ a ∈ log, a.LeavesAlone caller
  /-- If it has published, that was the next generation. -/
  next : HasPublished caller log → ∃ first g d last,
    log = first ++ .step (.published caller g) d :: last ∧
      g = (p₀.after (foreign first)).generation + 1
  /-- If it has not, its walk goes on. -/
  goesOn : ¬ HasPublished caller log → (s.abandon caller).orphans = s.orphans + 1
  /-- Then it is alone until a walk that was left behind has published. -/
  undisturbed : ¬ HasPublished caller log → ∀ later s',
    Run (Evolves root) (s.abandon caller) later s' → (∀ a ∈ later, a.isOrphan = false) →
      ∀ a ∈ later, a.LeavesAlone caller
  /-- And that is the next generation. -/
  nextLater : ¬ HasPublished caller log → ∀ later now survey s',
    Run (Evolves root) (s.abandon caller) (later ++ [.orphan now survey]) s' →
      (∀ a ∈ later, a.isOrphan = false) →
      s'.published.generation = (p₀.after (foreign (log ++ later))).generation + 1

/-- What becomes of a schedule if the caller of the cycle in flight goes away. -/
structure Abandoned (root : Location) (caller : ι) (phase : Phase) (s : Schedule ι) : Prop where
  /-- If no other bootstrap waits, the gate is open at once: the next refresh is admitted. -/
  opens : s.gate.queue.filter (· ≠ caller) = [] →
    (s.abandon caller).gate = .ofPermits 1 ∧
      ∀ other, ((s.abandon caller).request other .refresh).2 = .admitted
  /-- Otherwise the one that has waited longest is in at once. -/
  passedOn : ∀ next rest, s.gate.queue.filter (· ≠ caller) = next :: rest →
    (s.abandon caller).cycle? next = some ⟨next, .bootstrap, .admitted⟩ ∧
      (s.abandon caller).gate.queue = rest
  /-- Nothing is published for it. -/
  published : (s.abandon caller).published = s.published
  /-- Only a walk goes on; a call that is cut short comes to nothing. -/
  orphans : (s.abandon caller).orphans = s.orphans + if phase.isWalking then 1 else 0
  /-- As many walks publish as are left behind, unless more callers go away. -/
  accounts : ∀ later s', Run (Evolves root) (s.abandon caller) later s' →
    (∀ a ∈ later, a.Stays) →
      s'.orphans + later.countP Act.isOrphan = (s.abandon caller).orphans

/-! ## While the caller is there -/

omit [DecidableEq ι] in
/-- While a cycle is in flight, all the work is its own, and no request is let in. -/
theorem Turn.leavesAlone (h : Turn root (busy queue ⟨caller, r, phase⟩ p o) e s') (d : Disk) :
    (Act.step e d).LeavesAlone caller := by
  generalize hs : busy queue ⟨caller, r, phase⟩ p o = s at h
  cases h with
  | letIn => exact absurd hs busy_ne_idle
  | skip => exact nofun
  | wait => exact nofun
  | _ =>
    obtain ⟨-, hc, -⟩ := busy_inj.1 hs
    cases hc
    rfl

theorem Evolves.leavesAlone (h : Evolves root (busy queue ⟨caller, r, phase⟩ p o) a s') :
    a.LeavesAlone caller := by
  cases h with
  | step hs _ => exact ((busy_onePermit ..).turn hs).leavesAlone _
  | _ => trivial

/-- A cycle is alone as long as its caller is there. -/
theorem leavesAlone_of_run (h : Run (Evolves root) (busy queue ⟨caller, r, .admitted⟩ p₀ o) log s)
    (hkeeps : ∀ a ∈ log, a.Keeps caller) : ∀ a ∈ log, a.LeavesAlone caller := by
  induction h with
  | nil => exact fun _ ha => absurd ha List.not_mem_nil
  | @step log s s' a hrun he ih =>
    obtain ⟨hbefore, -⟩ := List.forall_mem_append.1 hkeeps
    obtain ⟨queue, phase, p, o, rfl, -⟩ := inFlight_of_run hrun hbefore
    exact List.forall_mem_append.2 ⟨ih hbefore, List.forall_mem_singleton.2 he.leavesAlone⟩

omit [DecidableEq ι] in
/-- What a cycle has published is among its work. -/
theorem mem_work_of_published {g : Nat} {d : Disk} (h : .step (.published caller g) d ∈ log) :
    .published caller g ∈ work log :=
  List.mem_filterMap.2 ⟨_, h, rfl⟩

omit [DecidableEq ι] in
/-- A cycle has published if that is its phase. -/
theorem Stage.hasPublished_iff (h : Stage root caller r p₀ log p phase) :
    HasPublished caller log ↔ ∃ report, phase = .published report := by
  have hnone : (∀ g, .published caller g ∉ work log) → ¬ HasPublished caller log :=
    fun hwork ⟨g, _, hmem⟩ => hwork g (mem_work_of_published hmem)
  cases phase with
  | admitted =>
    refine iff_of_false (hnone fun g => ?_) nofun
    rw [h.1]
    exact List.not_mem_nil
  | calling call =>
    obtain ⟨present, -, hwork, -⟩ := h
    refine iff_of_false (hnone fun g => ?_) nofun
    simp [hwork]
  | walking walk =>
    obtain ⟨present, result, -, hwork, -⟩ := h
    refine iff_of_false (hnone fun g => ?_) nofun
    simp [hwork, walkBegun]
  | published report =>
    obtain ⟨present, result, survey, -, -, hrebuilt⟩ := h
    obtain ⟨first, last, d, now, rfl, -⟩ := hrebuilt.published
    exact iff_of_true ⟨_, d, List.mem_append_right _ List.mem_cons_self⟩ ⟨report, rfl⟩

/-! ## When it has gone -/

omit [DecidableEq ι] in
@[simp] theorem orphans_handedOver (queue : List ι) (p : Snapshot) (o : Nat) :
    (handedOver queue p o).orphans = o := by
  cases queue <;> rfl

omit [DecidableEq ι] in
/-- A turn leaves no walk behind, and publishes none that was. -/
theorem Turn.orphans (h : Turn root s e s') : s'.orphans = s.orphans := by
  cases h with
  | fail => exact orphans_handedOver ..
  | finish => exact orphans_handedOver ..
  | _ => rfl

/-- As many walks publish as are left behind, as long as nobody goes away. -/
theorem orphans_of_run (h : Run (Evolves root) s₀ log s) (hp : s₀.OnePermit)
    (hstay : ∀ a ∈ log, a.Stays) :
    s.orphans + log.countP Act.isOrphan = s₀.orphans := by
  induction h with
  | nil => rfl
  | @step log s s' a hrun he ih =>
    obtain ⟨hbefore, hlast⟩ := List.forall_mem_append.1 hstay
    rw [← ih hbefore, List.countP_append, List.countP_singleton]
    cases he with
    | step hs _ =>
      rw [((onePermit_of_run hrun hp).turn hs).orphans]
      rfl
    | left other => exact absurd rfl (hlast _ (List.mem_singleton_self _) other)
    | orphan now survey ho =>
      rw [orphanRebuilt_of_pos ho]
      simp only [Act.isOrphan, if_true]
      omega
    | outside => rfl

/-- What becomes of a schedule with one permit if the caller of the cycle in flight goes away. -/
theorem OnePermit.abandoned (h : s.OnePermit) (hc : s.cycle? caller = some ⟨caller, r, phase⟩)
    (root : Location) : Abandoned root caller phase s := by
  have hgone : Evolves root s (.left caller) (s.abandon caller) := .left caller
  have haccounts : ∀ later s', Run (Evolves root) (s.abandon caller) later s' →
      (∀ a ∈ later, a.Stays) →
      s'.orphans + later.countP Act.isOrphan = (s.abandon caller).orphans :=
    fun later s' hrun hstay => orphans_of_run hrun (h.evolves hgone) hstay
  obtain ⟨queue, hs⟩ := h.eq_busy hc
  have hleft := abandon_busy_self queue r phase caller s.published s.orphans
  rw [← hs] at hleft
  have hqueue : s.gate.queue = queue := by rw [hs]; rfl
  refine ⟨fun hnone => ?_, fun next rest hsome => ?_, ?_, ?_, haccounts⟩
  · rw [hqueue] at hnone
    rw [hleft, hnone]
    exact ⟨rfl, fun _ => rfl⟩
  · rw [hqueue] at hsome
    rw [hleft, hsome]
    exact ⟨cycle?_busy, rfl⟩
  · rw [hleft, published_handedOver]
  · rw [hleft, orphans_handedOver]

/-- When the caller of the cycle in flight has gone, another cycle can begin at once. -/
theorem OnePermit.exists_disturbed (h : s.OnePermit)
    (hc : s.cycle? caller = some ⟨caller, r, phase⟩) (root : Location) (d : Disk) :
    ∃ a s', Evolves root (s.abandon caller) a s' ∧ a.isOrphan = false ∧ ¬ a.LeavesAlone caller := by
  have hgone := h.abandoned hc root
  cases hqueue : s.gate.queue.filter (· ≠ caller) with
  | nil =>
    have hadmitted := (hgone.opens hqueue).2 caller
    refine ⟨_, _, .ask caller .refresh d, rfl, fun halone => ?_⟩
    exact halone hadmitted
  | cons next rest =>
    -- The bootstrap that is in now calls the source.
    have hmem : next ∈ s.gate.queue.filter (· ≠ caller) := hqueue ▸ List.mem_cons_self
    have hne : next ≠ caller := by simpa using (List.mem_filter.1 hmem).2
    obtain ⟨hin, -⟩ := hgone.passedOn next rest hqueue
    have hleft : Evolves root s (.left caller) (s.abandon caller) := .left caller
    obtain ⟨queue, hbusy⟩ := (h.evolves hleft).eq_busy hin
    rw [hbusy]
    exact ⟨_, _, (Goes.call _ true d).evolves queue _, rfl, hne⟩

/-- Beside a walk that was left behind, the whole cycle of another caller can go on, and what the
    walk has found is published after what that has. -/
theorem OnePermit.exists_run_beside {walk : Inquiry Survey} (h : s.OnePermit)
    (hc : s.cycle? caller = some ⟨caller, r, .walking walk⟩)
    (hqueue : s.gate.queue.filter (· ≠ caller) = []) (root : Location) (other : ι) (d : Disk)
    (now : Nat) (survey : Survey) :
    ∃ n t t', Run (Evolves root) (s.abandon caller) (.step (.asked other .refresh .admitted) d ::
        cycleActs other .refresh true (.ok ()) n (s.published.generation + 1) d) t ∧
      t.orphans = s.orphans + 1 ∧
      Evolves root t (.orphan now survey) t' ∧
      t'.published.generation = s.published.generation + 2 := by
  obtain ⟨queue, hs⟩ := h.eq_busy hc
  -- Nobody else waits, so the permit is free again, and the walk is an orphan.
  have hleft : s.abandon caller = idle s.published (s.orphans + 1) := by
    rw [hs] at hqueue
    rw [hs, abandon_busy_self, show queue.filter (· ≠ caller) = [] from hqueue]
    rfl
  have hok : Request.refresh.fatal? (.ofPresence true) (.ok ()) = none := rfl
  obtain ⟨n, hcycle⟩ := exists_run_cycle root other hok d [] s.published (s.orphans + 1) 0
  have hasked : Evolves root (idle s.published (s.orphans + 1))
      (.step (.asked other .refresh .admitted) d)
      (busy [] ⟨other, .refresh, .admitted⟩ s.published (s.orphans + 1)) :=
    .ask other .refresh d
  rw [hleft]
  refine ⟨n, _, _, .cons hasked hcycle, rfl, .orphan now survey (Nat.succ_pos _), ?_⟩
  rw [orphanRebuilt_of_pos (Nat.succ_pos _)]
  rfl

/-! ## Completion -/

/-- A refresh that has published is complete. -/
theorem Stage.completes {report : Report}
    (h : Stage root caller r p₀ log p (.published report))
    (halone : ∀ a ∈ log, a.LeavesAlone caller) (s : Schedule ι) :
    Completes root caller p₀ log s := by
  have hpublished : HasPublished caller log := h.hasPublished_iff.2 ⟨report, rfl⟩
  obtain ⟨present, result, survey, -, -, hrebuilt⟩ := h
  obtain ⟨first, last, d, now, hlog, hreport, -⟩ := hrebuilt.published
  refine ⟨halone, fun _ => ⟨first, _, d, last, hlog, congrArg Report.generation hreport⟩, ?_, ?_, ?_⟩
  all_goals exact absurd hpublished

/-- A refresh that has not published is not. -/
theorem Completes.hasPublished (h : Completes root caller p₀ log s) (hone : s.OnePermit)
    (hc : s.cycle? caller = some ⟨caller, r, phase⟩) : HasPublished caller log := by
  refine Classical.byContradiction fun hnot => ?_
  obtain ⟨a, s', he, horphan, hdisturbed⟩ := hone.exists_disturbed hc root Disk.bare
  exact hdisturbed <| h.undisturbed hnot [a] s' (Run.nil.step he)
    (List.forall_mem_singleton.2 horphan) a List.mem_cons_self

/-- **Stopped refreshes**: a refresh that was admitted in any state that a schedule can come to
    runs to completion when its caller goes away, be it a poll that is stopped, exactly if it has
    published by then. Otherwise the gate is open to the next at once. If the refresh was calling
    its source, that call is cut short and nothing is rebuilt. If it was walking, its walk goes on
    and is published, but the cycles of others begin beside it. -/
theorem completes_iff (h : Run (Evolves root) .empty before s₀)
    (hc : s₀.cycle? caller = some ⟨caller, .refresh, .admitted⟩)
    (hrun : Run (Evolves root) s₀ log s) (hkeeps : ∀ a ∈ log, a.Keeps caller) :
    ∃ phase, s.cycle? caller = some ⟨caller, .refresh, phase⟩ ∧
      (Completes root caller s₀.published log s ↔ ∃ report, phase = .published report) ∧
      Abandoned root caller phase s := by
  have hone := onePermit_of_run h (idle_onePermit _ _)
  obtain ⟨queue, hbusy⟩ := hone.eq_busy hc
  have hrun' := hrun
  rw [hbusy] at hrun'
  have halone := leavesAlone_of_run hrun' hkeeps
  obtain ⟨queue', phase, p, o, hs, hstage⟩ := inFlight_of_run hrun' hkeeps
  have hone' := onePermit_of_run hrun hone
  have hflight : s.cycle? caller = some ⟨caller, .refresh, phase⟩ := hs ▸ cycle?_busy
  refine ⟨phase, hflight, ⟨fun hcompletes => ?_, ?_⟩, hone'.abandoned hflight root⟩
  · exact hstage.hasPublished_iff.1 (hcompletes.hasPublished hone' hflight)
  · rintro ⟨report, rfl⟩
    exact hstage.completes halone s

/-- A refresh is admitted, and it does all its work on a bare disk before its caller goes away. -/
theorem refresh_completes_published :
    ∃ (before log : List (Act Nat)) (s₀ s : Schedule Nat),
      Run (Evolves (.ofString "shelf")) .empty before s₀ ∧
      s₀.cycle? 0 = some ⟨0, .refresh, .admitted⟩ ∧
      Run (Evolves (.ofString "shelf")) s₀ log s ∧ (∀ a ∈ log, a.Keeps 0) ∧
      s.published.generation = 1 ∧ Completes (.ofString "shelf") 0 s₀.published log s := by
  have hasked : Run (Evolves (.ofString "shelf")) .empty _
      (busy [] ⟨0, .refresh, .admitted⟩ .empty 0) :=
    Run.nil.step (.ask 0 .refresh Disk.bare)
  have hok : Request.refresh.fatal? (.ofPresence true) (.ok ()) = none := rfl
  obtain ⟨n, hcycle⟩ := exists_run_cycle (.ofString "shelf") 0 hok Disk.bare [] .empty 0 7
  have hkeeps : ∀ a ∈ cycleActs 0 .refresh true (.ok ()) n 1 Disk.bare, a.Keeps 0 := by
    intro a ha
    rcases mem_cycleActs ha with rfl | rfl | rfl | rfl <;> exact ⟨rfl, nofun⟩
  obtain ⟨phase, hphase, hiff, -⟩ := completes_iff hasked cycle?_busy hcycle hkeeps
  rw [cycle?_busy] at hphase
  cases hphase
  exact ⟨_, _, _, _, hasked, cycle?_busy, hcycle, hkeeps, rfl, hiff.2 ⟨_, rfl⟩⟩

/-- But a refresh is cut short while it synchronizes: nothing of it goes on, another is admitted at
    once and calls the source again, and nothing has been published. -/
theorem refresh_cut_short :
    ∃ (before log : List (Act Nat)) (s₀ s t : Schedule Nat),
      Run (Evolves (.ofString "shelf")) .empty before s₀ ∧
      s₀.cycle? 0 = some ⟨0, .refresh, .admitted⟩ ∧
      Run (Evolves (.ofString "shelf")) s₀ log s ∧ (∀ a ∈ log, a.Keeps 0) ∧
      s.cycle? 0 = some ⟨0, .refresh, .calling .synchronize⟩ ∧
      ¬ Completes (.ofString "shelf") 0 s₀.published log s ∧
      Run (Evolves (.ofString "shelf")) (s.abandon 0)
        [.step (.asked 1 .refresh .admitted) Disk.bare,
          .step (.called 1 .refresh true .synchronize) Disk.bare] t ∧
      t.published.generation = 0 ∧ t.orphans = 0 := by
  have hasked : Run (Evolves (.ofString "shelf")) .empty _
      (busy [] ⟨0, .refresh, .admitted⟩ .empty 0) :=
    Run.nil.step (.ask 0 .refresh Disk.bare)
  have hcalled : Run (Evolves (.ofString "shelf")) (busy [] ⟨0, .refresh, .admitted⟩ .empty 0)
      [.step (.called 0 .refresh true .synchronize) Disk.bare]
      (busy [] ⟨0, .refresh, .calling .synchronize⟩ .empty 0) :=
    Run.nil.step ((Goes.call .empty true Disk.bare).evolves [] 0)
  have hagain : Run (Evolves (.ofString "shelf"))
      ((busy [] ⟨0, .refresh, .calling .synchronize⟩ .empty 0).abandon 0) _ _ :=
    (Run.nil.step (.ask 1 .refresh Disk.bare)).step
      ((Goes.call .empty true Disk.bare).evolves [] 0)
  refine ⟨_, _, _, _, _, hasked, cycle?_busy, hcalled, ?_, cycle?_busy, fun hcompletes => ?_,
    hagain, rfl, rfl⟩
  · exact List.forall_mem_singleton.2 ⟨rfl, nofun⟩
  · obtain ⟨g, d, hmem⟩ := hcompletes.hasPublished (busy_onePermit ..) cycle?_busy
    cases List.mem_singleton.1 hmem

end TemplateCatalog.Schedule
