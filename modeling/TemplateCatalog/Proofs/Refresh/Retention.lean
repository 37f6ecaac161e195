import TemplateCatalog.Proofs.Catalog.Containment
import TemplateCatalog.Proofs.Refresh.Resilience

/-!
# What a refresh leaves to be listed

A refresh rebuilds the catalog whatever its source has come to. If the source has failed, this
is meant to leave what was published: the walk goes over the tree that the last rebuild has
seen, and comes to the same (`LastRebuilt`). But if the mirror is gone and cannot be made again,
the walk finds no root to list, which is no failure, and an empty catalog is published.

* `LastRebuilt.shows`: what is published is what the last rebuild has seen;
* `refresh_keeps_iff`: a refresh leaves the same to be listed exactly if the mirror is there
  still, or there was nothing to be listed;
* `exists_refreshed`: a refresh that fails, on any disk, after one that did not.
-/

namespace TemplateCatalog

/-- The mirror is gone: there is nothing in its place. -/
def Disk.Lost (d : Disk) (mirror : Location) : Prop := d.AgreeBelow .bare mirror

/-- If the root cannot be listed, a walk finds no template. -/
theorem Survey.templates_of_error {d : Disk} {root : Location} {e : DiskError}
    (h : d.names root = .error e) : ((inquire root).run d).templates = .empty := by
  rw [run_inquire, Disk.entries, h]
  rfl

namespace Schedule

variable {ι : Type}

/-- The last rebuild has seen a disk. -/
inductive LastRebuilt (root : Location) (d : Disk) : List (Act ι) → Prop
  /-- It was that of a cycle, and nothing has been published since. -/
  | cycle {earlier walk since : List (Act ι)} {caller : ι} {result : Except Failure Unit}
    {g : Nat} {d₀ d₁ : Disk} :
    (∀ b ∈ walk, b.Sees d) → (∀ b ∈ since, ¬ b.Publishes) →
    LastRebuilt root d (earlier ++ .step (.returned caller result none) d₀ ::
      (walk ++ .step (.published caller g) d₁ :: since))
  /-- It was one that somebody else has published. -/
  | other {earlier since : List (Act ι)} {a : Act ι} {now : Nat} {survey : Survey} :
    a.foreign? = some (now, survey) →
    survey.templates = ((Survey.inquire root).run d).templates → (∀ b ∈ since, ¬ b.Publishes) →
    LastRebuilt root d (earlier ++ a :: since)

variable [DecidableEq ι] {root mirror : Location} {caller : ι} {r : Request}
  {before during log : List (Act ι)} {a : Act ι} {d d' : Disk} {s₀ s : Schedule ι}
  {answer : Answer}

/-- A refresh from its admission, after a run with the log `before`, to its answer. -/
structure Refreshed (root : Location) (caller : ι) (before during : List (Act ι))
    (s₀ s : Schedule ι) (answer : Answer) : Prop where
  before : Run (Evolves root) .empty before s₀
  admitted : s₀.cycle? caller = some ⟨caller, .refresh, .admitted⟩
  during : ∃ log a s₁, during = log ++ [a] ∧ Run (Evolves root) s₀ log s₁ ∧
    (∀ b ∈ log, b.Keeps caller) ∧ Evolves root s₁ a s ∧ a.answer? = some answer

/-- What is published is what the last rebuild has seen. -/
theorem LastRebuilt.shows (hlast : LastRebuilt root d log)
    (h : Run (Evolves root) .empty log s) : Shows root d s.published := by
  cases hlast with
  | cycle hwalk hsince =>
    obtain ⟨s₁, s₂, hearlier, hreturned, hrun⟩ := h.split_through rfl
    obtain ⟨s₃, s₄, hwalked, hpublished, hrest⟩ := hrun.split_through rfl
    have hone := onePermit_of_run hearlier (idle_onePermit _ _)
    have hone' := onePermit_of_run hwalked (hone.evolves hreturned)
    have hdisk := onDisk_of_run hwalked (hone.evolves hreturned)
      (onDisk_of_returned hone hreturned) hwalk
    rw [Shows, published_of_run hrest (hone'.evolves hpublished) hsince]
    exact (hone'.onDisk hpublished (fun _ heq => by cases heq) hdisk).2 _ _ _ rfl
  | other hforeign hsurvey hsince =>
    obtain ⟨s₁, s₂, hearlier, he, hrun⟩ := h.split_through rfl
    have hone := onePermit_of_run hearlier (idle_onePermit _ _)
    rw [Shows, published_of_run hrun (hone.evolves he) hsince, he.published_of_foreign hforeign]
    exact hsurvey

/-- A refresh publishes what walks have seen since it was admitted. -/
theorem Refreshed.shows (h : Refreshed root caller before during s₀ s answer)
    (hsees : ∀ b ∈ during, b.Sees d ∧ b.Agrees root d) :
    (∃ report, answer = .completed report) ∧ Shows root d s.published := by
  obtain ⟨log, a, s₁, rfl, hrun, hkeeps, he, hanswer⟩ := h.during
  have hone := onePermit_of_run h.before (idle_onePermit _ _)
  obtain ⟨queue, hbusy⟩ := hone.eq_busy h.admitted
  rw [hbusy] at hone hrun
  obtain ⟨present, result, hout⟩ := (inFlight_of_run hrun hkeeps).outcome he hanswer
  obtain ⟨report, rfl⟩ := hout.refresh rfl
  obtain ⟨survey, -, ⟨-, first, last, d', now, hlog, -⟩, -⟩ := hout.completed report rfl
  have hpublished : .step (.published caller report.generation) d' ∈ log ++ [a] := by
    rw [hlog]
    exact List.mem_append_right _ List.mem_cons_self
  exact ⟨⟨report, rfl⟩,
    shows_of_run (hrun.step he) hone (onDisk_busy.2 nofun) hsees ⟨_, hpublished, trivial⟩⟩

/-- If there is no mirror, a refresh leaves nothing to be listed. -/
theorem Refreshed.list_eq_nil (h : Refreshed root caller before during s₀ s answer)
    (hmirror : mirror.Below root) (hsees : ∀ b ∈ during, b.Sees d ∧ b.Agrees root d)
    (hlost : d.Lost mirror) :
    s.published.list = [] := by
  have hroot : d.names root = .error .notFound := (hlost.below hmirror).names
  exact congrArg Dictionary.values ((h.shows hsees).2.trans (Survey.templates_of_error hroot))

/-- **What a refresh leaves**: if the tree has not changed since the last rebuild, unless its
    whole mirror is gone, a refresh completes, whatever its source came to. It leaves the same
    to be listed exactly if the mirror is there still or there was nothing to be listed. -/
theorem refresh_keeps_iff (hmirror : mirror.Below root)
    (h : Refreshed root caller before during s₀ s answer) (hlast : LastRebuilt root d before)
    (hsees : ∀ b ∈ during, b.Sees d' ∧ b.Agrees root d') (hdisk : d' = d ∨ d'.Lost mirror) :
    (∃ report, answer = .completed report) ∧
      (s.published.list = s₀.published.list ↔ (d'.Lost mirror → s₀.published.list = [])) := by
  obtain ⟨hanswer, hafter⟩ := h.shows hsees
  refine ⟨hanswer, fun hsame hlost => ?_, fun hnone => ?_⟩
  · rw [← hsame, h.list_eq_nil hmirror hsees hlost]
  · rcases hdisk with rfl | hlost
    · exact congrArg Dictionary.values (hafter.trans (hlast.shows h.before).symm)
    · rw [h.list_eq_nil hmirror hsees hlost, hnone hlost]

/-! ## A refresh whose source fails -/

omit [DecidableEq ι] in
theorem still_of_mem_cycleActs {present : Bool} {result : Except Failure Unit} {n g : Nat}
    (h : a ∈ cycleActs caller r present result n g d) : a.Still d := by
  rcases mem_cycleActs h with rfl | rfl | rfl | rfl <;> rfl

omit [DecidableEq ι] in
theorem keeps_of_mem_cycleActs {present : Bool} {result : Except Failure Unit} {n g : Nat}
    (h : a ∈ cycleActs caller r present result n g d) : a.Keeps caller := by
  rcases mem_cycleActs h with rfl | rfl | rfl | rfl <;> exact ⟨rfl, nofun⟩

omit [DecidableEq ι] in
/-- A cycle on a disk is a rebuild that has seen it, and the last one if nothing is published
    after it. -/
theorem lastRebuilt_cycleActs {present : Bool} {result : Except Failure Unit} {n g : Nat}
    (earlier : List (Act ι)) {later : List (Act ι)} (hlater : ∀ b ∈ later, ¬ b.Publishes) :
    LastRebuilt root d (earlier ++ (cycleActs caller r present result n g d ++ later)) := by
  have hlooked : ∀ b ∈ List.replicate n (Act.step (.looked caller) d), b.Sees d := by
    intro b hb
    obtain ⟨-, rfl⟩ := List.mem_replicate.1 hb
    exact Act.Still.sees rfl
  have hcycle : LastRebuilt root d (earlier ++ [.step (.called caller r present
      (.ofPresence present)) d] ++ .step (.returned caller result none) d ::
      (List.replicate n (.step (.looked caller) d) ++
        .step (.published caller g) d :: later)) := .cycle hlooked hlater
  simpa [cycleActs, walkBegun] using hcycle

/-- A catalog is published from a disk, and then a refresh is admitted. -/
theorem exists_run_admitted (root : Location) (d d' : Disk) :
    ∃ before : List (Act Nat), LastRebuilt root d before ∧ Run (Evolves root) .empty before
      (busy [] ⟨1, .refresh, .admitted⟩
        (Snapshot.empty.next 0 ((Survey.inquire root).run d)) 0) := by
  have hok : Request.refresh.fatal? (.ofPresence true) (.ok ()) = none := rfl
  obtain ⟨n, hpublished⟩ := exists_run_cycle root 0 hok d [] .empty 0 0
  have hfirst : Evolves root .empty (.step (.asked 0 .refresh .admitted) d)
      (busy [] ⟨0, .refresh, .admitted⟩ .empty 0) := .of_step (.ask 0 .refresh) rfl
  have hsecond (p : Snapshot) : Evolves root (handedOver [] p 0)
      (.step (.asked 1 .refresh .admitted) d') (busy [] ⟨1, .refresh, .admitted⟩ p 0) :=
    .of_step (.ask 1 .refresh) rfl
  have hrun := Run.cons hfirst
    ((hpublished.step ((Ends.finish _).evolves [] _ 0 d)).step (hsecond _))
  rw [List.append_assoc] at hrun
  refine ⟨_, lastRebuilt_cycleActs [_] fun b hb => ?_, hrun⟩
  simp only [List.singleton_append, List.mem_cons, List.not_mem_nil, or_false] at hb
  rcases hb with rfl | rfl
  · exact id
  · exact id

/-- A catalog is published from one disk, and then a refresh meets another, on which its source
    fails. -/
theorem exists_refreshed (root : Location) (d d' : Disk) (present : Bool) (f : Failure) :
    ∃ (before during : List (Act Nat)) (s₀ s : Schedule Nat) (answer : Answer),
      Refreshed root 1 before during s₀ s answer ∧ LastRebuilt root d before ∧
      (∀ b ∈ during, b.Sees d' ∧ b.Agrees root d') ∧
      .step (.called 1 .refresh present (.ofPresence present)) d' ∈ during ∧
      .step (.returned 1 (.error f) none) d' ∈ during := by
  obtain ⟨before, hlast, hbefore⟩ := exists_run_admitted root d d'
  have hf : Request.refresh.fatal? (.ofPresence present) (.error f) = none := by
    cases present <;> rfl
  obtain ⟨n, hpublished⟩ := exists_run_cycle root 1 hf d' []
    (Snapshot.empty.next 0 ((Survey.inquire root).run d)) 0 0
  refine ⟨before, _, _, _, _, ⟨hbefore, cycle?_busy, _, _, _, rfl, hpublished,
    fun b => keeps_of_mem_cycleActs, (Ends.finish _).evolves [] _ 0 d', rfl⟩, hlast,
    fun b hb => ?_, ?_, ?_⟩
  · have hstill : b.Still d' := by
      rcases List.mem_append.1 hb with hb | hb
      · exact still_of_mem_cycleActs hb
      · obtain rfl := List.mem_singleton.1 hb
        exact rfl
    exact ⟨hstill.sees, hstill.agrees⟩
  · simp [cycleActs, walkBegun]
  · simp [cycleActs, walkBegun]

/-- The shelf has something to be listed. -/
theorem shelf_list_ne_nil {p : Snapshot} (h : Shows (.ofString "shelf") Disk.shelf p) :
    p.list ≠ [] := by
  have hfind := Survey.find?_templates.2 ⟨Disk.shelf_publishes, rfl⟩
  rw [← show p.templates = _ from h] at hfind
  exact List.ne_nil_of_mem (List.mem_map.2 ⟨_, Dictionary.mem_entries_iff.2 hfind, rfl⟩)

/-- A refresh that fails to bring the mirror up to date leaves the catalog of the shelf. -/
theorem refresh_keeps_unsynchronized :
    ∃ (before during : List (Act Nat)) (s₀ s : Schedule Nat) (answer : Answer) (f : Failure),
      Refreshed (.ofString "shelf") 1 before during s₀ s answer ∧
      LastRebuilt (.ofString "shelf") Disk.shelf before ∧
      (∀ b ∈ during, b.Sees Disk.shelf ∧ b.Agrees (.ofString "shelf") Disk.shelf) ∧
      .step (.called 1 .refresh true .synchronize) Disk.shelf ∈ during ∧
      .step (.returned 1 (.error f) none) Disk.shelf ∈ during ∧
      s₀.published.list ≠ [] ∧ s.published.list = s₀.published.list := by
  obtain ⟨before, during, s₀, s, answer, h, hlast, hsees, hcalled, hreturned⟩ :=
    exists_refreshed (.ofString "shelf") Disk.shelf Disk.shelf true (.ofError .gitMissing)
  obtain ⟨-, hkeeps⟩ := refresh_keeps_iff .here h hlast hsees (.inl rfl)
  refine ⟨before, during, s₀, s, answer, _, h, hlast, hsees, hcalled, hreturned,
    shelf_list_ne_nil (hlast.shows h.before), hkeeps.2 fun hlost => ?_⟩
  -- The mirror is there.
  exact absurd (hlost (.isDirectory (.ofString "shelf")) .here) (by decide)

/-- But if the mirror is gone and cannot be made again, a refresh takes the catalog away. -/
theorem refresh_empties_lost :
    ∃ (before during : List (Act Nat)) (s₀ s : Schedule Nat) (answer : Answer) (f : Failure),
      Refreshed (.ofString "shelf") 1 before during s₀ s answer ∧
      LastRebuilt (.ofString "shelf") Disk.shelf before ∧
      (∀ b ∈ during, b.Sees Disk.bare ∧ b.Agrees (.ofString "shelf") Disk.bare) ∧
      Disk.bare.Lost (.ofString "shelf") ∧
      .step (.called 1 .refresh false .ensure) Disk.bare ∈ during ∧
      .step (.returned 1 (.error f) none) Disk.bare ∈ during ∧
      s₀.published.list ≠ [] ∧ s.published.list = [] := by
  obtain ⟨before, during, s₀, s, answer, h, hlast, hsees, hcalled, hreturned⟩ :=
    exists_refreshed (.ofString "shelf") Disk.shelf Disk.bare false (.ofError .gitMissing)
  have hlost : Disk.bare.Lost (.ofString "shelf") := fun q _ => rfl
  exact ⟨before, during, s₀, s, answer, _, h, hlast, hsees, hlost, hcalled, hreturned,
    shelf_list_ne_nil (hlast.shows h.before), h.list_eq_nil .here hsees hlost⟩

end Schedule

end TemplateCatalog
