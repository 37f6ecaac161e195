import Mathlib.Data.List.Nodup
import Mathlib.Logic.Function.Basic
import TemplateCatalog.Catalog.Snapshot
import TemplateCatalog.Proofs.Run

/-!
# An index that many share

Any number of callers rebuild the catalog at the same time, and any number of readers
look at it. A rebuild walks over the templates, asking the disk one question after
another while the others go on and the disk may change; then it publishes what it found
in one step, and says so in its report. A reader takes the snapshot that is published,
in one step, and may list it at leisure, for nobody changes it.

* `Atomic.whole`, `Atomic.own`: what is read is the empty catalog of the beginning, or
  all that the walk of one rebuild came to and nothing else;
* `Atomic.numbered`, `Atomic.fits`: the publications have the generations from one on,
  in order, and a report fits the snapshot of its generation;
* `Atomic.monotone`: nobody sees a generation after a later one was seen or published;
* `exists_rebuilt`: a rebuild can go on to its end, whatever the others have done.
-/

namespace TemplateCatalog

/-- How far a rebuild is. -/
inductive Rebuild where
  /-- It walks over the templates, with this left of the walk. -/
  | walking (walk : Inquiry Survey)
  /-- It has published what it found, and says this of it. -/
  | reported (r : Report)

/-- An index that is shared by rebuilds `ι`: what is published, and how far each rebuild
    is that has begun. -/
structure Sharing (ι : Type) where
  published : Snapshot
  rebuild? : ι → Option Rebuild

namespace Sharing

variable {ι ρ : Type}

/-- An index that nobody has used. -/
def fresh : Sharing ι := ⟨.empty, fun _ => none⟩

/-- What an onlooker sees of rebuilds `ι` and readers `ρ`. -/
inductive Event (ι ρ : Type) where
  | began (call : ι)
  /-- The disk answered a question of a walk. -/
  | looked (call : ι) (q : DiskQuestion) (a : q.Answer)
  | published (call : ι) (snapshot : Snapshot) (report : Report)
  | read (reader : ρ) (snapshot : Snapshot)

namespace Event

/-- The generation that is published or read. -/
def generation? : Event ι ρ → Option Nat
  | published _ snapshot _ => some snapshot.generation
  | read _ snapshot => some snapshot.generation
  | _ => none

/-- The snapshot that is published, with its report. -/
def publication? : Event ι ρ → Option (Snapshot × Report)
  | published _ snapshot report => some (snapshot, report)
  | _ => none

variable [DecidableEq ι]

/-- What a rebuild is told by the disk. -/
def answer? (call : ι) : Event ι ρ → Option ((q : DiskQuestion) × q.Answer)
  | looked c q a => if c = call then some ⟨q, a⟩ else none
  | _ => none

/-- What a rebuild publishes, with its report. -/
def publicationOf? (call : ι) : Event ι ρ → Option (Snapshot × Report)
  | published c snapshot report => if c = call then some (snapshot, report) else none
  | _ => none

end Event

variable [DecidableEq ι]

/-- All that the disk has told a rebuild. -/
def answers (call : ι) (log : List (Event ι ρ)) : List ((q : DiskQuestion) × q.Answer) :=
  log.filterMap (Event.answer? call)

/-- All that a rebuild has published, with its reports. -/
def publications (call : ι) (log : List (Event ι ρ)) : List (Snapshot × Report) :=
  log.filterMap (Event.publicationOf? call)

/-- A rebuild comes to a point. -/
def set (s : Sharing ι) (call : ι) (r : Rebuild) : Sharing ι :=
  { s with rebuild? := Function.update s.rebuild? call (some r) }

@[simp] theorem published_set (s : Sharing ι) (call : ι) (r : Rebuild) :
    (s.set call r).published = s.published := rfl

theorem rebuild?_set_self (s : Sharing ι) (call : ι) (r : Rebuild) :
    (s.set call r).rebuild? call = some r := Function.update_self ..

theorem rebuild?_set_of_ne (s : Sharing ι) {c call : ι} (h : c ≠ call) (r : Rebuild) :
    (s.set call r).rebuild? c = s.rebuild? c := Function.update_of_ne h ..

/-- The steps of an index over the templates at `root`. -/
inductive Step (root : Location) : Sharing ι → Event ι ρ → Sharing ι → Prop
  | begin {s : Sharing ι} (call : ι) :
    s.rebuild? call = none →
    Step root s (.began call) (s.set call (.walking (Survey.inquire root)))
  | look {s : Sharing ι} {q : DiskQuestion} {next : q.Answer → Inquiry Survey} (call : ι)
    (a : q.Answer) :
    s.rebuild? call = some (.walking (.ask q next)) →
    Step root s (.looked call q a) (s.set call (.walking (next a)))
  | publish {s : Sharing ι} {survey : Survey} (call : ι) (now : Nat) :
    s.rebuild? call = some (.walking (.done survey)) →
    Step root s
      (.published call (s.published.next now survey)
        (survey.report (s.published.next now survey).generation))
      ({ s with published := s.published.next now survey }.set call
        (.reported (survey.report (s.published.next now survey).generation)))
  | read {s : Sharing ι} (reader : ρ) : Step root s (.read reader s.published) s

/-- What is seen of every run, at each of its ends. -/
structure Atomic (root : Location) (log : List (Event ι ρ)) (s : Sharing ι) : Prop where
  /-- What is read is the empty catalog without a time, or was published. -/
  whole : ∀ reader snapshot, .read reader snapshot ∈ log →
    snapshot = ⟨0, none, .empty⟩ ∨ ∃ call report, .published call snapshot report ∈ log
  /-- What is published, and listed by its readers, is all that the walk of that one
      rebuild came to after the answers that it got, and nothing else. -/
  own : ∀ call snapshot report, .published call snapshot report ∈ log →
    ∃ survey, (Survey.inquire root).Reaches (answers call log) (.done survey) ∧
      snapshot.templates = survey.templates ∧ snapshot.list = survey.templates.values ∧
      snapshot.refreshedAt.isSome
  /-- The report that says a generation is that of the snapshot with the generation. -/
  fits : ∀ call snapshot report, .published call snapshot report ∈ log →
    report.generation = snapshot.generation ∧ report.templates = snapshot.templates.size ∧
    ∀ reader read, .read reader read ∈ log → read.generation = report.generation →
      read = snapshot
  /-- The publications have the generations from one on, each once and in order. -/
  numbered : (log.filterMap Event.publication?).map (·.1.generation)
    = List.range' 1 (log.filterMap Event.publication?).length
  /-- A rebuild publishes at most once. -/
  once : ∀ call, (publications call log).length ≤ 1
  /-- What is read or published later is not of an earlier generation. -/
  monotone : (log.filterMap Event.generation?).Pairwise (· ≤ ·)

/-! ## What a run keeps -/

/-- What a rebuild that is this far has been told and has published. -/
def Standing (root : Location) (told : List ((q : DiskQuestion) × q.Answer))
    (out : List (Snapshot × Report)) : Option Rebuild → Prop
  | none => told = [] ∧ out = []
  | some (.walking walk) => (Survey.inquire root).Reaches told walk ∧ out = []
  | some (.reported r) =>
    ∃ survey s now, (Survey.inquire root).Reaches told (.done survey) ∧
      r = survey.report (Snapshot.next s now survey).generation ∧ out = [(s.next now survey, r)]

/-- What every run of a shared index keeps. -/
structure Kept (root : Location) (log : List (Event ι ρ)) (s : Sharing ι) : Prop where
  standing : ∀ call, Standing root (answers call log) (publications call log) (s.rebuild? call)
  numbered : (log.filterMap Event.publication?).map (·.1.generation)
    = List.range' 1 s.published.generation
  current : s.published = .empty ∨ ∃ call report, .published call s.published report ∈ log
  whole : ∀ reader snapshot, .read reader snapshot ∈ log →
    snapshot = .empty ∨ ∃ call report, .published call snapshot report ∈ log
  monotone : (log.filterMap Event.generation?).Pairwise (· ≤ ·)
  latest : ∀ g ∈ log.filterMap Event.generation?, g ≤ s.published.generation

variable {root : Location} {s s' : Sharing ι} {log : List (Event ι ρ)} {e : Event ι ρ}

/-- Nothing has happened yet. -/
theorem fresh_kept : Kept root ([] : List (Event ι ρ)) fresh where
  standing _ := ⟨rfl, rfl⟩
  numbered := rfl
  current := .inl rfl
  whole _ _ h := absurd h List.not_mem_nil
  monotone := .nil
  latest _ h := absurd h List.not_mem_nil

@[simp] theorem answers_began (c call : ι) :
    answers c (log ++ [.began call]) = answers c log := by
  rw [answers, List.filterMap_append]
  exact List.append_nil _

@[simp] theorem answers_looked (c call : ι) (q : DiskQuestion) (a : q.Answer) :
    answers c (log ++ [.looked call q a])
      = answers c log ++ if call = c then [⟨q, a⟩] else [] := by
  rw [answers, List.filterMap_append]
  split <;> simp [answers, Event.answer?, *]

@[simp] theorem answers_published (c call : ι) (snapshot : Snapshot) (report : Report) :
    answers c (log ++ [.published call snapshot report]) = answers c log := by
  rw [answers, List.filterMap_append]
  exact List.append_nil _

@[simp] theorem publications_published (c call : ι) (snapshot : Snapshot) (report : Report) :
    publications c (log ++ [.published call snapshot report])
      = publications c log ++ if call = c then [(snapshot, report)] else [] := by
  rw [publications, List.filterMap_append]
  split <;> simp [publications, Event.publicationOf?, *]

/-- Nothing is published but in a publication. -/
theorem publications_concat (c : ι) (he : e.publication? = none) :
    publications c (log ++ [e]) = publications c log := by
  rw [publications, List.filterMap_append]
  cases e with
  | published call snapshot report => cases he
  | _ => exact List.append_nil _

/-- A step moves one rebuild on, if any, and leaves the others standing. -/
theorem Step.standing (hs : Step root s e s')
    (h : ∀ c, Standing root (answers c log) (publications c log) (s.rebuild? c)) (c : ι) :
    Standing root (answers c (log ++ [e])) (publications c (log ++ [e])) (s'.rebuild? c) := by
  -- The log of a rebuild gets longer only by its own answers and publications.
  cases hs with
  | begin call hnone =>
    rw [answers_began, publications_concat c rfl]
    by_cases hc : c = call
    · subst hc
      have hc := h c
      rw [hnone] at hc
      obtain ⟨htold, hout⟩ := hc
      rw [htold, hout, rebuild?_set_self]
      exact ⟨.start, rfl⟩
    · rw [rebuild?_set_of_ne _ hc]
      exact h c
  | look call a hwalk =>
    rw [answers_looked, publications_concat c rfl]
    by_cases hc : c = call
    · -- The walk that is answered has been told one thing more.
      subst hc
      have hc := h c
      rw [hwalk] at hc
      rw [if_pos rfl, rebuild?_set_self]
      exact ⟨.answer a hc.1, hc.2⟩
    · rw [if_neg (Ne.symm hc), List.append_nil, rebuild?_set_of_ne _ hc]
      exact h c
  | publish call now hwalk =>
    rw [answers_published, publications_published]
    by_cases hc : c = call
    · -- A rebuild that walks has published nothing, so this is all that it publishes.
      subst hc
      have hc := h c
      rw [hwalk] at hc
      rw [if_pos rfl, hc.2, rebuild?_set_self]
      exact ⟨_, s.published, now, hc.1, rfl, rfl⟩
    · rw [if_neg (Ne.symm hc), List.append_nil, rebuild?_set_of_ne _ hc]
      exact h c
  | read reader =>
    rw [publications_concat c rfl, answers, List.filterMap_append]
    exact (List.append_nil (answers c log)).symm ▸ h c

/-- A step publishes the next generation or none. -/
theorem Step.numbered (hs : Step root s e s') :
    List.range' 1 s.published.generation ++ (e.publication?.map (·.1.generation)).toList
      = List.range' 1 s'.published.generation := by
  cases hs with
  | publish call now hwalk =>
    simp [Event.publication?, Snapshot.next, List.range'_concat, Nat.add_comm]
  | _ => simp [Event.publication?]

/-- What is read or published in a step is not of an earlier generation than what was
    published before, and not of a later one than what is then. -/
theorem Step.generation_mem_Icc (hs : Step root s e s') :
    s.published.generation ≤ s'.published.generation ∧
      ∀ g ∈ e.generation?, s.published.generation ≤ g ∧ g ≤ s'.published.generation := by
  cases hs with
  | publish call now hwalk => simp [Event.generation?, Snapshot.next]
  | _ => simp [Event.generation?]

/-- What is published at an end of a run is the empty catalog or was published in it. -/
theorem Step.current (hs : Step root s e s')
    (h : s.published = .empty ∨ ∃ call report, .published call s.published report ∈ log) :
    s'.published = .empty ∨ ∃ call report, .published call s'.published report ∈ log ++ [e] := by
  cases hs with
  | publish call now hwalk => exact .inr ⟨call, _, List.mem_append_right _ List.mem_cons_self⟩
  | _ => exact h.imp_right fun ⟨call, report, hp⟩ => ⟨call, report, List.mem_append_left _ hp⟩

/-- A step keeps what every run keeps. -/
theorem Kept.step (h : Kept root log s) (hs : Step root s e s') : Kept root (log ++ [e]) s' := by
  obtain ⟨hle, hbetween⟩ := hs.generation_mem_Icc
  have hlast : ∀ g ∈ [e].filterMap Event.generation?, g ∈ e.generation? := fun g hg => by
    obtain ⟨_, he, hgen⟩ := List.mem_filterMap.1 hg
    exact List.mem_singleton.1 he ▸ hgen
  refine ⟨hs.standing h.standing, ?_, hs.current h.current, ?_, ?_, ?_⟩
  · rw [← hs.numbered, ← h.numbered, List.filterMap_append, List.map_append]
    cases e <;> rfl
  · intro reader snapshot hread
    rcases List.mem_append.1 hread with hread | hread
    · exact (h.whole reader snapshot hread).imp_right fun ⟨call, report, hp⟩ =>
        ⟨call, report, List.mem_append_left _ hp⟩
    · -- A reader takes what is published when it reads.
      obtain rfl := List.mem_singleton.1 hread
      cases hs
      exact h.current.imp_right fun ⟨call, report, hp⟩ => ⟨call, report, List.mem_append_left _ hp⟩
  · rw [List.filterMap_append, List.pairwise_append]
    refine ⟨h.monotone, by cases e <;> simp [Event.generation?, List.filterMap_cons], fun g hg g' hg' => ?_⟩
    exact Nat.le_trans (h.latest g hg) (hbetween g' (hlast g' hg')).1
  · intro g hg
    rw [List.filterMap_append, List.mem_append] at hg
    rcases hg with hg | hg
    · exact Nat.le_trans (h.latest g hg) hle
    · exact (hbetween g (hlast g hg)).2

/-- What every run keeps holds at the end of every run. -/
theorem kept_of_run (h : Run (Step root) fresh log s) : Kept root log s :=
  h.invariant fresh_kept Kept.step

/-! ## Rebuilds that go on -/

variable {start : Sharing ι}

/-- A walk goes on to its end if a disk answers all its questions. -/
theorem exists_walked (call : ι) {walk : Inquiry Survey} (d : Disk)
    (h : Run (Step root) start log s) (hwalk : s.rebuild? call = some (.walking walk)) :
    ∃ (more : List (Event ι ρ)) (s' : Sharing ι), Run (Step root) start (log ++ more) s' ∧
      s'.published = s.published ∧ s'.rebuild? call = some (.walking (.done (walk.run d))) ∧
      ∀ c ≠ call, s'.rebuild? c = s.rebuild? c := by
  induction walk generalizing log s with
  | done survey => exact ⟨[], s, by rwa [List.append_nil], rfl, hwalk, fun _ _ => rfl⟩
  | ask q next ih =>
    obtain ⟨more, s', hrun, hpublished, hdone, hothers⟩ :=
      ih (d q) (h.step (.look call (d q) hwalk)) (rebuild?_set_self ..)
    rw [List.append_assoc] at hrun
    refine ⟨_, s', hrun, hpublished, hdone, fun c hc => ?_⟩
    rw [hothers c hc, rebuild?_set_of_ne _ hc]

/-- A rebuild that has not begun can begin and go on to its end, on any disk, while the others
    stay where they are. -/
theorem exists_rebuilt (call : ι) (d : Disk) (now : Nat) (h : Run (Step root) start log s)
    (hnone : s.rebuild? call = none) :
    ∃ (more : List (Event ι ρ)) (s' : Sharing ι), Run (Step root) start (log ++ more) s' ∧
      s'.published = s.published.next now ((Survey.inquire root).run d) ∧
      ∀ c ≠ call, s'.rebuild? c = s.rebuild? c := by
  obtain ⟨more, s', hrun, hpublished, hdone, hothers⟩ :=
    exists_walked call d (h.step (.begin call hnone)) (rebuild?_set_self ..)
  have hend := hrun.step (.publish call now hdone)
  rw [List.append_assoc, List.append_assoc] at hend
  refine ⟨_, _, hend, by rw [published_set, hpublished, published_set], fun c hc => ?_⟩
  rw [rebuild?_set_of_ne _ hc, hothers c hc, rebuild?_set_of_ne _ hc]

/-! ## What is seen -/

/-- Publications are those of some rebuild. -/
theorem mem_publications {call : ι} {snapshot : Snapshot} {report : Report} :
    (snapshot, report) ∈ publications call log ↔ .published call snapshot report ∈ log := by
  rw [publications, List.mem_filterMap]
  constructor
  · rintro ⟨e, he, hp⟩
    cases e with
    | published c _ _ =>
      rw [Event.publicationOf?] at hp
      split at hp
      · next hc => cases hp; exact hc ▸ he
      · cases hp
    | _ => cases hp
  · exact fun h => ⟨_, h, by rw [Event.publicationOf?, if_pos rfl]⟩

/-- A rebuild has published at most once, and what it was told came to that. -/
theorem Kept.publications_eq (h : Kept root log s) (call : ι) :
    publications call log = [] ∨ ∃ survey p now,
      (Survey.inquire root).Reaches (answers call log) (.done survey) ∧
      publications call log
        = [(Snapshot.next p now survey, survey.report (Snapshot.next p now survey).generation)] := by
  have hst := h.standing call
  match hr : s.rebuild? call with
  | none => rw [hr] at hst; exact .inl hst.2
  | some (.walking _) => rw [hr] at hst; exact .inl hst.2
  | some (.reported r) =>
    rw [hr] at hst
    obtain ⟨survey, p, now, hreach, rfl, hp⟩ := hst
    exact .inr ⟨survey, p, now, hreach, hp⟩

/-- What is published is what the walk of the rebuild came to. -/
theorem Kept.survey_of_published (h : Kept root log s) {call : ι} {snapshot : Snapshot}
    {report : Report} (hp : .published call snapshot report ∈ log) :
    ∃ survey p now, (Survey.inquire root).Reaches (answers call log) (.done survey) ∧
      snapshot = Snapshot.next p now survey ∧ report = survey.report snapshot.generation := by
  have hmem := mem_publications.2 hp
  rcases h.publications_eq call with hnil | ⟨survey, p, now, hreach, hone⟩
  · rw [hnil] at hmem
    cases hmem
  · rw [hone] at hmem
    obtain ⟨rfl, rfl⟩ := Prod.mk.inj (List.mem_singleton.1 hmem)
    exact ⟨survey, p, now, hreach, rfl, rfl⟩

/-- There is one snapshot of each generation that is published. -/
theorem Kept.eq_of_generation_eq (h : Kept root log s) {c₁ c₂ : ι} {s₁ s₂ : Snapshot}
    {r₁ r₂ : Report} (h₁ : .published c₁ s₁ r₁ ∈ log) (h₂ : .published c₂ s₂ r₂ ∈ log)
    (hg : s₁.generation = s₂.generation) : s₁ = s₂ := by
  have hnodup : ((log.filterMap Event.publication?).map (·.1.generation)).Nodup :=
    h.numbered ▸ List.nodup_range'
  have hmem : ∀ {c : ι} {snapshot : Snapshot} {report : Report},
      .published c snapshot report ∈ log →
      (snapshot, report) ∈ log.filterMap Event.publication? := fun hp =>
    List.mem_filterMap.2 ⟨_, hp, rfl⟩
  exact congrArg Prod.fst (List.inj_on_of_nodup_map hnodup (hmem h₁) (hmem h₂) hg)

/-- A publication has a generation of at least one. -/
theorem Kept.generation_pos (h : Kept root log s) {call : ι} {snapshot : Snapshot}
    {report : Report} (hp : .published call snapshot report ∈ log) : snapshot.generation ≠ 0 := by
  obtain ⟨survey, p, now, -, rfl, -⟩ := h.survey_of_published hp
  exact Nat.succ_ne_zero p.generation

/-- However rebuilds and readers mix, and however the disk changes meanwhile: readers see
    the whole of what one rebuild found, in the order of the generations, and the
    generations are numbered without a gap in the order of publication. -/
theorem sharing_atomic (h : Run (Step root) fresh log s) : Atomic root log s := by
  have hk := kept_of_run h
  refine ⟨hk.whole, ?_, ?_, ?_, ?_, hk.monotone⟩
  · intro call snapshot report hp
    obtain ⟨survey, p, now, hreach, rfl, -⟩ := hk.survey_of_published hp
    exact ⟨survey, hreach, rfl, rfl, rfl⟩
  · intro call snapshot report hp
    obtain ⟨survey, p, now, -, hsnap, hreport⟩ := hk.survey_of_published hp
    refine ⟨by rw [hreport]; rfl, by rw [hreport, hsnap]; rfl, fun reader read hread hg => ?_⟩
    have hg : read.generation = snapshot.generation := by rw [hg, hreport]; rfl
    rcases hk.whole reader read hread with rfl | ⟨call', report', hp'⟩
    · exact absurd hg.symm (hk.generation_pos hp)
    · exact hk.eq_of_generation_eq hp' hp hg
  · have hlength := congrArg List.length hk.numbered
    rw [List.length_map, List.length_range'] at hlength
    rw [hlength, hk.numbered]
  · intro call
    rcases hk.publications_eq call with hnil | ⟨survey, p, now, -, hone⟩
    · rw [hnil]; exact Nat.zero_le 1
    · rw [hone]; exact Nat.le_refl 1

/-- Two rebuilds at once, of which the one that began later publishes first; a reader
    looks before, between and after the publications. -/
theorem sharing_atomic_overtaken : ∃ (log : List (Event Nat Unit)) (s : Sharing Nat),
    Run (Step ⟨[]⟩) fresh log s ∧ log.filterMap Event.generation? = [0, 1, 1, 2, 2] ∧
      s.rebuild? 1 = some (.reported ⟨1, 0, [], [⟨⟨[]⟩, DiskError.notDirectory.text⟩]⟩) ∧
      s.rebuild? 0 = some (.reported ⟨2, 0, [], [⟨⟨[]⟩, DiskError.notFound.text⟩]⟩) ∧
      Atomic ⟨[]⟩ log s := by
  have hbegun : Run (Step ⟨[]⟩) (fresh : Sharing Nat) _ _ :=
    ((Run.nil.step (.begin 0 rfl)).step (.begin 1 rfl)).step (.read ())
  have hlooked := (hbegun.step (.look (q := .names ⟨[]⟩) 0 (.error .notFound) rfl)).step
    (.look (q := .names ⟨[]⟩) 1 (.error .notDirectory) rfl)
  have hfirst := (hlooked.step (.publish 1 8 rfl)).step (.read ())
  have hsecond := (hfirst.step (.publish 0 9 rfl)).step (.read ())
  exact ⟨_, _, hsecond, rfl, rfl, rfl, sharing_atomic hsecond⟩

end Sharing

end TemplateCatalog
