import Mathlib.Data.List.TakeWhile
import TemplateCatalog.Proofs.Catalog.Lookup
import TemplateCatalog.Proofs.Service.Presence

/-!
# How the service starts

A start goes through three stages: the settings are checked, git is looked for, and a first cycle
makes or updates the mirror and publishes what is in it. The effects of a stage come after the
checks of all stages before it (`Startup`), so a start that is refused has done nothing, and one
without git has done nothing but look for it.

* `Settings.Sound`: settings that have all that the service cannot do without;
* `Settings.Lacks`: what others lack first;
* `Service.startup`: what every start does and comes to, whatever its surroundings.
-/

namespace TemplateCatalog

/-- Nothing is left of a text without its blanks exactly if it is blank. -/
theorem Text.trim_eq_empty_iff {s : String} : trim s = "" ↔ isBlankText s = true := by
  rw [trim, String.ofList_eq_empty_iff, trimChars, List.reverse_eq_nil_iff,
    List.dropWhile_eq_nil_iff, isBlankText, List.all_eq_true]
  constructor
  · intro h c hc
    rw [← List.takeWhile_append_dropWhile (p := isBlank) (l := s.toList)] at hc
    rcases List.mem_append.1 hc with hc | hc
    · exact List.mem_takeWhile_imp hc
    · exact h c (List.mem_reverse.2 hc)
  · intro h c hc
    exact h c ((List.dropWhile_sublist _).subset (List.mem_reverse.1 hc))

/-! ## Sound settings -/

namespace Settings

variable {s : Settings}

/-- Settings have all that the service cannot do without: an address that is not blank, and times
    that are not zero. -/
structure Sound (s : Settings) : Prop where
  url : ∃ url, s.catalogUrl = some url ∧ Text.isBlankText url = false
  refreshInterval : s.refreshInterval ≠ 0
  gitTimeout : s.gitTimeout ≠ 0

/-- The address is the one that is set, if that is not blank. -/
theorem url_eq_ok {remote : String} :
    s.url = .ok remote ↔
      ∃ url, s.catalogUrl = some url ∧ Text.isBlankText url = false ∧ remote = Text.trim url := by
  rw [url]
  cases s.catalogUrl with
  | none => exact ⟨nofun, nofun⟩
  | some url =>
    have hblank : Text.trim url = "" ↔ Text.isBlankText url = true := Text.trim_eq_empty_iff
    simp only [Option.map_some, Option.some.injEq, exists_eq_left']
    split
    · next h => simp [hblank.1 h]
    · next h => simp [Bool.eq_false_iff.2 fun hb => h (hblank.2 hb), eq_comm]

/-- What settings lack first of what the service cannot do without, as it is told. -/
inductive Lacks (s : Settings) : String → Prop
  | url : (∀ url, s.catalogUrl = some url → Text.isBlankText url = true) →
    Lacks s "catalog_url is required (set --catalog-url or CATALOG_URL)"
  | refreshInterval {url : String} : s.catalogUrl = some url → Text.isBlankText url = false →
    s.refreshInterval = 0 → Lacks s "refresh_interval must be at least 1 second"
  | gitTimeout {url : String} : s.catalogUrl = some url → Text.isBlankText url = false →
    s.refreshInterval ≠ 0 → s.gitTimeout = 0 → Lacks s "git_timeout must be at least 1 second"

/-- There is no address exactly if none is set but blank ones. -/
theorem url_eq_error {e : CatalogError} :
    s.url = .error e ↔ (∀ url, s.catalogUrl = some url → Text.isBlankText url = true) ∧
      e = .configuration "catalog_url is required (set --catalog-url or CATALOG_URL)" := by
  rw [url]
  cases s.catalogUrl with
  | none => exact ⟨fun h => ⟨nofun, (Except.error.inj h).symm⟩, fun h => congrArg _ h.2.symm⟩
  | some url =>
    have hblank : Text.trim url = "" ↔ Text.isBlankText url = true := Text.trim_eq_empty_iff
    simp only [Option.map_some, Option.some.injEq, forall_eq', ← hblank]
    split
    · next h => exact ⟨fun he => ⟨h, (Except.error.inj he).symm⟩, fun he => congrArg _ he.2.symm⟩
    · next h => exact iff_of_false nofun fun he => h he.1

/-- Settings are valid exactly if they are sound. -/
theorem validate_eq_ok : s.validate = .ok () ↔ s.Sound := by
  constructor
  · intro h
    rw [validate] at h
    split at h
    · cases h
    · next remote hurl =>
      obtain ⟨url, hsome, hblank, -⟩ := url_eq_ok.1 hurl
      split at h
      · cases h
      · next hinterval =>
        split at h
        · cases h
        · next htimeout => exact ⟨⟨url, hsome, hblank⟩, hinterval, htimeout⟩
  · rintro ⟨⟨url, hsome, hblank⟩, hinterval, htimeout⟩
    rw [validate, url_eq_ok.2 ⟨url, hsome, hblank, rfl⟩]
    simp only [if_neg hinterval, if_neg htimeout]

/-- Settings are refused for what they lack first. -/
theorem validate_eq_error {e : CatalogError} :
    s.validate = .error e ↔ ∃ message, s.Lacks message ∧ e = .configuration message := by
  constructor
  · intro h
    -- The checks come in the order in which `Lacks` lists them.
    rw [validate] at h
    split at h
    · next hurl =>
      cases h
      obtain ⟨hnone, rfl⟩ := url_eq_error.1 hurl
      exact ⟨_, .url hnone, rfl⟩
    · next remote hurl =>
      obtain ⟨url, hsome, hblank, -⟩ := url_eq_ok.1 hurl
      split at h
      · next hinterval =>
        cases h
        exact ⟨_, .refreshInterval hsome hblank hinterval, rfl⟩
      · next hinterval =>
        split at h
        · next htimeout =>
          cases h
          exact ⟨_, .gitTimeout hsome hblank hinterval htimeout, rfl⟩
        · cases h
  · rintro ⟨_, hlacks, rfl⟩
    cases hlacks with
    | url hnone => rw [validate, url_eq_error.2 ⟨hnone, rfl⟩]
    | refreshInterval hsome hblank hinterval =>
      rw [validate, url_eq_ok.2 ⟨_, hsome, hblank, rfl⟩]
      simp only [if_pos hinterval]
    | gitTimeout hsome hblank hinterval htimeout =>
      rw [validate, url_eq_ok.2 ⟨_, hsome, hblank, rfl⟩]
      simp only [if_neg hinterval, if_pos htimeout]

/-- Sound settings have an address. -/
theorem Sound.url_eq_ok (h : s.Sound) : ∃ remote, s.url = .ok remote := by
  obtain ⟨url, hsome, hblank⟩ := h.url
  exact ⟨_, Settings.url_eq_ok.2 ⟨url, hsome, hblank, rfl⟩⟩

end Settings

namespace Service

variable {settings : Settings} {s : Service} {told : List Deed} {r : Except Failure Service}

/-- Unless the settings are sound, no service is made of them. -/
theorem ofSettings_eq_error (h : ¬ settings.Sound) :
    ∃ message, ofSettings settings = .error (.ofError (.configuration message)) := by
  cases hvalid : settings.validate with
  | ok => exact absurd (Settings.validate_eq_ok.1 hvalid) h
  | error e =>
    obtain ⟨message, -, rfl⟩ := Settings.validate_eq_error.1 hvalid
    exact ⟨message, by simp only [ofSettings, hvalid]⟩

/-- The service that sound settings describe shows the directory of their templates, and has
    published nothing. -/
theorem ofSettings_eq_ok (h : settings.Sound) : ∃ s, ofSettings settings = .ok s ∧
    s.mirror = settings.dataDir ∧ s.root = settings.dataDir.join settings.templatesDir.bytes ∧
    s.published = .empty := by
  obtain ⟨remote, hurl⟩ := h.url_eq_ok
  rw [ofSettings, Settings.validate_eq_ok.2 h, hurl]
  exact ⟨_, rfl, rfl, rfl, rfl⟩

/-! ## The stages of a start -/

/-- What a start came to, and what was done for it. -/
structure Startup (settings : Settings) (told : List Deed) (r : Except Failure Service) : Prop where
  /-- Settings that lack something are refused, and nothing is done. -/
  refused : ¬ settings.Sound →
    told = [] ∧ ∃ message, r = .error (.ofError (.configuration message))
  /-- With others, git is looked for first. -/
  looked : settings.Sound → ∃ found rest, told = ⟨.findGit, found⟩ :: rest
  /-- Without git nothing else is done. -/
  gitless : ∀ rest, told = ⟨.findGit, false⟩ :: rest →
    rest = [] ∧ r = .error (.ofError .gitMissing)
  /-- With git, the service that the settings describe goes through its first cycle. The failure
      of that is the failure of the start; otherwise there is nothing left to do but to note
      problems. -/
  bootstrapped : ∀ rest, told = ⟨.findGit, true⟩ :: rest → ∃ s during notes s' outcome,
    ofSettings settings = .ok s ∧ (s.cycle .bootstrap).ComesTo during (s', outcome) ∧
      rest = during ++ List.map Deed.ofNote notes ∧ r = outcome.map fun _ => s'
  /-- A service that was started shows the directory of the templates, as a walk found it that was
      made when git had done its work: what the disk shows, if the disk stays as it is. -/
  started : ∀ s, r = .ok s →
    s.root = settings.dataDir.join settings.templatesDir.bytes ∧ s.published.generation = 1 ∧
      ∃ after survey now, after <:+ told ∧ Deed.commands after = [] ∧
        (Survey.inquire s.root).ComesTo (Deed.answers after) survey ∧
        (∀ d : Disk, (∀ x ∈ Deed.answers after, x.2 = d x.1) →
          survey = (Survey.inquire s.root).run d) ∧
        s.published = Snapshot.empty.next now survey

/-- A start with sound settings looks for git, and if there is one it goes through a cycle. -/
theorem comesTo_start (hs : ofSettings settings = .ok s) (h : (start settings).ComesTo told r) :
    ∃ found rest, told = ⟨.findGit, found⟩ :: rest ∧
      ((found = false ∧ rest = [] ∧ r = .error (.ofError .gitMissing)) ∨
        (found = true ∧ ∃ during notes s' outcome,
          (s.cycle .bootstrap).ComesTo during (s', outcome) ∧
            rest = during ++ List.map Deed.ofNote notes ∧ r = outcome.map fun _ => s')) := by
  rw [start, hs] at h
  obtain ⟨told₁, git, told₂, rfl, hgit, h₁⟩ := Interaction.comesTo_bind.1 h
  obtain ⟨told₃, found, told₄, rfl, hlook, hfound⟩ := Interaction.comesTo_bind.1 hgit
  obtain rfl := Interaction.comesTo_question_iff.1 hlook
  refine ⟨found, told₄ ++ told₂, rfl, ?_⟩
  cases found with
  | false =>
    obtain ⟨rfl, rfl⟩ := Interaction.comesTo_pure_iff.1 hfound
    obtain ⟨rfl, rfl⟩ := Interaction.comesTo_pure_iff.1 h₁
    exact .inl ⟨rfl, rfl, rfl⟩
  | true =>
    obtain ⟨rfl, rfl⟩ := Interaction.comesTo_pure_iff.1 hfound
    obtain ⟨during, ⟨s', outcome⟩, told₅, rfl, hcycle, hrest⟩ := Interaction.comesTo_bind.1 h₁
    refine .inr ⟨rfl, during, ?_⟩
    -- Only a cycle that ends well is noted, after all that it did.
    cases outcome with
    | error f =>
      obtain ⟨rfl, rfl⟩ := Interaction.comesTo_pure_iff.1 hrest
      exact ⟨[], s', .error f, hcycle, rfl, rfl⟩
    | ok report =>
      obtain ⟨told₆, _, told₇, rfl, hnotes, hpure⟩ := Interaction.comesTo_bind.1 hrest
      obtain rfl := Procedure.comesTo_noteAll.1 hnotes
      obtain ⟨rfl, rfl⟩ := Interaction.comesTo_pure_iff.1 hpure
      exact ⟨_, s', .ok report, hcycle, by rw [List.append_nil]; rfl, rfl⟩

/-- A cycle that ends well leaves the service with what a walk found that was made after all git
    commands. -/
theorem published_of_cycle {q : Request} {s' : Service} {report : Report}
    (h : (s.cycle q).ComesTo told (s', .ok report)) :
    ∃ after survey now, after <:+ told ∧ Deed.commands after = [] ∧
      (Survey.inquire s.root).ComesTo (Deed.answers after) survey ∧
      s' = { s with published := s.published.next now survey } := by
  obtain ⟨present, result, called, rest, rfl, -, hrest⟩ := comesTo_cycle h
  rcases hrest with ⟨f, -, -, -, hr⟩ | ⟨-, rebuilt, _, rfl, hrebuild, -⟩
  · cases hr
  · obtain ⟨survey, now, hsurvey, hcommands, rfl, -⟩ := comesTo_rebuild hrebuild
    have hsuffix (notes : List Deed) : rebuilt <:+ called ++ (notes ++ rebuilt) :=
      (List.suffix_append _ _).trans (List.suffix_append _ _)
    refine ⟨rebuilt, survey, now, ?_, hcommands, hsurvey, rfl⟩
    exact ((hsuffix _).trans (List.suffix_append _ _)).trans (List.suffix_cons _ _)

namespace Startup

/-- Without sound settings nothing is done. -/
theorem of_unsound (hs : ¬ settings.Sound) (h : (start settings).ComesTo told r) :
    Startup settings told r := by
  obtain ⟨message, herror⟩ := ofSettings_eq_error hs
  rw [start, herror] at h
  obtain ⟨rfl, rfl⟩ := Interaction.comesTo_pure_iff.1 h
  exact
    { refused := fun _ => ⟨rfl, message, rfl⟩
      looked := fun h => absurd h hs
      gitless := fun _ => nofun
      bootstrapped := fun _ => nofun
      started := fun _ => nofun }

/-- With them, git is looked for, and the first cycle comes after that. -/
theorem of_sound (hs : settings.Sound) (h : (start settings).ComesTo told r) :
    Startup settings told r := by
  obtain ⟨s, hofSettings, -, hroot, hempty⟩ := ofSettings_eq_ok hs
  obtain ⟨found, rest, rfl, hrest⟩ := comesTo_start hofSettings h
  refine
    { refused := fun h => absurd hs h
      looked := fun _ => ⟨found, rest, rfl⟩
      gitless := fun rest' heq => ?_
      bootstrapped := fun rest' heq => ?_
      started := fun s' hr => ?_ }
  · cases heq
    rcases hrest with ⟨-, rfl, rfl⟩ | ⟨hfound, -⟩
    · exact ⟨rfl, rfl⟩
    · cases hfound
  · cases heq
    rcases hrest with ⟨hfound, -⟩ | ⟨-, during, notes, s', outcome, hcycle, rfl, rfl⟩
    · cases hfound
    · exact ⟨s, during, notes, s', outcome, hofSettings, hcycle, rfl, rfl⟩
  · rcases hrest with ⟨-, -, rfl⟩ | ⟨-, during, notes, s₁, outcome, hcycle, rfl, rfl⟩
    · cases hr
    · cases outcome with
      | error f => cases hr
      | ok report =>
        cases hr
        obtain ⟨after, survey, now, ⟨before, rfl⟩, hcommands, hsurvey, rfl⟩ :=
          published_of_cycle hcycle
        -- The problems that are noted at the end ask the disk nothing.
        have hanswers : Deed.answers (after ++ List.map Deed.ofNote notes) =
            Deed.answers after := by simp
        refine ⟨hroot, by rw [hempty]; rfl, after ++ List.map Deed.ofNote notes, survey, now,
          ⟨⟨.findGit, found⟩ :: before, by simp⟩, by simp [hcommands], ?_, ?_, by rw [hempty]⟩
        · rw [hanswers]
          exact hsurvey
        · rw [hanswers]
          exact fun d hd => hsurvey.eq_run hd

end Startup

/-- A machine is left as it is if the settings are not sound. -/
theorem carryOut_start_of_unsound (m : Machine) (hs : ¬ settings.Sound) :
    ∃ message, m.carryOut (start settings) = (.error (.ofError (.configuration message)), m) := by
  obtain ⟨message, herror⟩ := ofSettings_eq_error hs
  refine ⟨message, ?_⟩
  rw [start, herror]
  rfl

/-- So is one without git. -/
theorem carryOut_start_of_gitless {m : Machine} (hs : settings.Sound) (hgit : m.hasGit = false) :
    m.carryOut (start settings) = (.error (.ofError .gitMissing), m) := by
  obtain ⟨s, hofSettings, -⟩ := ofSettings_eq_ok hs
  have hlook {β : Type} (next : Bool → Procedure β) :
      m.carryOut (.ask .findGit next) = m.carryOut (next m.hasGit) := rfl
  rw [start, hofSettings]
  refine (hlook _).trans ?_
  rw [hgit]
  rfl

/-- **Checks before effects**: whatever the settings and the surroundings, the settings are checked
    before anything is done, and git is looked for before anything else is; a start that is refused
    leaves a machine as it is, down to its notes. -/
theorem startup (settings : Settings) :
    (∀ told r, (start settings).ComesTo told r → Startup settings told r) ∧
      ∀ m : Machine,
        (¬ settings.Sound → ∃ message, m.carryOut (start settings) =
          (.error (.ofError (.configuration message)), m)) ∧
        (settings.Sound → m.hasGit = false →
          m.carryOut (start settings) = (.error (.ofError .gitMissing), m)) := by
  refine ⟨fun told r h => ?_, fun m => ⟨carryOut_start_of_unsound m, carryOut_start_of_gitless⟩⟩
  by_cases hs : settings.Sound
  · exact .of_sound hs h
  · exact .of_unsound hs h

/-! ## A service that starts -/

/-- A bootstrap of a mirror that is there already ends well, however the pull ends. -/
theorem run_cycle_still {d : Disk} (hd : d.isPresent s.mirror.gitEntry = true)
    (outcome : Git.Outcome) :
    ∃ s' report, (s.cycle .bootstrap).run (Procedure.still d outcome) = (s', .ok report) := by
  have hpresent : (Procedure.ofInquiry (GitSource.isPresent s.mirror)).run
      (Procedure.still d outcome) = true := hd
  rw [cycle, Interaction.run_bind, hpresent]
  simp only [Interaction.run_bind]
  generalize (s.source.call s.remote s.mirror (.ofPresence true)).run _ = result
  have hfatal : Request.bootstrap.fatal? (.ofPresence true) result = none := by
    cases result <;> rfl
  rw [hfatal]
  simp only [Interaction.run_bind, Interaction.run_pure]
  exact ⟨_, _, rfl⟩

/-- So does a start. -/
theorem run_start_still {d : Disk} (hs : ofSettings settings = .ok s)
    (hd : d.isPresent s.mirror.gitEntry = true) (outcome : Git.Outcome) :
    ∃ s', (start settings).run (Procedure.still d outcome) = .ok s' := by
  obtain ⟨s', report, hcycle⟩ := run_cycle_still hd outcome
  have hgit : requireGit.run (Procedure.still d outcome) = .ok () := rfl
  refine ⟨s', ?_⟩
  rw [start, hs]
  simp only [Interaction.run_bind, hgit, hcycle]
  rfl

/-- Settings of a service whose mirror, which is kept where the service works, has its templates in
    the directory `shelf`. -/
def shelfSettings : Settings :=
  { Settings.default with
    catalogUrl := some " catalog.git"
    dataDir := ⟨[]⟩
    templatesDir := .ofString "shelf" }

theorem shelfSettings_sound : shelfSettings.Sound := ⟨⟨_, rfl, by decide⟩, by decide, by decide⟩

/-- A service started over the shelf publishes its template, as generation 1, though it cannot pull;
    without the address it is refused, and without git it fails. -/
theorem startup_shelf :
    (∃ told s, (start shelfSettings).ComesTo told (.ok s) ∧ s.published.generation = 1 ∧
      s.published.find? "mysql" =
        some (Disk.shelf.summary ((Location.ofString "shelf").child "mysql") "mysql")) ∧
    (∀ m : Machine, m.hasGit = false →
      m.carryOut (start shelfSettings) = (.error (.ofError .gitMissing), m)) ∧
    ∀ m : Machine, ∃ message, m.carryOut (start { shelfSettings with catalogUrl := some " " }) =
      (.error (.ofError (.configuration message)), m) := by
  have hunsound : ¬ { shelfSettings with catalogUrl := some " " }.Sound := by
    rintro ⟨⟨url, hurl, hblank⟩, -, -⟩
    cases hurl
    exact absurd hblank (by decide)
  obtain ⟨s, hs, hmirror, -⟩ := ofSettings_eq_ok shelfSettings_sound
  obtain ⟨s', hrun⟩ := run_start_still (d := Disk.shelf) hs rfl .timedOut
  obtain ⟨told, hcomes, htold⟩ :=
    Procedure.exists_comesTo_still (start shelfSettings) Disk.shelf .timedOut
  rw [hrun] at hcomes
  refine ⟨⟨told, s', hcomes, ?_⟩, fun m => ((startup shelfSettings).2 m).2 shelfSettings_sound,
    fun m => ((startup _).2 m).1 hunsound⟩
  obtain ⟨hroot, hgeneration, after, survey, now, ⟨before, rfl⟩, -, -, hdisk, hpublished⟩ :=
    ((startup shelfSettings).1 told _ hcomes).started s' rfl
  have hsurvey := hdisk Disk.shelf fun x hx => htold x (by simp [hx])
  have hroot : s'.root = .ofString "shelf" := hroot
  refine ⟨hgeneration, ?_⟩
  rw [hpublished, hsurvey, hroot]
  exact Survey.find?_templates.2 ⟨Disk.shelf_publishes, rfl⟩

end Service

end TemplateCatalog
