import TemplateCatalog.Proofs.Template.Manifest

/-!
# What is wrong with a version

The files of a version are taken in ascending order of their names, and whatever is wrong with one
of them is told once: a configuration that cannot be read or parsed, a manifest that is no text, an
orchestration manifest whose questions are rejected (`Disk.Complains`). It is told under the path
of the file itself, and nothing is told of a file that is as it should be, nor of any other entry
(`Disk.Complaints`).

* `Disk.defect?_eq_some`: what is found to be wrong with a file is what is wrong with it;
* `Contents.diagnosed`: the problems of a version are told completely and in order, and a lookup
  adds at most one to them.
-/

namespace TemplateCatalog

/-- A file has no text exactly if it cannot be read or its content is none. -/
theorem fileText_eq_error {content : Except DiskError Bytes} {error : DiskError} :
    fileText content = .error error ↔
      content = .error error ∨
        error = .notText ∧ ∃ bytes, content = .ok bytes ∧ ¬ Text.IsText bytes := by
  rcases content with error' | bytes
  · simp [fileText]
  · simp only [reduceCtorEq, false_or, Except.ok.injEq, exists_eq_left', fileText,
      ← Text.isSome_decode?_iff]
    rcases Text.decode? bytes with _ | text
    · simp [eq_comm]
    · simp

namespace Disk

variable (d : Disk)

/-- A file cannot be read as a text, because of this error. -/
def Unreadable (l : Location) (error : DiskError) : Prop :=
  d.content l = .error error ∨
    error = .notText ∧ ∃ bytes, d.content l = .ok bytes ∧ ¬ Text.IsText bytes

/-- What is wrong with a configuration file: it cannot be read, or what it says cannot be parsed. -/
inductive Misconfigured (file : Location) : Failure → Prop
  | unreadable {error : DiskError} : d.Unreadable file error →
    Misconfigured file ⟨["Failed to read config file " ++ file.display], .disk error⟩
  | malformed {text : String} {fault : Yaml.Fault} : d.content file = .ok (Text.encode text) →
    Config.ofText text = .error fault →
    Misconfigured file ⟨["Failed to parse config file " ++ file.display], .catalog (.markup fault)⟩

/-- What is wrong with a file of a version. -/
inductive Complains (e : Entry) : Defect → Prop
  | unreadable {error : DiskError} : e.begins "config.yml" = true → d.Unreadable e.location error →
    Complains e
      (.configuration ⟨["Failed to read config file " ++ e.location.display], .disk error⟩)
  | malformed {text : String} {fault : Yaml.Fault} : e.begins "config.yml" = true →
    d.content e.location = .ok (Text.encode text) → Config.ofText text = .error fault →
    Complains e (.configuration
      ⟨["Failed to parse config file " ++ e.location.display], .catalog (.markup fault)⟩)
  | deployment {error : DiskError} : e.begins "docker-compose" = true →
    d.Unreadable e.location error → Complains e (.manifest error)
  | orchestration {error : DiskError} : e.begins "rancher-compose" = true →
    d.Unreadable e.location error → Complains e (.manifest error)
  | questions {text : String} {f : Failure} : e.begins "rancher-compose" = true →
    d.content e.location = .ok (Text.encode text) →
    Question.listOfText e.name text = .error f → Complains e (.questions f)

/-- The problems with these files, in turn: one under the path of each file with which something
    is wrong, and none else. -/
inductive Complaints : List Entry → List Diagnostic → Prop
  | nil : Complaints [] []
  | sound {e : Entry} {files : List Entry} {ps : List Diagnostic} : (∀ x, ¬ d.Complains e x) →
    Complaints files ps → Complaints (e :: files) ps
  | faulty {e : Entry} {x : Defect} {files : List Entry} {ps : List Diagnostic} :
    d.Complains e x → Complaints files ps →
    Complaints (e :: files) (⟨e.location, x.text⟩ :: ps)

variable {d} {e : Entry} {x : Defect}

/-- No configuration is read of a file exactly if something is wrong with it. -/
theorem ofFile_eq_error {file : Location} {f : Failure} :
    Config.ofFile file (d.content file) = .error f ↔ d.Misconfigured file f := by
  rw [Config.ofFile]
  constructor
  · intro h
    rcases hread : fileText (d.content file) with error | text
    · rw [hread] at h
      cases h
      exact .unreadable (fileText_eq_error.1 hread)
    · rcases hparse : Config.ofText text with fault | config
      · simp only [hread, hparse] at h
        cases h
        exact .malformed (fileText_eq_ok.1 hread) hparse
      · simp only [hread, hparse] at h
        cases h
  · rintro (hread | ⟨hread, hparse⟩)
    · rw [fileText_eq_error.2 hread]
    · simp only [fileText_eq_ok.2 hread, hparse]

/-- What is wrong with a configuration. -/
theorem configDefect?_eq_some (hrole : e.role = .configuration) :
    d.defect? e = some x ↔ ∃ f, d.Misconfigured e.location f ∧ x = .configuration f := by
  simp only [← ofFile_eq_error]
  rw [defect?, if_pos ((Entry.role_eq_iff rfl).1 hrole)]
  rcases Config.ofFile e.location (d.content e.location) with f | config
  · simp [eq_comm]
  · simp

/-- What is wrong with a deployment manifest. -/
theorem deploymentDefect?_eq_some (hrole : e.role = .deployment) :
    d.defect? e = some x ↔ ∃ error, d.Unreadable e.location error ∧ x = .manifest error := by
  simp only [Unreadable, ← fileText_eq_error]
  rw [defect?, Entry.begins_eq (r := .configuration) rfl, hrole]
  rw [if_neg (by decide), if_pos ((Entry.role_eq_iff rfl).1 hrole)]
  rcases fileText (d.content e.location) with error | text
  · simp [eq_comm]
  · simp

/-- What is wrong with an orchestration manifest. -/
theorem orchestrationDefect?_eq_some (hrole : e.role = .orchestration) :
    d.defect? e = some x ↔
      (∃ error, d.Unreadable e.location error ∧ x = .manifest error) ∨
      ∃ text f, d.content e.location = .ok (Text.encode text) ∧
        Question.listOfText e.name text = .error f ∧ x = .questions f := by
  simp only [Unreadable, ← fileText_eq_error, ← fileText_eq_ok]
  rw [defect?, Entry.begins_eq (r := .configuration) rfl, Entry.begins_eq (r := .deployment) rfl,
    hrole]
  rw [if_neg (by decide), if_neg (by decide), if_pos ((Entry.role_eq_iff rfl).1 hrole)]
  rcases fileText (d.content e.location) with error | text
  · simp [eq_comm]
  · rcases hread : Question.listOfText e.name text with f | questions
    · simp [hread, eq_comm]
    · simp [hread]

/-- Nothing is wrong with an icon, nor with a file of no kind. -/
theorem defect?_eq_none (hconfig : e.role ≠ .configuration) (hdeployment : e.role ≠ .deployment)
    (horchestration : e.role ≠ .orchestration) : d.defect? e = none := by
  rw [defect?, Entry.begins_eq (r := .configuration) rfl, Entry.begins_eq (r := .deployment) rfl,
    Entry.begins_eq (r := .orchestration) rfl]
  simp [hconfig, hdeployment, horchestration]

/-- What is found to be wrong with a file is what is wrong with it. -/
theorem defect?_eq_some : d.defect? e = some x ↔ d.Complains e x := by
  constructor
  · intro h
    -- A file has one role at most, so the first that fits decides what can be wrong with it.
    by_cases hconfig : e.role = .configuration
    · have hbegins := (Entry.role_eq_iff rfl).1 hconfig
      obtain ⟨f, hread | ⟨hread, hparse⟩, rfl⟩ := (configDefect?_eq_some hconfig).1 h
      · exact .unreadable hbegins hread
      · exact .malformed hbegins hread hparse
    by_cases hdeployment : e.role = .deployment
    · have hbegins := (Entry.role_eq_iff rfl).1 hdeployment
      obtain ⟨error, hread, rfl⟩ := (deploymentDefect?_eq_some hdeployment).1 h
      exact .deployment hbegins hread
    by_cases horchestration : e.role = .orchestration
    · have hbegins := (Entry.role_eq_iff rfl).1 horchestration
      rcases (orchestrationDefect?_eq_some horchestration).1 h with
        ⟨error, hread, rfl⟩ | ⟨text, f, hread, hasked, rfl⟩
      · exact .orchestration hbegins hread
      · exact .questions hbegins hread hasked
    · rw [defect?_eq_none hconfig hdeployment horchestration] at h
      cases h
  · intro h
    rcases h with ⟨hbegins, hread⟩ | ⟨hbegins, hread, hparse⟩ | ⟨hbegins, hread⟩ |
      ⟨hbegins, hread⟩ | ⟨hbegins, hread, hasked⟩
    · exact (configDefect?_eq_some ((Entry.role_eq_iff rfl).2 hbegins)).2
        ⟨_, .unreadable hread, rfl⟩
    · exact (configDefect?_eq_some ((Entry.role_eq_iff rfl).2 hbegins)).2
        ⟨_, .malformed hread hparse, rfl⟩
    · exact (deploymentDefect?_eq_some ((Entry.role_eq_iff rfl).2 hbegins)).2 ⟨_, hread, rfl⟩
    · exact (orchestrationDefect?_eq_some ((Entry.role_eq_iff rfl).2 hbegins)).2
        (.inl ⟨_, hread, rfl⟩)
    · exact (orchestrationDefect?_eq_some ((Entry.role_eq_iff rfl).2 hbegins)).2
        (.inr ⟨_, _, hread, hasked, rfl⟩)

/-- The problem with a file, if there is one. -/
def problem? (d : Disk) (e : Entry) : Option Diagnostic :=
  (d.defect? e).map fun x => ⟨e.location, x.text⟩

/-- The problems with files are what is found to be wrong with them, in turn. -/
theorem complaints_iff {files : List Entry} {ps : List Diagnostic} :
    d.Complaints files ps ↔ files.filterMap d.problem? = ps := by
  induction files generalizing ps with
  | nil =>
    constructor
    · rintro ⟨⟩
      rfl
    · rintro rfl
      exact .nil
  | cons e files ih =>
    rcases hfound : d.defect? e with _ | x
    · -- Nothing is wrong with the first file.
      have hnone : d.problem? e = none := by rw [problem?, hfound]; rfl
      have hsound (x : Defect) : ¬ d.Complains e x := fun hx => by
        rw [← defect?_eq_some, hfound] at hx
        cases hx
      rw [List.filterMap_cons_none hnone, ← ih]
      constructor
      · rintro (_ | ⟨-, hrest⟩ | ⟨hx, -⟩)
        · exact hrest
        · exact absurd hx (hsound _)
      · exact .sound hsound
    · -- There is one thing wrong with it.
      have hsome : d.problem? e = some ⟨e.location, x.text⟩ := by rw [problem?, hfound]; rfl
      have hx : d.Complains e x := defect?_eq_some.1 hfound
      rw [List.filterMap_cons_some hsome]
      constructor
      · rintro (_ | ⟨hsound, -⟩ | ⟨hx', hrest⟩)
        · exact absurd hx (hsound x)
        · rw [← defect?_eq_some, hfound] at hx'
          cases hx'
          rw [ih.1 hrest]
      · rintro rfl
        exact .faulty hx (ih.2 rfl)

/-- The problems with the files of a directory. -/
theorem problems_eq {dir : Location} : d.problems dir = (d.files dir).filterMap d.problem? := by
  rw [problems, defects, List.map_filterMap]
  simp only [Option.map_map]
  rfl

end Disk

namespace Version

variable {root : Location} {t v : String} {parent : Option Summary} {c : Contents}

/-- A lookup of a version that is there and can be listed gives the detail of its contents. -/
theorem run_version_of_names {d : Disk} {names : List Bytes} (ht : isIdentifier t = true)
    (hv : isIdentifier v = true) (hdir : d.isDirectory ((root.child t).child v) = true)
    (h : d.names ((root.child t).child v) = .ok names) (s : Snapshot) :
    (s.version root t v).run d = .ok (resolve root t v (s.find? t)
      (d.contents ((root.child t).child v) (Contents.pathOf t v))) :=
  run_version_eq_ok.2 ⟨⟨ht, hv, hdir, Disk.exists_entries.2 ⟨names, h⟩⟩, rfl⟩

/-- If something would be inherited from a template that is missing, a detail tells so after the
    problems of the files. -/
theorem diagnostics_of_missing (hc : c.config = none ∨ c.iconPath = none) (hp : parent = none) :
    (resolve root t v parent c).diagnostics = c.diagnostics ++ [missingParent root t v] := by
  have hinherits : inherits c = true := by
    rw [inherits, Bool.or_eq_true, Option.isNone_iff_eq_none, Option.isNone_iff_eq_none]
    exact hc
  rw [resolve, hinherits, hp]
  rfl

/-- Otherwise it tells those problems only. -/
theorem diagnostics_of_not_missing
    (h : ¬ ((c.config = none ∨ c.iconPath = none) ∧ parent = none)) :
    (resolve root t v parent c).diagnostics = c.diagnostics := by
  have hthere : (inherits c && parent.isNone) = false := by
    rw [Bool.eq_false_iff, ne_eq, Bool.and_eq_true, inherits, Bool.or_eq_true,
      Option.isNone_iff_eq_none, Option.isNone_iff_eq_none, Option.isNone_iff_eq_none]
    exact h
  rw [resolve, hthere]
  exact List.append_nil _

end Version

namespace Contents

/-- **Exact diagnoses**: whenever the directory of a version can be listed, its contents are found,
    and their problems are those of its files in ascending order of their names, each told once
    and under its own path. A lookup of the version tells them unchanged, and after them that the
    template is missing, exactly if something would be inherited from a template that is not
    published. -/
theorem diagnosed {d : Disk} {root : Location} {t v : String} {names : List Bytes}
    (h : d.names ((root.child t).child v) = .ok names) :
    ∃ c files, (inquire root t v).run d = .ok c ∧
      Entry.InOrder (d.listed ((root.child t).child v) names) files ∧
      (∀ ps, d.Complaints files ps ↔ c.diagnostics = ps) ∧
      ∀ s : Snapshot,
        (isIdentifier t = true → isIdentifier v = true →
          d.isDirectory ((root.child t).child v) = true →
          ∃ detail, (s.version root t v).run d = .ok detail) ∧
        ∀ detail, (s.version root t v).run d = .ok detail →
          ((c.config = none ∨ c.iconPath = none) ∧ s.find? t = none →
            detail.diagnostics = c.diagnostics ++ [Version.missingParent root t v]) ∧
          (¬ ((c.config = none ∨ c.iconPath = none) ∧ s.find? t = none) →
            detail.diagnostics = c.diagnostics) := by
  refine ⟨_, _, run_inquire_of_names h, Disk.inOrder_files h, fun ps => ?_, fun s => ⟨?_, ?_⟩⟩
  · rw [Disk.complaints_iff, ← Disk.problems_eq]
    rfl
  · intro ht hv hdir
    exact ⟨_, Version.run_version_of_names ht hv hdir h s⟩
  · intro detail hdetail
    obtain ⟨-, rfl⟩ := Version.run_version_eq_ok.1 hdetail
    refine ⟨fun hmissing => ?_, fun hthere => ?_⟩
    · exact Version.diagnostics_of_missing hmissing.1 hmissing.2
    · exact Version.diagnostics_of_not_missing hthere

/-- The drawer has four problems, and a lookup in an empty catalog tells a fifth. -/
theorem diagnosed_drawer :
    ∃ detail,
      (Snapshot.empty.version (.ofString "shelf") "mysql" "1").run Disk.drawer = .ok detail ∧
      detail.diagnostics =
        [⟨.ofString "shelf/mysql/1/config.yml",
            "Failed to parse config file shelf/mysql/1/config.yml: YAML parsing error: " ++
              "invalid type: sequence, expected struct TemplateConfig: " ++
              "invalid type: sequence, expected struct TemplateConfig"⟩,
          ⟨.ofString "shelf/mysql/1/docker-compose", "No such file or directory (os error 2)"⟩,
          ⟨.ofString "shelf/mysql/1/rancher-compose.1",
            "rancher-compose.1 is not a mapping of sections"⟩,
          ⟨.ofString "shelf/mysql/1/rancher-compose.2", "stream did not contain valid UTF-8"⟩,
          ⟨.ofString "shelf/mysql/1",
            "parent template 'mysql' is not in the published catalog"⟩] := by
  obtain ⟨c, files, hrun, horder, hdiagnosed, hlookup⟩ :=
    @diagnosed Disk.drawer (.ofString "shelf") "mysql" "1" _ rfl
  obtain rfl := Disk.drawer_inOrder rfl horder
  -- There is no icon, so one would be inherited.
  have hicon : c.iconPath = none := by
    have hfiles := Disk.drawer_inOrder rfl (Disk.inOrder_files rfl)
    obtain rfl := Except.ok.inj (hrun.symm.trans (run_inquire_of_names rfl))
    refine (adopts_contents ..).noIcon.2 ?_
    rw [hfiles]
    decide
  obtain ⟨hfound, hproblems⟩ := hlookup Snapshot.empty
  obtain ⟨detail, hdetail⟩ := hfound (by decide) (by decide) (by decide)
  refine ⟨detail, hdetail, ?_⟩
  rw [(hproblems detail hdetail).1 ⟨.inr hicon, rfl⟩,
    (hdiagnosed _).1 (Disk.complaints_iff.2 rfl)]
  decide +kernel

end Contents

end TemplateCatalog
