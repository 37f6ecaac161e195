import TemplateCatalog.Proofs.Catalog.Lookup
import TemplateCatalog.Proofs.Template.Adoption

/-!
# Questions of a manifest

Of the orchestration manifests of a version the last that is a text is kept, byte by byte, and the
questions of the version are those in that text. A manifest whose questions cannot be read is kept
all the same, and takes away those of the manifest before it; one that is no text changes nothing.
So the questions of one file never come with the text of another.

* `Contents.Paired`: how the manifest and the questions of a version belong together;
* `Contents.pairing`: they do, whatever is in the directory, and a lookup passes both on.
-/

namespace TemplateCatalog

namespace Disk

variable (d : Disk)

/-- A file is an orchestration manifest: the name that it is shown by, and its text. -/
def OrchestrationIn (e : Entry) (m : String × String) : Prop :=
  e.begins "rancher-compose" = true ∧ e.name = m.1 ∧ d.content e.location = .ok (Text.encode m.2)

/-- The name and the text of an orchestration manifest, if it has one. -/
def orchestration? (e : Entry) : Option (String × String) :=
  if e.begins "rancher-compose" then (d.textIn? e).map fun m => (m.1.name, m.2) else none

/-- The orchestration manifest that is kept of a directory: the last that has a text. -/
def lastOrchestration? (dir : Location) : Option (String × String) :=
  ((d.files dir).filterMap d.orchestration?).getLast?

variable {d} {dir : Location}

/-- What is read of an orchestration manifest. -/
theorem orchestration?_eq_some {e : Entry} {m : String × String} :
    d.orchestration? e = some m ↔ d.OrchestrationIn e m := by
  obtain ⟨name, text⟩ := m
  rw [orchestration?, Option.ite_none_right_eq_some, OrchestrationIn, ← fileText_eq_ok, textIn?]
  refine and_congr_right fun _ => ?_
  cases fileText (d.content e.location) <;> simp [Except.toOption]

/-- The manifest that is kept, with the name of its file. -/
theorem map_manifestEntry? :
    (d.manifestEntry? dir "rancher-compose").map (fun m => (m.1.name, m.2)) =
      d.lastOrchestration? dir := by
  rw [Disk.manifestEntry?, ← List.getLast?_map, List.map_filterMap, filesOf, List.filterMap_filter]
  rfl

/-- The text that is kept. -/
theorem orchestrationManifest?_eq :
    d.manifest? dir "rancher-compose" = (d.lastOrchestration? dir).map (·.2) := by
  rw [← map_manifestEntry?, Option.map_map]
  rfl

/-- The questions are those of the text that is kept, under the name of its own file. -/
theorem questions_eq :
    d.questions dir =
      ((d.lastOrchestration? dir).map fun m => (Question.listOfText m.1 m.2).toOption.getD []).getD
        [] := by
  rw [← map_manifestEntry?, Option.map_map, questions]
  cases d.manifestEntry? dir "rancher-compose" <;> rfl

/-- The manifest that is kept is the last that is a text. -/
theorem lastOrchestration?_eq_some {m : String × String} :
    d.lastOrchestration? dir = some m ↔ LastGives d.OrchestrationIn (d.files dir) m :=
  getLast?_filterMap_eq_some fun _ _ => orchestration?_eq_some

/-- None is kept exactly if none is a text. -/
theorem lastOrchestration?_eq_none :
    d.lastOrchestration? dir = none ↔ ∀ e ∈ d.files dir, ∀ m, ¬ d.OrchestrationIn e m :=
  getLast?_filterMap_eq_none fun _ _ => orchestration?_eq_some

end Disk

/-- Of files in ascending order, the last that gives something comes after all that do. -/
theorem LastGives.greatest {β : Type} {gives : Entry → β → Prop} {files : List Entry} {b : β}
    (h : LastGives gives files b) (hs : files.Pairwise fun a b => a.name ≤ b.name) :
    ∃ e ∈ files, gives e b ∧ ∀ e' ∈ files, ∀ b', gives e' b' → e'.name ≤ e.name := by
  obtain ⟨before, e, after, rfl, he, hafter⟩ := h
  refine ⟨e, List.mem_append_right _ List.mem_cons_self, he, fun e' he' b' hb' => ?_⟩
  rcases List.mem_append.1 he' with hbefore | hrest
  · exact (List.pairwise_append.1 hs).2.2 e' hbefore e List.mem_cons_self
  · rcases List.mem_cons.1 hrest with rfl | hlater
    · exact String.le_refl _
    · exact absurd hb' (hafter e' hlater b')

namespace Contents

/-- The manifest and the questions of a version belong together: both are those of the last
    orchestration manifest among its files that is a text. -/
structure Paired (d : Disk) (files : List Entry) (c : Contents) : Prop where
  /-- The manifest is the text of that file, byte by byte. -/
  manifest : ∀ text, c.orchestrationManifest = some text ↔
    ∃ name, LastGives d.OrchestrationIn files (name, text)
  noManifest : c.orchestrationManifest = none ↔ ∀ e ∈ files, ∀ m, ¬ d.OrchestrationIn e m
  /-- No other that is a text comes after it. -/
  greatest : ∀ name text, LastGives d.OrchestrationIn files (name, text) →
    ∀ e ∈ files, ∀ m, d.OrchestrationIn e m → e.name ≤ name
  /-- The questions are those in that text. -/
  asked : ∀ name text questions, LastGives d.OrchestrationIn files (name, text) →
    Question.listOfText name text = .ok questions → c.questions = questions
  /-- There are none if they are rejected, whatever was asked before. -/
  rejected : ∀ name text f, LastGives d.OrchestrationIn files (name, text) →
    Question.listOfText name text = .error f → c.questions = []
  unasked : c.orchestrationManifest = none → c.questions = []

/-- Questions come with the text that they are in: they are read from one file, which the
    manifest is the text of. -/
theorem Paired.own {d : Disk} {files : List Entry} {c : Contents} (h : c.Paired d files)
    (hc : c.questions ≠ []) :
    ∃ e ∈ files, ∃ text, d.OrchestrationIn e (e.name, text) ∧
      c.orchestrationManifest = some text ∧ Question.listOfText e.name text = .ok c.questions := by
  rcases hmanifest : c.orchestrationManifest with _ | text
  · exact absurd (h.unasked hmanifest) hc
  · obtain ⟨name, hlast⟩ := (h.manifest text).1 hmanifest
    have hsplit := hlast
    obtain ⟨before, e, after, rfl, he, -⟩ := hsplit
    obtain rfl : e.name = name := he.2.1
    refine ⟨e, List.mem_append_right _ List.mem_cons_self, text, he, rfl, ?_⟩
    rcases hread : Question.listOfText e.name text with f | questions
    · exact absurd (h.rejected _ _ f hlast hread) hc
    · rw [h.asked _ _ questions hlast hread]

/-- The contents of a directory pair the manifest that is kept with its questions. -/
theorem paired_contents (d : Disk) (dir : Location) (path : String)
    (hs : (d.files dir).Pairwise fun a b => a.name ≤ b.name) :
    (d.contents dir path).Paired d (d.files dir) := by
  -- The questions are read of the file whose manifest is kept, so one case decides both.
  have hquestions (name text : String)
      (h : LastGives d.OrchestrationIn (d.files dir) (name, text)) :
      d.questions dir = (Question.listOfText name text).toOption.getD [] := by
    rw [Disk.questions_eq, Disk.lastOrchestration?_eq_some.2 h]
    rfl
  refine
    { manifest := fun text => ?_
      noManifest := ?_
      greatest := fun name text h e he m hm => ?_
      asked := fun name text questions h hread => ?_
      rejected := fun name text f h hread => ?_
      unasked := fun hnone => ?_ }
  · rw [Disk.contents, Disk.orchestrationManifest?_eq, Option.map_eq_some_iff]
    constructor
    · rintro ⟨⟨name, _⟩, hlast, rfl⟩
      exact ⟨name, Disk.lastOrchestration?_eq_some.1 hlast⟩
    · rintro ⟨name, hlast⟩
      exact ⟨(name, text), Disk.lastOrchestration?_eq_some.2 hlast, rfl⟩
  · rw [Disk.contents, Disk.orchestrationManifest?_eq, Option.map_eq_none_iff,
      Disk.lastOrchestration?_eq_none]
  · obtain ⟨e', -, he', hall⟩ := h.greatest hs
    obtain rfl : e'.name = name := he'.2.1
    exact hall e he m hm
  · rw [Disk.contents, hquestions name text h, hread]
    rfl
  · rw [Disk.contents, hquestions name text h, hread]
    rfl
  · rw [Disk.contents, Disk.orchestrationManifest?_eq, Option.map_eq_none_iff] at hnone
    rw [Disk.contents, Disk.questions_eq, hnone]
    rfl

/-- **Questions and their manifest**: whenever the directory of a version can be listed, its
    contents are found, and their manifest and their questions are those of one file: of the last
    orchestration manifest that is a text, among the files in ascending order of their names. So
    there are no questions but with the text that they are in. A lookup of the version gives the
    same two, whatever is published. -/
theorem pairing {d : Disk} {root : Location} {t v : String} {names : List Bytes}
    (h : d.names ((root.child t).child v) = .ok names) :
    ∃ c files, (inquire root t v).run d = .ok c ∧
      Entry.InOrder (d.listed ((root.child t).child v) names) files ∧ c.Paired d files ∧
      (c.questions ≠ [] → ∃ e ∈ files, ∃ text, d.OrchestrationIn e (e.name, text) ∧
        c.orchestrationManifest = some text ∧
        Question.listOfText e.name text = .ok c.questions) ∧
      ∀ (s : Snapshot) (detail : Version), (s.version root t v).run d = .ok detail →
        detail.orchestrationManifest = c.orchestrationManifest ∧
        detail.questions = c.questions := by
  have horder := Disk.inOrder_files h
  have hpaired := paired_contents d _ (pathOf t v) horder.ascending
  refine ⟨_, _, run_inquire_of_names h, horder, hpaired, hpaired.own, ?_⟩
  intro s detail hdetail
  obtain ⟨-, rfl⟩ := Version.run_version_eq_ok.1 hdetail
  exact ⟨rfl, rfl⟩

end Contents

/-- A disk with one version of one template, in which there are files of these names. -/
def Disk.holding (names : List Bytes) (content : Location → Except DiskError Bytes) : Disk
  | .isDirectory l =>
    l ∈ [.ofString "shelf", .ofString "shelf/mysql", .ofString "shelf/mysql/1"]
  | .isPresent _ => true
  | .names l =>
    if l = .ofString "shelf" then .ok [Text.encode "mysql"]
    else if l = .ofString "shelf/mysql" then .ok [Text.encode "1"]
    else if l = .ofString "shelf/mysql/1" then .ok names
    else .error .notDirectory
  | .content l => content l

/-- What is in the directory of a version, in no order. -/
def Disk.drawerNames : List Bytes :=
  [Text.encode "rancher-compose.2", Text.encode "README", Text.encode "config.yml",
    Text.encode "rancher-compose", Text.encode "docker-compose", Text.encode "rancher-compose.1"]

/-- The text of a manifest that asks for a port. -/
def Disk.drawerManifest : String := "web:\n  questions:\n  - variable: port\n"

/-- A disk with that version. Of its orchestration manifests the first asks a question, the second
    has no sections and the third is no text. Its configuration has no keys, and its deployment
    manifest leads nowhere. -/
def Disk.drawer : Disk := holding drawerNames fun l =>
  if l = .ofString "shelf/mysql/1/rancher-compose" then .ok (Text.encode drawerManifest)
  else if l = .ofString "shelf/mysql/1/rancher-compose.1" then .ok (Text.encode "- a")
  else if l = .ofString "shelf/mysql/1/rancher-compose.2" then .ok [0xFF]
  else if l = .ofString "shelf/mysql/1/config.yml" then .ok (Text.encode "- a")
  else .error .notFound

/-- The files of that version, in order. -/
def Disk.drawerFiles : List Entry :=
  [⟨"README", .ofString "shelf/mysql/1/README", false⟩,
    ⟨"config.yml", .ofString "shelf/mysql/1/config.yml", false⟩,
    ⟨"docker-compose", .ofString "shelf/mysql/1/docker-compose", false⟩,
    ⟨"rancher-compose", .ofString "shelf/mysql/1/rancher-compose", false⟩,
    ⟨"rancher-compose.1", .ofString "shelf/mysql/1/rancher-compose.1", false⟩,
    ⟨"rancher-compose.2", .ofString "shelf/mysql/1/rancher-compose.2", false⟩]

theorem Disk.drawer_inOrder {names : List Bytes} {files : List Entry}
    (h : Disk.drawer.names (((Location.ofString "shelf").child "mysql").child "1") = .ok names)
    (hfiles : Entry.InOrder
      (Disk.drawer.listed (((Location.ofString "shelf").child "mysql").child "1") names) files) :
    files = drawerFiles := by
  cases h
  exact hfiles.eq_of_lt (by decide +kernel) (by decide +kernel)

/-- In the drawer the question of the first manifest is gone: the second is kept, which asks
    none. -/
theorem Contents.pairing_drawer :
    (Question.listOfText "rancher-compose" Disk.drawerManifest).toOption =
        some [⟨"port", "", "", false, none, ""⟩] ∧
      ∃ c, (inquire (.ofString "shelf") "mysql" "1").run Disk.drawer = .ok c ∧
        c.orchestrationManifest = some "- a" ∧ c.questions = [] := by
  refine ⟨by decide +kernel, ?_⟩
  obtain ⟨c, files, hrun, horder, hpaired, -⟩ :=
    @pairing Disk.drawer (.ofString "shelf") "mysql" "1" _ rfl
  obtain rfl := Disk.drawer_inOrder rfl horder
  have hlast : LastGives Disk.drawer.OrchestrationIn Disk.drawerFiles
      ("rancher-compose.1", "- a") := by
    refine (getLast?_filterMap_eq_some fun _ _ => Disk.orchestration?_eq_some).1 ?_
    decide +kernel
  refine ⟨c, hrun, (hpaired.manifest _).2 ⟨_, hlast⟩, ?_⟩
  rcases hread : Question.listOfText "rancher-compose.1" "- a" with f | questions
  · exact hpaired.rejected _ _ f hlast hread
  · have hnone : (Question.listOfText "rancher-compose.1" "- a").toOption = none := by
      decide +kernel
    rw [hread] at hnone
    cases hnone

end TemplateCatalog
