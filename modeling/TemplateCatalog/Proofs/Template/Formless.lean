import TemplateCatalog.Proofs.Template.Complaint
import TemplateCatalog.Proofs.Template.Configuration

/-!
# Configurations that are no mappings

A configuration is a mapping, and what else a document may be tells nothing. Most of it is
rejected; only what is empty is let pass, as an empty configuration: a text of blanks, and a
document that is missing or a plain scalar without a text. A file that is rejected is told of once.
It takes nothing from a version but itself: all that the version says is what it would say without
the file.

* `Config.ofText_of_formless`: what is made of a text whose document is no mapping;
* `Disk.Lacks`: another disk lacks one name of a directory;
* `Config.formless`: what comes of such a text wherever a configuration is read.
-/

namespace TemplateCatalog

open Decoding Yaml

namespace Yaml.Document

/-- A document is no mapping. -/
def Formless (d : Document) : Prop := ∀ label entries, d.root ≠ some (.mapping label entries)

/-- A document is empty: there is none, or it is a plain scalar without a text, whatever its tag. -/
structure IsVacant (d : Document) : Prop where
  root : d.root = none ∨ ∃ label, d.root = some (.scalar label true "")
  whole : d.breach = none
  only : d.more = false

end Yaml.Document

namespace Config

/-! ## Reading a text -/

variable {d : Document} {n m : Nat} {node : Node} {c : Config} {text : String}

/-- Of a node that is no mapping nothing is read, unless it is a plain scalar without a text. -/
theorem ofNode_eq_ok (h : ∀ label entries, node ≠ .mapping label entries) :
    (∃ m, ofNode d node n = .ok (c, m)) ↔ c = empty ∧ ∃ label, node = .scalar label true "" := by
  constructor
  · rintro ⟨m, hread⟩
    unfold ofNode at hread
    split at hread
    · exact absurd rfl (h _ _)
    · cases hread
      exact ⟨rfl, _, rfl⟩
    · next label plain text _ =>
      generalize (Node.scalar label plain text).found d = found at hread
      cases found <;> cases hread
    · cases hread
    · cases hread
    · cases hread
  · rintro ⟨rfl, label, rfl⟩
    exact ⟨n, rfl⟩

/-- A text whose document is no mapping holds no configuration but the empty one, and that only if
    it is blank or the document is empty. -/
theorem ofText_of_formless (h : (Document.ofText text).Formless) : ofText text = .ok c ↔
    c = empty ∧ (Text.isBlankText text = true ∨ (Document.ofText text).IsVacant) := by
  by_cases hblank : Text.isBlankText text = true
  · rw [ofText, if_pos hblank, and_iff_left (.inl hblank), Except.ok.injEq, eq_comm]
  · rw [ofText, if_neg hblank, ofDocument, Document.run_eq_ok, or_iff_right hblank]
    generalize Document.ofText text = d at h
    rcases hroot : d.root with _ | node
    · constructor
      · rintro ⟨hwhole, honly, m, hread⟩
        cases hread
        exact ⟨rfl, .inl hroot, hwhole, honly⟩
      · rintro ⟨rfl, -, hwhole, honly⟩
        exact ⟨hwhole, honly, 0, rfl⟩
    · have hnode : ∀ label entries, node ≠ .mapping label entries := fun label entries heq =>
        h label entries (heq ▸ hroot)
      simp only [ofNode_eq_ok hnode]
      constructor
      · rintro ⟨hwhole, honly, rfl, label, rfl⟩
        exact ⟨rfl, .inr ⟨label, hroot⟩, hwhole, honly⟩
      · rintro ⟨rfl, hempty | ⟨label, hempty⟩, hwhole, honly⟩
        · cases hroot.symm.trans hempty
        · cases hroot.symm.trans hempty
          exact ⟨hwhole, honly, rfl, label, rfl⟩

end Config

/-! ## A directory without one of its files -/

namespace Disk

/-- Another disk lacks one name of a directory, and tells the same of the others in it. -/
structure Lacks (d d' : Disk) (dir : Location) (name : Bytes) : Prop where
  listing : ∃ before after, d.names dir = .ok (before ++ name :: after) ∧
    d'.names dir = .ok (before ++ after)
  same : ∀ names, d'.names dir = .ok names → ∀ other ∈ names,
    d'.isDirectory (dir.join other) = d.isDirectory (dir.join other) ∧
    d'.content (dir.join other) = d.content (dir.join other)

/-- Of the files in a directory one is lacking on another disk, and the others have the same
    content. -/
def LacksFile (d d' : Disk) (dir : Location) (e : Entry) : Prop :=
  ∃ before after, d.files dir = before ++ e :: after ∧ d'.files dir = before ++ after ∧
    ∀ other ∈ before ++ after, d'.content other.location = d.content other.location

variable {d d' : Disk} {dir : Location} {name : Bytes} {e : Entry}

/-- If the name that is lacking is that of a file, so is the file. -/
theorem Lacks.file (h : d.Lacks d' dir name) (hfile : d.isDirectory (dir.join name) = false) :
    d.LacksFile d' dir (d.entry dir name) := by
  obtain ⟨before, after, hnames, hnames'⟩ := h.listing
  have hentry : (before ++ after).map (d'.entry dir) = (before ++ after).map (d.entry dir) :=
    List.map_congr_left fun other hother => by
      rw [entry, entry, (h.same _ hnames' other hother).1]
  have hkept (rest : List Entry) : (d.entry dir name :: rest).filter (fun e => !e.isDirectory) =
      d.entry dir name :: rest.filter fun e => !e.isDirectory := by
    refine List.filter_cons_of_pos ?_
    rw [Bool.not_eq_true']
    exact hfile
  have horder := inOrder_files hnames
  rw [listed, List.map_append, List.map_cons, List.filter_append, hkept] at horder
  have horder' := inOrder_files hnames'
  rw [listed, hentry, List.map_append, List.filter_append] at horder'
  obtain ⟨first, rest, hfiles, hsplit, -⟩ := horder.split
  have hfiles' : d'.files dir = first ++ rest := horder'.unique hsplit
  refine ⟨first, rest, hfiles, hfiles', fun e he => ?_⟩
  obtain ⟨other, hother, rfl, -⟩ := (mem_files_iff hnames').1 (hfiles' ▸ he)
  exact (h.same _ hnames' other hother).2

namespace LacksFile

/-- A file of which nothing is read does not change what is read last. -/
theorem getLast?_eq {β : Type} {read read' : Entry → Option β} (h : d.LacksFile d' dir e)
    (hsame : ∀ other, d'.content other.location = d.content other.location →
      read' other = read other)
    (hnone : read e = none) :
    ((d.files dir).filterMap read).getLast? = ((d'.files dir).filterMap read').getLast? := by
  obtain ⟨before, after, hfiles, hfiles', hcontent⟩ := h
  rw [hfiles, hfiles', List.filterMap_congr fun other hother => hsame other (hcontent other hother),
    List.filterMap_append, List.filterMap_append, List.filterMap_cons_none hnone]

theorem config?_eq (h : d.LacksFile d' dir e) (hnone : d.configIn? e.location = none) :
    d.config? dir = d'.config? dir := by
  rw [Disk.config?_eq, Disk.config?_eq]
  refine h.getLast?_eq (fun other hsame => ?_) ?_
  · rw [configIn?, configIn?, hsame]
  · rw [hnone]
    exact ite_self none

theorem icon?_eq (h : d.LacksFile d' dir e) (he : e.role ≠ .icon) :
    d.icon? dir = d'.icon? dir := by
  rw [Disk.icon?_eq, Disk.icon?_eq]
  exact h.getLast?_eq (fun _ _ => rfl) (if_neg fun hb => he ((Entry.role_eq_iff rfl).2 hb))

theorem deployment?_eq (h : d.LacksFile d' dir e) (he : e.role ≠ .deployment) :
    d.manifest? dir "docker-compose" = d'.manifest? dir "docker-compose" := by
  rw [Disk.deployment?_eq, Disk.deployment?_eq]
  refine h.getLast?_eq (fun other hsame => ?_)
    (if_neg fun hb => he ((Entry.role_eq_iff rfl).2 hb))
  rw [deployment?, deployment?, textIn?, textIn?, hsame]

theorem lastOrchestration?_eq (h : d.LacksFile d' dir e) (he : e.role ≠ .orchestration) :
    d.lastOrchestration? dir = d'.lastOrchestration? dir := by
  refine h.getLast?_eq (fun other hsame => ?_)
    (if_neg fun hb => he ((Entry.role_eq_iff rfl).2 hb))
  rw [orchestration?, orchestration?, textIn?, textIn?, hsame]

/-- The problem of the file is told where the file was. -/
theorem problems_eq (h : d.LacksFile d' dir e) {p : Diagnostic} (hp : d.problem? e = some p) :
    ∃ before after, d.problems dir = before ++ p :: after ∧
      d'.problems dir = before ++ after := by
  obtain ⟨before, after, hfiles, hfiles', hcontent⟩ := h
  have hsame (other : Entry) (hother : other ∈ before ++ after) :
      d'.problem? other = d.problem? other := by
    rw [problem?, problem?, defect?, defect?, hcontent other hother]
  refine ⟨before.filterMap d.problem?, after.filterMap d.problem?, ?_, ?_⟩
  · rw [Disk.problems_eq, hfiles, List.filterMap_append, List.filterMap_cons_some hp]
  · rw [Disk.problems_eq, hfiles', List.filterMap_congr hsame, List.filterMap_append]

end LacksFile

end Disk

/-- Contents say what others say, and tell one problem more. -/
structure Contents.Besides (c c' : Contents) (problem : Diagnostic) : Prop where
  config : c.config = c'.config
  iconPath : c.iconPath = c'.iconPath
  dockerManifest : c.dockerManifest = c'.dockerManifest
  orchestrationManifest : c.orchestrationManifest = c'.orchestrationManifest
  questions : c.questions = c'.questions
  diagnostics : ∃ before after, c.diagnostics = before ++ problem :: after ∧
    c'.diagnostics = before ++ after

/-- A configuration file that cannot be read takes nothing from a version but itself. -/
theorem Disk.LacksFile.besides {d d' : Disk} {dir : Location} {e : Entry}
    (h : d.LacksFile d' dir e) (he : e.role = .configuration) {f : Failure}
    (hread : Config.ofFile e.location (d.content e.location) = .error f) (path : String) :
    (d.contents dir path).Besides (d'.contents dir path) ⟨e.location, f.text⟩ := by
  have hnone : d.configIn? e.location = none := by
    rw [configIn?, hread]
    rfl
  have hproblem : d.problem? e = some ⟨e.location, f.text⟩ := by
    have hdefect : d.defect? e = some (.configuration f) :=
      (configDefect?_eq_some he).2 ⟨f, ofFile_eq_error.1 hread, rfl⟩
    rw [problem?, hdefect]
    rfl
  have horchestration : d.lastOrchestration? dir = d'.lastOrchestration? dir :=
    h.lastOrchestration?_eq (he ▸ by decide)
  refine ⟨h.config?_eq hnone, ?_, h.deployment?_eq (he ▸ by decide), ?_, ?_,
    h.problems_eq hproblem⟩
  · rw [contents, contents, h.icon?_eq (he ▸ by decide)]
  · rw [contents, contents, orchestrationManifest?_eq, orchestrationManifest?_eq, horchestration]
  · rw [contents, contents, questions_eq, questions_eq, horchestration]

namespace Config

variable {text : String} {c : Config}

/-- What is wrong with a configuration file whose text cannot be parsed. -/
def unparsed (file : Location) (fault : Fault) : Failure :=
  ⟨["Failed to parse config file " ++ file.display], .catalog (.markup fault)⟩

/-- A text is no configuration wherever one is read, for this fault. -/
structure Refused (text : String) (fault : Fault) : Prop where
  file : ∀ file, ofFile file (.ok (Text.encode text)) = .error (unparsed file fault)
  /-- A template with such a file has the empty configuration, and one problem is told. -/
  template : ∀ (d : Disk) (dir : Location),
    d.content (dir.child "config.yml") = .ok (Text.encode text) →
    (Config.inquire dir).run d = ⟨.empty,
      [⟨dir.child "config.yml", (unparsed (dir.child "config.yml") fault).text⟩]⟩
  /-- A version with such a file says what it would say without the file, and one problem more is
      told. -/
  version : ∀ (d d' : Disk) (root : Location) (t v : String) (name : Bytes),
    d.Lacks d' ((root.child t).child v) name →
    d.isDirectory (((root.child t).child v).join name) = false →
    (d.entry ((root.child t).child v) name).begins "config.yml" = true →
    d.content (((root.child t).child v).join name) = .ok (Text.encode text) →
    ∃ c c', (Contents.inquire root t v).run d = .ok c ∧
      (Contents.inquire root t v).run d' = .ok c' ∧
      c.Besides c' ⟨((root.child t).child v).join name,
        (unparsed (((root.child t).child v).join name) fault).text⟩

/-- A text that cannot be parsed is refused everywhere. -/
theorem refused_of_ofText {fault : Fault} (h : ofText text = .error fault) :
    Refused text fault := by
  have hfile (file : Location) :
      ofFile file (.ok (Text.encode text)) = .error (unparsed file fault) := by
    rw [ofFile_encode, h]
    rfl
  refine ⟨hfile, fun d dir hcontent => ?_, fun d d' root t v name hlacks hdir hname hcontent => ?_⟩
  · rw [run_inquire, hcontent, hfile]
  · obtain ⟨before, after, hnames, hnames'⟩ := hlacks.listing
    refine ⟨_, _, Contents.run_inquire_of_names hnames, Contents.run_inquire_of_names hnames', ?_⟩
    refine (hlacks.file hdir).besides ((Entry.role_eq_iff rfl).2 hname) ?_ _
    rw [← hfile, ← hcontent]
    rfl

/-- **Configurations that are no mappings**: a file whose document is no mapping never gives a name,
    nor anything else. If its text is not blank and the document is not empty, it is refused: a
    template has the empty configuration then, and a version is as if the file were not there, but
    for one problem that is told of it. -/
theorem formless (h : (Document.ofText text).Formless) :
    (∀ file c, ofFile file (.ok (Text.encode text)) = .ok c ↔
      c = empty ∧ (Text.isBlankText text = true ∨ (Document.ofText text).IsVacant)) ∧
    (∀ (d : Disk) dir, d.content (dir.child "config.yml") = .ok (Text.encode text) →
      ((Config.inquire dir).run d).value = empty) ∧
    (¬ (Text.isBlankText text = true ∨ (Document.ofText text).IsVacant) →
      ∃ fault, ofText text = .error fault ∧ Refused text fault) := by
  refine ⟨fun file c => ofFile_encode_eq_ok.trans (ofText_of_formless h), fun d dir hcontent => ?_,
    fun hnot => ?_⟩
  · rw [run_inquire, hcontent]
    rcases hread : ofFile (dir.child "config.yml") (.ok (Text.encode text)) with f | c
    · rfl
    · exact ((ofText_of_formless h).1 (ofFile_encode_eq_ok.1 hread)).1
  · rcases hread : ofText text with fault | c
    · exact ⟨fault, rfl, refused_of_ofText hread⟩
    · exact absurd ((ofText_of_formless h).1 hread).2 hnot

/-- The drawer says what it would say without its configuration, which is a sequence, but for the
    problem that is told of it. -/
theorem formless_drawer : ∃ fault c c', ofText "- a" = .error fault ∧
    (Contents.inquire (.ofString "shelf") "mysql" "1").run Disk.drawer = .ok c ∧
    (Contents.inquire (.ofString "shelf") "mysql" "1").run
      (Disk.holding (Disk.drawerNames.erase (Text.encode "config.yml")) Disk.drawer.content) =
        .ok c' ∧
    c.Besides c' ⟨.ofString "shelf/mysql/1/config.yml",
      (unparsed (.ofString "shelf/mysql/1/config.yml") fault).text⟩ := by
  obtain ⟨label, items, hroot⟩ : ∃ label items,
      (Document.ofText "- a").root = some (.sequence label items) := ⟨_, _, rfl⟩
  have hformless : (Document.ofText "- a").Formless := fun _ _ hmapping => by
    cases hroot.symm.trans hmapping
  have hnot : ¬ (Text.isBlankText "- a" = true ∨ (Document.ofText "- a").IsVacant) := by
    rintro (hblank | ⟨hnone | ⟨_, hscalar⟩, -, -⟩)
    · exact absurd hblank (by decide)
    · cases hroot.symm.trans hnone
    · cases hroot.symm.trans hscalar
  obtain ⟨-, -, hrefused⟩ := formless hformless
  obtain ⟨fault, hread, h⟩ := hrefused hnot
  have hlacks : Disk.drawer.Lacks
      (Disk.holding (Disk.drawerNames.erase (Text.encode "config.yml")) Disk.drawer.content)
      (((Location.ofString "shelf").child "mysql").child "1") (Text.encode "config.yml") :=
    ⟨⟨[Text.encode "rancher-compose.2", Text.encode "README"],
      [Text.encode "rancher-compose", Text.encode "docker-compose",
        Text.encode "rancher-compose.1"], rfl, by decide +kernel⟩, fun _ _ _ _ => ⟨rfl, rfl⟩⟩
  obtain ⟨c, c', hrun, hrun', hbesides⟩ := h.version _ _ (.ofString "shelf") "mysql" "1" _ hlacks
    (by decide +kernel) (by decide +kernel) (by decide +kernel)
  exact ⟨fault, c, c', hread, hrun, hrun', hbesides⟩

/-- Not all that is neither a mapping nor null is rejected. A no-break space is a text to the
    markup, but the file is blank; and a tag alone makes a text of its own, though an empty one. -/
theorem formless_blank :
    (∃ l, (Document.ofText "\u00a0").root.bind Node.look? = some l ∧
      l.CountsAs (some "\u00a0") ∧
      ofFile (.ofString "config.yml") (.ok (Text.encode "\u00a0")) = .ok empty) ∧
    ∃ l, (Document.ofText "!!str").root.bind Node.look? = some l ∧ l.CountsAs (some "") ∧
      ofFile (.ofString "config.yml") (.ok (Text.encode "!!str")) = .ok empty := by
  constructor
  · exact ⟨⟨none, true, "\u00a0"⟩, by decide +kernel, .text ⟨rfl, rfl⟩,
      ofFile_encode_eq_ok.2 (by rfl)⟩
  · exact ⟨⟨some "tag:yaml.org,2002:str", true, ""⟩, by decide +kernel, .text ⟨rfl, rfl⟩,
      ofFile_encode_eq_ok.2 (by rfl)⟩

end Config

end TemplateCatalog
