import Mathlib.Data.List.Basic
import TemplateCatalog.Proofs.Catalog.Lookup
import TemplateCatalog.Proofs.Disk.Coherence

/-!
# Containment between templates

What the catalog says of one template depends on its own directory alone. Two disks may
have any other directories and files beside it, malformed ones, some that cannot be
listed, and some whose names are no texts: if they answer alike whatever is asked below
the directory of the template (`Disk.AgreeBelow`), they publish the template alike, and
give the same details of all its versions.

The one thing that is asked outside of the directory is the list of the root. A name in
it is shown as a text, and a name that is none may be shown as the template is; but then
it is the directory of the template that is read, which must be there under its own name
(`Disk.AgreeBelow.publishes`).
-/

namespace TemplateCatalog

namespace Location

/-- A directory, or a place that is reached from it by names of entries. -/
inductive Below (dir : Location) : Location → Prop
  | here : Below dir dir
  | entry {l : Location} {name : Bytes} : Below dir l → PlainName name → Below dir (l.join name)

/-- What is below a place below a directory is below the directory. -/
theorem Below.trans {a b c : Location} (hab : a.Below b) (hbc : b.Below c) : a.Below c := by
  induction hbc with
  | here => exact hab
  | entry _ hname ih => exact ih.entry hname

/-- What is below a directory continues its bytes. -/
theorem Below.isPrefix {dir l : Location} (h : dir.Below l) : dir.bytes <+: l.bytes := by
  induction h with
  | here => exact List.prefix_rfl
  | entry hl hname ih => exact ih.trans (hname.isPrefix_join _)

end Location

/-- The place that a question is about. -/
def DiskQuestion.location : DiskQuestion → Location
  | isDirectory l => l
  | isPresent l => l
  | names l => l
  | content l => l

/-- Two disks answer alike whatever is asked below a directory. -/
def Disk.AgreeBelow (d₁ d₂ : Disk) (dir : Location) : Prop :=
  ∀ q : DiskQuestion, dir.Below q.location → d₁ q = d₂ q

namespace Disk.AgreeBelow

variable {d₁ d₂ : Disk} {dir : Location}

theorem symm (h : d₁.AgreeBelow d₂ dir) : d₂.AgreeBelow d₁ dir := fun q hq => (h q hq).symm

theorem below (h : d₁.AgreeBelow d₂ dir) {l : Location} (hl : dir.Below l) : d₁.AgreeBelow d₂ l :=
  fun q hq => h q (hl.trans hq)

theorem names (h : d₁.AgreeBelow d₂ dir) : d₁.names dir = d₂.names dir := h (.names dir) .here

theorem isDirectory (h : d₁.AgreeBelow d₂ dir) : d₁.isDirectory dir = d₂.isDirectory dir :=
  h (.isDirectory dir) .here

theorem content (h : d₁.AgreeBelow d₂ dir) : d₁.content dir = d₂.content dir :=
  h (.content dir) .here

/-! ### The same directory -/

/-- They list the same entries. -/
theorem entries (h : d₁.AgreeBelow d₂ dir) (hd : d₁.Coherent) : d₁.entries dir = d₂.entries dir := by
  rw [Disk.entries, Disk.entries, ← h.names]
  cases hnames : d₁.names dir with
  | error e => rfl
  | ok names =>
    have hentry : names.map (d₁.entry dir) = names.map (d₂.entry dir) := by
      refine List.map_congr_left fun name hname => ?_
      have hplain := hd.plain hnames name hname
      rw [Disk.entry, Disk.entry, (h.below (Location.Below.here.entry hplain)).isDirectory]
    simp only [Except.map, hentry]

/-- What is listed is below the directory. -/
theorem below_of_mem_files (hd : d₁.Coherent) {e : Entry} (he : e ∈ d₁.files dir) :
    dir.Below e.location := by
  rw [Disk.files, Disk.entries] at he
  cases hnames : d₁.names dir with
  | error e => rw [hnames] at he; cases he
  | ok names =>
    rw [hnames] at he
    have he := (List.mem_filter.1 he).1
    obtain ⟨name, hname, rfl⟩ := List.mem_map.1 (List.mem_mergeSort.1 he)
    exact Location.Below.here.entry (hd.plain hnames name hname)

/-- Every file that is listed has the same content on both. -/
theorem content_of_mem_files (h : d₁.AgreeBelow d₂ dir) (hd : d₁.Coherent) {e : Entry}
    (he : e ∈ d₁.files dir) : d₁.content e.location = d₂.content e.location :=
  (h.below (below_of_mem_files hd he)).content

theorem files (h : d₁.AgreeBelow d₂ dir) (hd : d₁.Coherent) : d₁.files dir = d₂.files dir := by
  rw [Disk.files, Disk.files, h.entries hd]

theorem filesOf (h : d₁.AgreeBelow d₂ dir) (hd : d₁.Coherent) (stem : String) :
    d₁.filesOf dir stem = d₂.filesOf dir stem := by
  rw [Disk.filesOf, Disk.filesOf, h.files hd]

theorem icon? (h : d₁.AgreeBelow d₂ dir) (hd : d₁.Coherent) : d₁.icon? dir = d₂.icon? dir := by
  rw [Disk.icon?, Disk.icon?, h.filesOf hd]

theorem config? (h : d₁.AgreeBelow d₂ dir) (hd : d₁.Coherent) :
    d₁.config? dir = d₂.config? dir := by
  rw [Disk.config?, Disk.config?, ← h.filesOf hd]
  refine congrArg List.getLast? (List.filterMap_congr fun e he => ?_)
  rw [Disk.configIn?, Disk.configIn?, h.content_of_mem_files hd (List.mem_of_mem_filter he)]

theorem manifestEntry? (h : d₁.AgreeBelow d₂ dir) (hd : d₁.Coherent) (stem : String) :
    d₁.manifestEntry? dir stem = d₂.manifestEntry? dir stem := by
  rw [Disk.manifestEntry?, Disk.manifestEntry?, ← h.filesOf hd]
  refine congrArg List.getLast? (List.filterMap_congr fun e he => ?_)
  rw [Disk.textIn?, Disk.textIn?, h.content_of_mem_files hd (List.mem_of_mem_filter he)]

theorem defects (h : d₁.AgreeBelow d₂ dir) (hd : d₁.Coherent) : d₁.defects dir = d₂.defects dir := by
  rw [Disk.defects, Disk.defects, ← h.files hd]
  refine List.filterMap_congr fun e he => ?_
  rw [Disk.defect?, Disk.defect?, h.content_of_mem_files hd he]

/-- As the directory of a version, it says the same. -/
theorem contents (h : d₁.AgreeBelow d₂ dir) (hd : d₁.Coherent) (path : String) :
    d₁.contents dir path = d₂.contents dir path := by
  rw [Disk.contents, Disk.contents, h.config? hd, h.icon? hd, Disk.manifest?, Disk.manifest?,
    Disk.manifest?, Disk.manifest?, Disk.questions, Disk.questions, h.manifestEntry? hd,
    h.manifestEntry? hd, h.defects hd]

/-- As the directory of a template, it says the same. -/
theorem summary (h : d₁.AgreeBelow d₂ dir) (hd : d₁.Coherent) (id : String) :
    d₁.summary dir id = d₂.summary dir id := by
  have hfile : dir.Below (dir.child "config.yml") := .entry .here (by decide)
  have hconfig : d₁.rootConfig dir = d₂.rootConfig dir := by
    rw [Disk.rootConfig, Disk.rootConfig, Disk.configIn?, Disk.configIn?, (h.below hfile).content]
  rw [Disk.summary, Disk.summary, hconfig, h.icon? hd, Disk.versions, Disk.versions, h.entries hd]

end Disk.AgreeBelow

/-- What a coherent disk shows is written as the plain name of one directory, even if the
    name that is shown is no text. -/
theorem Disk.Coherent.plainName_of_shows {d : Disk} {root : Location} {t : String}
    (hd : d.Coherent) (h : d.Shows root t) : Location.PlainName (Text.encode t) := by
  obtain ⟨names, hnames, name, hname, rfl, -, hhidden⟩ := Disk.shows_iff.1 h
  have hplain := hd.plain hnames name hname
  refine Location.plainName_encode ?_ ?_ ?_ ?_
  · exact fun hempty => hplain.1 (Text.decodeLossy_eq_empty.1 hempty)
  · intro hdot
    rw [hdot] at hhidden
    exact absurd hhidden (by decide)
  · intro hdots
    rw [hdots] at hhidden
    exact absurd hhidden (by decide)
  · intro hsep
    exact hplain.2.1 (Text.mem_of_mem_decodeLossy hsep (by decide) (by decide))

/-- A directory that can be listed shows every directory in it under the text that is its name,
    unless that is hidden. -/
theorem Disk.Coherent.shows_of_isDirectory {d : Disk} {dir : Location} {t : String}
    {names : List Bytes} (hd : d.Coherent) (hnames : d.names dir = .ok names)
    (hplain : Location.PlainName (Text.encode t)) (hdir : d.isDirectory (dir.child t) = true)
    (hhidden : ".".toList.isPrefixOf t.toList = false) : d.Shows dir t :=
  Disk.shows_iff.2 ⟨names, hnames, _, hd.listed hnames hplain hdir, Text.decodeLossy_encode t, hdir,
    hhidden⟩

/-- What one of two disks publishes, the other publishes too, if its root can be listed. -/
theorem Disk.AgreeBelow.publishes {d₁ d₂ : Disk} {root : Location} {t : String}
    (h : d₁.AgreeBelow d₂ (root.child t)) (h₁ : d₁.Coherent) (h₂ : d₂.Coherent)
    {names₂ : List Bytes} (hroot : d₂.names root = .ok names₂) (hp : d₁.Publishes root t) :
    d₂.Publishes root t := by
  obtain ⟨hshown, hlist⟩ := hp
  have hplain := h₁.plainName_of_shows hshown
  obtain ⟨-, -, -, -, -, -, hhidden⟩ := Disk.shows_iff.1 hshown
  obtain ⟨below, hbelow⟩ := Disk.exists_entries.1 hlist
  rw [h.names] at hbelow
  -- The name that is shown may be another, but the directory that was read is there.
  have hdir : d₂.isDirectory (root.child t) = true := h₂.listable hbelow
  exact ⟨h₂.shows_of_isDirectory hroot hplain hdir hhidden, Disk.exists_entries.2 ⟨below, hbelow⟩⟩

/-- An identifier is written as the plain name of one directory. -/
theorem plainName_of_isIdentifier {s : String} (h : isIdentifier s = true) :
    Location.PlainName (Text.encode s) := by
  simp only [isIdentifier, Bool.not_eq_true', Bool.or_eq_false_iff, decide_eq_false_iff_not,
    List.any_eq_false, Bool.or_eq_true, decide_eq_true_eq, not_or] at h
  obtain ⟨⟨⟨hempty, hdot⟩, hdots⟩, hchars⟩ := h
  refine Location.plainName_encode ?_ hdot hdots fun hsep => (hchars _ hsep).1.1 rfl
  rintro rfl
  cases hempty

/-- A lookup finds the same before it asks the catalog. -/
theorem Disk.AgreeBelow.run_inquire {d₁ d₂ : Disk} {root : Location} {t : String}
    (h : d₁.AgreeBelow d₂ (root.child t)) (h₁ : d₁.Coherent) (v : String) :
    (Version.inquire root t v).run d₁ = (Version.inquire root t v).run d₂ := by
  rw [Version.run_inquire, Version.run_inquire]
  by_cases hv : isIdentifier v = true
  · -- The directory of the version is below that of the template.
    have hbelow : (root.child t).Below ((root.child t).child v) :=
      .entry .here (plainName_of_isIdentifier hv)
    rw [Contents.run_inquire, Contents.run_inquire, (h.below hbelow).isDirectory, h.isDirectory,
      (h.below hbelow).entries h₁, (h.below hbelow).contents h₁]
  · rw [Bool.not_eq_true] at hv
    rw [if_pos hv, if_pos hv]

/-- **Containment**: of two disks that agree below the directory of a template and whose
    roots can both be listed, walks publish the template alike or not at all, and every
    lookup of a version of it gives the same on both, problems included. What was published
    before, and what else the roots hold, makes no difference. -/
theorem containment {d₁ d₂ : Disk} {root : Location} {t : String} {names₁ names₂ : List Bytes}
    (h₁ : d₁.Coherent) (h₂ : d₂.Coherent) (hroot₁ : d₁.names root = .ok names₁)
    (hroot₂ : d₂.names root = .ok names₂) (h : d₁.AgreeBelow d₂ (root.child t))
    (s₁ s₂ : Snapshot) (now₁ now₂ : Nat) :
    (s₁.next now₁ ((Survey.inquire root).run d₁)).find? t =
        (s₂.next now₂ ((Survey.inquire root).run d₂)).find? t ∧
      ∀ v, ((s₁.next now₁ ((Survey.inquire root).run d₁)).version root t v).run d₁ =
        ((s₂.next now₂ ((Survey.inquire root).run d₂)).version root t v).run d₂ := by
  have hfind : ((Survey.inquire root).run d₁).templates.find? t =
      ((Survey.inquire root).run d₂).templates.find? t := by
    ext s
    rw [Survey.find?_templates, Survey.find?_templates, h.summary h₁]
    constructor
    · rintro ⟨hp, hs⟩
      exact ⟨h.publishes h₁ h₂ hroot₂ hp, hs⟩
    · rintro ⟨hp, hs⟩
      exact ⟨h.symm.publishes h₂ h₁ hroot₁ hp, hs⟩
  refine ⟨hfind, fun v => ?_⟩
  rw [Snapshot.version, Snapshot.version, Interaction.run_bind, Interaction.run_bind,
    h.run_inquire h₁]
  exact congrArg
    (fun parent => ((Version.inquire root t v).run d₂).map (Version.resolve root t v parent)) hfind

/-- The small disk with two more names in its root: a directory that cannot be listed, and a
    file whose name is no text. -/
def Disk.crowded : Disk
  | .isDirectory l => l = .ofString "shelf/broken" || Disk.shelf.isDirectory l
  | .isPresent _ => true
  | .names l =>
    if l = .ofString "shelf" then .ok [Text.encode "mysql", Text.encode "broken", [0xFF]]
    else Disk.shelf.names l
  | .content l => Disk.shelf.content l

/-- The directories of the small disk that can be listed. -/
theorem Disk.mem_of_shelf_names {l : Location} {names : List Bytes}
    (h : Disk.shelf.names l = .ok names) :
    (l, names) ∈ [(Location.ofString "shelf", [Text.encode "mysql"]),
      (.ofString "shelf/mysql", [Text.encode "1", Text.encode "config.yml"]),
      (.ofString "shelf/mysql/1", [Text.encode "catalogIcon.svg"])] := by
  have h : Disk.shelf (.names l) = .ok names := h
  rw [Disk.shelf] at h
  split at h
  · next hl => cases h; simp [hl]
  split at h
  · next hl => cases h; simp [hl]
  split at h
  · next hl => cases h; simp [hl]
  · cases h

theorem Disk.shelf_coherent : Disk.shelf.Coherent :=
  coherent_of_table _ _ (fun _ _ => mem_of_shelf_names) (fun _ h => of_decide_eq_true h) (by decide)

/-- The directories of the crowded disk that can be listed. -/
theorem Disk.mem_of_crowded_names {l : Location} {names : List Bytes}
    (h : Disk.crowded.names l = .ok names) :
    (l, names) ∈ [(Location.ofString "shelf", [Text.encode "mysql", Text.encode "broken", [0xFF]]),
      (.ofString "shelf/mysql", [Text.encode "1", Text.encode "config.yml"]),
      (.ofString "shelf/mysql/1", [Text.encode "catalogIcon.svg"])] := by
  have h : Disk.crowded (.names l) = .ok names := h
  rw [Disk.crowded] at h
  split at h
  · next hl => cases h; simp [hl]
  · next hl =>
    have hshelf := mem_of_shelf_names h
    simp_all

theorem Disk.crowded_coherent : Disk.crowded.Coherent := by
  refine coherent_of_table _ [.ofString "shelf/broken", .ofString "shelf", .ofString "shelf/mysql",
    .ofString "shelf/mysql/1"] (fun _ _ => mem_of_crowded_names) (fun l h => ?_) (by decide)
  have h : (decide (l = .ofString "shelf/broken") || Disk.shelf.isDirectory l) = true := h
  rcases Bool.or_eq_true_iff.1 h with h | h
  · exact List.mem_cons.2 (.inl (of_decide_eq_true h))
  · exact List.mem_cons_of_mem _ (of_decide_eq_true h)

/-- The two disks differ only in the root and in what is beside the template. -/
theorem Disk.shelf_agreeBelow :
    Disk.shelf.AgreeBelow Disk.crowded ((Location.ofString "shelf").child "mysql") := by
  intro q hq
  have hprefix := hq.isPrefix
  cases q with
  | isDirectory l =>
    have hne : l ≠ .ofString "shelf/broken" := by
      rintro rfl
      exact absurd hprefix (by decide)
    show Disk.shelf.isDirectory l =
      (decide (l = .ofString "shelf/broken") || Disk.shelf.isDirectory l)
    rw [decide_eq_false hne, Bool.false_or]
  | isPresent l => rfl
  | names l =>
    have hne : l ≠ .ofString "shelf" := by
      rintro rfl
      exact absurd hprefix (by decide)
    show Disk.shelf (.names l) = Disk.crowded (.names l)
    rw [Disk.crowded, if_neg hne]
  | content l => rfl

/-- Neither the directory that cannot be listed nor the name that is no text makes a
    difference to the template beside them, which is published. -/
theorem containment_crowded :
    Disk.shelf.Publishes (.ofString "shelf") "mysql" ∧
      (Snapshot.empty.next 0 ((Survey.inquire (.ofString "shelf")).run Disk.shelf)).find? "mysql" =
        (Snapshot.empty.next 1 ((Survey.inquire (.ofString "shelf")).run Disk.crowded)).find?
          "mysql" ∧
      ∀ v, ((Snapshot.empty.next 0 ((Survey.inquire (.ofString "shelf")).run Disk.shelf)).version
          (.ofString "shelf") "mysql" v).run Disk.shelf =
        ((Snapshot.empty.next 1 ((Survey.inquire (.ofString "shelf")).run Disk.crowded)).version
          (.ofString "shelf") "mysql" v).run Disk.crowded :=
  ⟨Disk.shelf_publishes, containment Disk.shelf_coherent Disk.crowded_coherent rfl rfl
    Disk.shelf_agreeBelow Snapshot.empty Snapshot.empty 0 1⟩

end TemplateCatalog
