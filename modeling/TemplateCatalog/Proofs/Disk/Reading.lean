import TemplateCatalog.Template.Contents
import TemplateCatalog.Template.Listing

/-!
# What a directory says

The contents of a directory as one would tell them by looking at it: which files begin
with which stem, and the last of them that can be read. Nothing here follows the order
in which things are asked, or remembers what was found so far; that the inquiries come
to the same is proved with the selection of parts.

* `Disk.contents`: the directory of a version, told in full;
* `Disk.summary`: the directory of a template, told in full;
* `run_listOf`: the entries that an inquiry finds are those of the directory.
-/

namespace TemplateCatalog

namespace Disk

section Reading

variable (d : Disk)

/-- The entry of a name in a directory. -/
def entry (dir : Location) (name : Bytes) : Entry :=
  ⟨Text.decodeLossy name, dir.join name, d.isDirectory (dir.join name)⟩

/-- The entries of a directory, in ascending order of their names. -/
def entries (dir : Location) : Except DiskError (List Entry) :=
  (d.names dir).map fun names => Entry.sorted (names.map (d.entry dir))

/-- The entries of a directory that are none themselves; nothing if it cannot be listed. -/
def files (dir : Location) : List Entry :=
  ((d.entries dir).toOption.getD []).filter fun e => !e.isDirectory

/-- The files whose names begin with a text. -/
def filesOf (dir : Location) (stem : String) : List Entry :=
  (d.files dir).filter fun e => e.begins stem

/-- The configuration in a file, if there is one. -/
def configIn? (file : Location) : Option Config :=
  (Config.ofFile file (d.content file)).toOption

/-- The text of an entry, with the entry, if it has one. -/
def textIn? (e : Entry) : Option (Entry × String) :=
  (fileText (d.content e.location)).toOption.map (e, ·)

/-- The configuration that a directory carries in the manner of a version: that of the
    last file of its kind that holds one. -/
def config? (dir : Location) : Option Config :=
  ((d.filesOf dir "config.yml").filterMap fun e => d.configIn? e.location).getLast?

/-- The configuration that a directory carries in the manner of a template: in the one
    file of that name, and empty unless that file holds one. -/
def rootConfig (dir : Location) : Config := (d.configIn? (dir.child "config.yml")).getD .empty

/-- The name of the icon in a directory: the last of its kind. -/
def icon? (dir : Location) : Option String :=
  (d.filesOf dir "catalogIcon").getLast?.map (·.name)

/-- The last manifest of a kind that is a text, with the file that it is in. -/
def manifestEntry? (dir : Location) (stem : String) : Option (Entry × String) :=
  ((d.filesOf dir stem).filterMap d.textIn?).getLast?

/-- The last manifest of a kind that is a text. -/
def manifest? (dir : Location) (stem : String) : Option String :=
  (d.manifestEntry? dir stem).map (·.2)

/-- The questions in the orchestration manifest; none if it does not hold any. -/
def questions (dir : Location) : List Question :=
  match d.manifestEntry? dir "rancher-compose" with
  | some (e, text) => (Question.listOfText e.name text).toOption.getD []
  | none => []

/-- What is wrong with a file of a version. -/
def defect? (e : Entry) : Option Defect :=
  if e.begins "config.yml" then
    match Config.ofFile e.location (d.content e.location) with
    | .error f => some (.configuration f)
    | .ok _ => none
  else if e.begins "docker-compose" then
    match fileText (d.content e.location) with
    | .error error => some (.manifest error)
    | .ok _ => none
  else if e.begins "rancher-compose" then
    match fileText (d.content e.location) with
    | .error error => some (.manifest error)
    | .ok text =>
      match Question.listOfText e.name text with
      | .error f => some (.questions f)
      | .ok _ => none
  else none

/-- What is wrong with the files in a directory, in the order of their names. -/
def defects (dir : Location) : List (Location × Defect) :=
  (d.files dir).filterMap fun e => (d.defect? e).map (e.location, ·)

/-- The same as it is told. -/
def problems (dir : Location) : List Diagnostic := (d.defects dir).map fun p => ⟨p.1, p.2.text⟩

/-- The directory of a version, told in full, where `path` leads to it. -/
def contents (dir : Location) (path : String) : Contents :=
  ⟨d.config? dir, (d.icon? dir).map (path ++ "/" ++ ·), d.manifest? dir "docker-compose",
    d.manifest? dir "rancher-compose", d.questions dir, d.defects dir⟩

/-- The versions in the directory of a template, each with its path. -/
def versions (dir : Location) (id : String) : Dictionary String :=
  .ofList (((d.entries dir).toOption.getD []).filterMap fun e =>
    if e.isDirectory && !e.isHidden then some (e.name, id ++ "/" ++ e.name) else none)

/-- The directory of a template, told in full. -/
def summary (dir : Location) (id : String) : Summary :=
  { id
    path := id
    name := (d.rootConfig dir).name.getD ""
    category := (d.rootConfig dir).category.getD ""
    description := (d.rootConfig dir).description.getD ""
    defaultVersion := (d.rootConfig dir).defaultVersion.getD ""
    iconPath := (d.icon? dir).map (id ++ "/" ++ ·)
    versionLinks := d.versions dir id }

end Reading

/-- A directory can be listed exactly if its names can be told. -/
theorem exists_entries {d : Disk} {dir : Location} :
    (∃ entries, d.entries dir = .ok entries) ↔ ∃ names, d.names dir = .ok names := by
  rw [entries]
  cases d.names dir with
  | error e => simp [Except.map]
  | ok names => simp [Except.map]

/-- The entries of a directory with one name. -/
theorem entries_of_names_singleton {d : Disk} {dir : Location} {name : Bytes}
    (h : d.names dir = .ok [name]) : d.entries dir = .ok [d.entry dir name] := by
  rw [entries, h]
  exact congrArg Except.ok (List.mergeSort_singleton _)

end Disk

namespace Entry

/-- The entries that an inquiry finds are those of the directory. -/
@[simp] theorem run_listOf (d : Disk) (dir : Location) : (listOf dir).run d = d.entries dir := by
  rw [listOf, Interaction.run_bind]
  have hnames : (Inquiry.names dir).run d = d.names dir := rfl
  rw [hnames, Disk.entries]
  cases d.names dir with
  | error e => rfl
  | ok names =>
    simp only [Interaction.run_bind, Interaction.run_each]
    rfl

/-! ## Kinds of files

The stems of the four kinds exclude each other, so the order in which they are tried
does not matter. -/

/-- A name does not begin with two texts of which neither begins with the other. -/
theorem not_begins {e : Entry} {s t : String} (h : e.begins s = true)
    (hst : s.toList.isPrefixOf t.toList = false) (hts : t.toList.isPrefixOf s.toList = false) :
    e.begins t = false := by
  rw [begins, List.isPrefixOf_iff_prefix] at h
  refine Bool.eq_false_iff.2 fun h' => ?_
  rw [begins, List.isPrefixOf_iff_prefix] at h'
  rcases List.prefix_or_prefix_of_prefix h h' with hp | hp
  · rw [List.isPrefixOf_iff_prefix.2 hp] at hst
    cases hst
  · rw [List.isPrefixOf_iff_prefix.2 hp] at hts
    cases hts

end Entry

namespace Role

/-- The text that the names of a kind of files begin with. -/
def stem? : Role → Option String
  | configuration => some "config.yml"
  | icon => some "catalogIcon"
  | deployment => some "docker-compose"
  | orchestration => some "rancher-compose"
  | none => Option.none

end Role

/-- An entry is of a kind exactly if its name begins with the stem of that kind. -/
theorem Entry.role_eq_iff {e : Entry} {r : Role} {stem : String} (h : r.stem? = some stem) :
    e.role = r ↔ e.begins stem = true := by
  constructor
  · rintro rfl
    unfold Entry.role at h
    split at h
    · cases h; assumption
    split at h
    · cases h; assumption
    split at h
    · cases h; assumption
    split at h
    · cases h; assumption
    · cases h
  · -- The stems begin differently, so a name that begins with one begins with no other.
    intro hb
    cases r with
    | configuration => cases h; simp [Entry.role, hb]
    | icon =>
      cases h
      simp [Entry.role, hb, Entry.not_begins (t := "config.yml") hb (by decide) (by decide)]
    | deployment =>
      cases h
      simp [Entry.role, hb, Entry.not_begins (t := "config.yml") hb (by decide) (by decide),
        Entry.not_begins (t := "catalogIcon") hb (by decide) (by decide)]
    | orchestration =>
      cases h
      simp [Entry.role, hb, Entry.not_begins (t := "config.yml") hb (by decide) (by decide),
        Entry.not_begins (t := "catalogIcon") hb (by decide) (by decide),
        Entry.not_begins (t := "docker-compose") hb (by decide) (by decide)]
    | none => cases h

/-- Whether the name of an entry begins with the stem of a kind. -/
theorem Entry.begins_eq {e : Entry} {r : Role} {stem : String} (h : r.stem? = some stem) :
    e.begins stem = decide (e.role = r) :=
  Bool.eq_iff_iff.2 ((Entry.role_eq_iff h).symm.trans decide_eq_true_iff.symm)

end TemplateCatalog
