import TemplateCatalog.Catalog.Version
import TemplateCatalog.Proofs.Dictionary
import TemplateCatalog.Proofs.Template.Selection

/-!
# What is published and what is looked up

On a disk that nobody changes, a walk publishes the directories that a look at the disk
would tell are templates (`Disk.Publishes`), each as its directory says; and a lookup asks
for two directories and then tells what the inner one says.

* `Survey.find?_templates`: a template is published exactly if it is shown in the root
  and can be listed, with the summary that its directory says;
* `Version.run_inquire`: what a lookup finds before it asks the catalog.
-/

namespace TemplateCatalog

namespace Disk

variable (d : Disk) (root : Location)

/-- The root shows a directory of this name, which is not hidden. -/
def Shows (t : String) : Prop := ∃ entries, d.entries root = .ok entries ∧ t ∈ Survey.ids entries

/-- The root shows a directory of this name, and the directory of the template can be
    listed. They are the same directory if the name is a text. -/
def Publishes (t : String) : Prop :=
  d.Shows root t ∧ ∃ entries, d.entries (root.child t) = .ok entries

/-- There is a directory of this version, named by identifiers, and it can be listed. -/
def Readable (t v : String) : Prop :=
  isIdentifier t = true ∧ isIdentifier v = true ∧
    d.isDirectory ((root.child t).child v) = true ∧
    ∃ entries, d.entries ((root.child t).child v) = .ok entries

variable {d root}

/-- The root shows a text if one of its names is shown as it, for a directory, and the text
    does not begin with a dot. -/
theorem shows_iff {t : String} :
    d.Shows root t ↔ ∃ names, d.names root = .ok names ∧ ∃ name ∈ names,
      Text.decodeLossy name = t ∧ d.isDirectory (root.join name) = true ∧
        ".".toList.isPrefixOf t.toList = false := by
  rw [Shows, entries]
  cases d.names root with
  | error e => simp [Except.map]
  | ok names =>
    simp only [Except.map, Except.ok.injEq, exists_eq_left', Survey.ids, List.mem_map,
      List.mem_filter, Entry.sorted, List.mem_mergeSort, Bool.and_eq_true, Bool.not_eq_true']
    constructor
    · rintro ⟨e, ⟨⟨name, hname, rfl⟩, hhidden, hdir⟩, rfl⟩
      exact ⟨name, hname, rfl, hdir, hhidden⟩
    · rintro ⟨name, hname, rfl, hdir, hhidden⟩
      exact ⟨d.entry root name, ⟨⟨name, hname, rfl⟩, hhidden, hdir⟩, rfl⟩

end Disk

namespace Survey

variable (d : Disk) (root : Location)

/-- What a walk finds: what each directory that the root shows comes to. -/
theorem run_inquire :
    (inquire root).run d =
      ⟨root, (d.entries root).map fun entries =>
        (ids entries).map fun id => (id, (Summary.inquire root id).run d)⟩ := by
  rw [inquire, Interaction.run_bind, Entry.run_listOf]
  cases d.entries root with
  | error e => rfl
  | ok entries => simp [Except.map]

variable {d root}

/-- What a walk finds of a name is what its directory comes to, if the root shows it. -/
theorem mem_found {t : String} {r : Except Failure (Annotated Summary)} :
    (t, r) ∈ ((inquire root).run d).found ↔
      d.Shows root t ∧ r = (Summary.inquire root t).run d := by
  rw [run_inquire, found, Disk.Shows]
  cases d.entries root with
  | error e => simp [Except.map]
  | ok entries =>
    simp only [Except.map, List.mem_map, Prod.mk.injEq, Except.ok.injEq, exists_eq_left']
    constructor
    · rintro ⟨id, hid, rfl, rfl⟩
      exact ⟨hid, rfl⟩
    · rintro ⟨hid, rfl⟩
      exact ⟨t, hid, rfl, rfl⟩

/-- The directory of a template comes to a summary if it can be listed. -/
theorem summary_eq_ok {t : String} {s : Summary} :
    ((Summary.inquire root t).run d).map (·.value) = .ok s ↔
      (∃ entries, d.entries (root.child t) = .ok entries) ∧ s = d.summary (root.child t) t := by
  rw [Summary.run_inquire]
  cases d.entries (root.child t) with
  | error e => simp
  | ok entries => simp [eq_comm]

/-- What a walk publishes under a name. -/
theorem mem_templates {t : String} {s : Summary} :
    (t, s) ∈ ((inquire root).run d).found.filterMap template? ↔
      d.Publishes root t ∧ s = d.summary (root.child t) t := by
  rw [Disk.Publishes, and_assoc, ← summary_eq_ok, List.mem_filterMap]
  constructor
  · rintro ⟨⟨id, r⟩, hfound, htemplate⟩
    cases r with
    | error f => cases htemplate
    | ok a =>
      cases htemplate
      obtain ⟨hshown, hr⟩ := mem_found.1 hfound
      exact ⟨hshown, by rw [← hr]; rfl⟩
  · rintro ⟨hshown, hs⟩
    cases hr : (Summary.inquire root t).run d with
    | error f => rw [hr] at hs; cases hs
    | ok a =>
      rw [hr] at hs
      cases hs
      exact ⟨(t, .ok a), mem_found.2 ⟨hshown, hr.symm⟩, rfl⟩

/-- A template is published exactly if the root shows it and its directory can be listed,
    and then as its directory says, however many names are shown alike. -/
theorem find?_templates {t : String} {s : Summary} :
    ((inquire root).run d).templates.find? t = some s ↔
      d.Publishes root t ∧ s = d.summary (root.child t) t := by
  rw [templates, Dictionary.find?_ofList_iff fun v w hv hw => ?_]
  · exact mem_templates
  · rw [(mem_templates.1 hv).2, (mem_templates.1 hw).2]

/-- A template is missing exactly if it is not published. -/
theorem find?_templates_eq_none {t : String} :
    ((inquire root).run d).templates.find? t = none ↔ ¬ d.Publishes root t := by
  rw [Option.eq_none_iff_forall_ne_some]
  constructor
  · intro h hp
    exact h _ (find?_templates.2 ⟨hp, rfl⟩)
  · intro h s hs
    exact h (find?_templates.1 hs).1

end Survey

namespace Version

/-- What a lookup finds before it asks the catalog: the directory of the version as it
    says, or else the first reason why there is none. -/
theorem run_inquire (d : Disk) (root : Location) (t v : String) :
    (inquire root t v).run d =
      if isIdentifier t = false then .error (.ofError (.invalidIdentifier t))
      else if isIdentifier v = false then .error (.ofError (.invalidIdentifier v))
      else if d.isDirectory ((root.child t).child v) then (Contents.inquire root t v).run d
      else if d.isDirectory (root.child t) then .error (.ofError (.versionNotFound t v))
      else .error (.ofError (.templateNotFound t)) := by
  -- What the directory questions come to, so that each choice is made on the disk.
  have hasks (l : Location) : (Inquiry.isDirectory l).run d = d.isDirectory l := rfl
  rw [inquire]
  cases isIdentifier t with
  | false => rfl
  | true =>
    cases isIdentifier v with
    | false => rfl
    | true =>
      simp only [Bool.not_true, Bool.false_eq_true, Bool.true_eq_false, if_false,
        Interaction.run_bind, hasks]
      split
      · rfl
      · rw [Interaction.run_bind, hasks]
        split <;> rfl

/-- A lookup gives a detail exactly if the directory of the version can be listed, and then
    the detail of the contents that the directory says. -/
theorem run_version_eq_ok {d : Disk} {root : Location} {s : Snapshot} {t v : String}
    {detail : Version} :
    (s.version root t v).run d = .ok detail ↔
      d.Readable root t v ∧ detail = resolve root t v (s.find? t)
        (d.contents ((root.child t).child v) (Contents.pathOf t v)) := by
  rw [Snapshot.version, Interaction.run_bind, run_inquire, Contents.run_inquire]
  constructor
  · intro h
    split at h
    · cases h
    split at h
    · cases h
    split at h
    · next ht hv hdir =>
      rw [Bool.not_eq_false] at ht hv
      cases hlist : d.entries ((root.child t).child v) with
      | error e => rw [hlist] at h; cases h
      | ok entries =>
        rw [hlist] at h
        cases h
        exact ⟨⟨ht, hv, hdir, entries, hlist⟩, rfl⟩
    split at h <;> cases h
  · rintro ⟨⟨ht, hv, hdir, entries, hlist⟩, rfl⟩
    rw [ht, hv, hdir, hlist]
    rfl

end Version

/-! ## Small disks -/

/-- A disk with nothing on it. -/
def Disk.bare : Disk
  | .names _ => .error .notFound
  | .content _ => .error .notFound
  | .isDirectory _ => false
  | .isPresent _ => false

/-- A disk with one template, whose configuration gives it a name, and one version, which
    has an icon and no configuration. -/
def Disk.shelf : Disk
  | .isDirectory l =>
    l ∈ [.ofString "shelf", .ofString "shelf/mysql", .ofString "shelf/mysql/1"]
  | .isPresent _ => true
  | .names l =>
    if l = .ofString "shelf" then .ok [Text.encode "mysql"]
    else if l = .ofString "shelf/mysql" then .ok [Text.encode "1", Text.encode "config.yml"]
    else if l = .ofString "shelf/mysql/1" then .ok [Text.encode "catalogIcon.svg"]
    else .error .notDirectory
  | .content l =>
    if l = .ofString "shelf/mysql/config.yml" then .ok (Text.encode "name: MySQL")
    else if l = .ofString "shelf/mysql/1/catalogIcon.svg" then .ok []
    else .error .isDirectory

theorem Disk.shelf_publishes : Disk.shelf.Publishes (.ofString "shelf") "mysql" :=
  ⟨shows_iff.2 ⟨_, rfl, Text.encode "mysql", List.mem_singleton_self _, by decide +kernel, by decide,
    by decide⟩, exists_entries.2 ⟨_, rfl⟩⟩

end TemplateCatalog
