import TemplateCatalog.Proofs.Catalog.Lookup
import TemplateCatalog.Proofs.Text.Utf8

/-!
# What a version inherits

The detail of a version is put together from two directories and a snapshot: from its
own directory, and for what that does not say from the template, as it was published. If
nothing has changed since the walk that was published, this is the same as looking at
both directories (`Version.Direct`):

* the configuration is inherited as a whole or not at all, so a key that the version's
  own configuration does not set is empty, whatever the template says;
* the icon is inherited apart from it;
* what would be inherited from a template that is not published is empty, and told to be
  missing, once.
-/

namespace TemplateCatalog

/-- Name, category, description and default version, as a configuration tells them: what
    it does not say is empty. -/
def Config.told (c : Config) : String × String × String × String :=
  (c.name.getD "", c.category.getD "", c.description.getD "", c.defaultVersion.getD "")

namespace Version

/-- Name, category, description and default version of a detail. -/
def told (v : Version) : String × String × String × String :=
  (v.name, v.category, v.description, v.defaultVersion)

/-- Something would be inherited from a template that is not published: the version has
    no configuration of its own, or no icon. -/
def Orphan (d : Disk) (root : Location) (t v : String) : Prop :=
  ¬ d.Publishes root t ∧
    (d.config? ((root.child t).child v) = none ∨ d.icon? ((root.child t).child v) = none)

/-- A detail, given while a snapshot is published, is a direct reading of a disk. -/
structure Direct (d : Disk) (root : Location) (s : Snapshot) (t v : String) (detail : Version) :
    Prop where
  /-- The template is in the snapshot exactly if the disk publishes it. -/
  published : (s.find? t).isSome = true ↔ d.Publishes root t
  id : detail.id = t ++ "/" ++ v
  path : detail.path = t ++ "/" ++ v
  templateId : detail.templateId = t
  version : detail.version = v
  /-- An own configuration tells all four, and the template tells none of them. -/
  own : ∀ c, d.config? ((root.child t).child v) = some c → detail.told = c.told
  /-- Without one, the file `config.yml` of the template tells them, if it is published. -/
  inherited : d.config? ((root.child t).child v) = none → d.Publishes root t →
    detail.told = (d.rootConfig (root.child t)).told
  /-- And nobody tells them if it is not. -/
  untold : d.config? ((root.child t).child v) = none → ¬ d.Publishes root t →
    detail.told = Config.empty.told
  ownIcon : ∀ name, d.icon? ((root.child t).child v) = some name →
    detail.iconPath = some (t ++ "/" ++ v ++ "/" ++ name)
  inheritedIcon : d.icon? ((root.child t).child v) = none → d.Publishes root t →
    detail.iconPath = (d.icon? (root.child t)).map (t ++ "/" ++ ·)
  noIcon : d.icon? ((root.child t).child v) = none → ¬ d.Publishes root t →
    detail.iconPath = none
  docker : detail.dockerManifest = d.manifest? ((root.child t).child v) "docker-compose"
  orchestration :
    detail.orchestrationManifest = d.manifest? ((root.child t).child v) "rancher-compose"
  /-- A manifest is all that is in a file, byte by byte. -/
  verbatim : ∀ stem text, d.manifest? ((root.child t).child v) stem = some text →
    ∃ e ∈ d.filesOf ((root.child t).child v) stem, d.content e.location = .ok (Text.encode text)
  questions : detail.questions = d.questions ((root.child t).child v)
  /-- The problems are those of the files of the version, and one more if something would be
      inherited from a template that is not there. -/
  orphan : Orphan d root t v → detail.diagnostics = d.problems ((root.child t).child v) ++
    [⟨(root.child t).child v, "parent template '" ++ t ++ "' is not in the published catalog"⟩]
  supplied : ¬ Orphan d root t v → detail.diagnostics = d.problems ((root.child t).child v)

end Version

namespace Disk

/-- What is read as the text of an entry is the content of the entry, byte by byte. -/
theorem content_of_textIn? {d : Disk} {e f : Entry} {text : String}
    (h : d.textIn? e = some (f, text)) : f = e ∧ d.content e.location = .ok (Text.encode text) := by
  unfold textIn? fileText at h
  cases hc : d.content e.location with
  | error error => rw [hc] at h; cases h
  | ok bytes =>
    rw [hc] at h
    dsimp only at h
    cases hb : Text.decode? bytes with
    | none => rw [hb] at h; cases h
    | some s =>
      rw [hb] at h
      cases h
      exact ⟨rfl, by rw [Text.decode?_eq_some.1 hb]⟩

/-- A manifest is all that is in a file of its kind. -/
theorem content_of_manifest? {d : Disk} {dir : Location} {stem text : String}
    (h : d.manifest? dir stem = some text) :
    ∃ e ∈ d.filesOf dir stem, d.content e.location = .ok (Text.encode text) := by
  obtain ⟨⟨f, _⟩, hlast, rfl⟩ := Option.map_eq_some_iff.1 h
  obtain ⟨e, he, htext⟩ := List.mem_filterMap.1 (List.mem_of_getLast? hlast)
  exact ⟨e, he, (content_of_textIn? htext).2⟩

end Disk

namespace Version

section Resolve

variable {d : Disk} {root : Location} {t v : String} {parent : Option Summary}

/-- An own configuration is told, and nothing else. -/
theorem told_resolve_of_config {c : Config} (h : d.config? ((root.child t).child v) = some c) :
    (resolve root t v parent (d.contents ((root.child t).child v) (Contents.pathOf t v))).told =
      c.told := by
  rw [told, resolve, Disk.contents, h]
  rfl

/-- Without one, what the template tells is told. -/
theorem told_resolve_of_none (h : d.config? ((root.child t).child v) = none) :
    (resolve root t v parent (d.contents ((root.child t).child v) (Contents.pathOf t v))).told =
      (Version.inherited parent).told := by
  rw [told, resolve, Disk.contents, h]
  rfl

/-- The icon is the own one, or else that of the template. -/
theorem iconPath_resolve :
    (resolve root t v parent (d.contents ((root.child t).child v) (Contents.pathOf t v))).iconPath =
      ((d.icon? ((root.child t).child v)).map (t ++ "/" ++ v ++ "/" ++ ·)).or
        (parent.bind (·.iconPath)) := rfl

/-- Something is inherited if there is no own configuration, or no own icon. -/
theorem inherits_contents :
    inherits (d.contents ((root.child t).child v) (Contents.pathOf t v)) = true ↔
      d.config? ((root.child t).child v) = none ∨ d.icon? ((root.child t).child v) = none := by
  simp [inherits, Disk.contents]

/-- The problems are those of the files, and that the template is missing if it is asked. -/
theorem diagnostics_resolve :
    (resolve root t v parent
        (d.contents ((root.child t).child v) (Contents.pathOf t v))).diagnostics =
      d.problems ((root.child t).child v) ++
        if inherits (d.contents ((root.child t).child v) (Contents.pathOf t v)) && parent.isNone
        then [missingParent root t v] else [] := rfl

end Resolve

/-- **Inheritance end to end**: after a walk was published and while nothing changes, every
    detail that is given is a direct reading of the disk, whatever was published before; and
    one is given of every version whose directory can be listed. -/
theorem version_direct (d : Disk) (root : Location) (before : Snapshot) (now : Nat)
    (t v : String) :
    (∀ detail, ((before.next now ((Survey.inquire root).run d)).version root t v).run d = .ok detail →
      Direct d root (before.next now ((Survey.inquire root).run d)) t v detail) ∧
    (d.Readable root t v → ∃ detail,
      ((before.next now ((Survey.inquire root).run d)).version root t v).run d = .ok detail) := by
  refine ⟨fun detail h => ?_, fun h => ⟨_, run_version_eq_ok.2 ⟨h, rfl⟩⟩⟩
  obtain ⟨-, rfl⟩ := run_version_eq_ok.1 h
  -- What the lookup finds of the template is what the walk has read of it, or nothing.
  have hsome (hp : d.Publishes root t) :
      (before.next now ((Survey.inquire root).run d)).find? t = some (d.summary (root.child t) t) :=
    Survey.find?_templates.2 ⟨hp, rfl⟩
  have hnone (hp : ¬ d.Publishes root t) :
      (before.next now ((Survey.inquire root).run d)).find? t = none :=
    Survey.find?_templates_eq_none.2 hp
  refine
    { published := ?_
      id := rfl
      path := rfl
      templateId := rfl
      version := rfl
      own := fun c hc => told_resolve_of_config hc
      inherited := fun hc hp => ?_
      untold := fun hc hp => ?_
      ownIcon := fun name hi => ?_
      inheritedIcon := fun hi hp => ?_
      noIcon := fun hi hp => ?_
      docker := rfl
      orchestration := rfl
      verbatim := fun _ _ => Disk.content_of_manifest?
      questions := rfl
      orphan := fun ho => ?_
      supplied := fun ho => ?_ }
  · by_cases hp : d.Publishes root t
    · simp [hsome hp, hp]
    · simp [hnone hp, hp]
  · rw [told_resolve_of_none hc, hsome hp]
    rfl
  · rw [told_resolve_of_none hc, hnone hp]
    rfl
  · rw [iconPath_resolve, hi]
    rfl
  · rw [iconPath_resolve, hi, hsome hp]
    rfl
  · rw [iconPath_resolve, hi, hnone hp]
    rfl
  · rw [diagnostics_resolve, hnone ho.1, inherits_contents.2 ho.2]
    rfl
  · rw [diagnostics_resolve]
    by_cases hp : d.Publishes root t
    · rw [hsome hp, Option.isNone_some, Bool.and_false]
      exact List.append_nil _
    · -- Not published, so it is because nothing is inherited.
      have hi := Bool.eq_false_iff.2 fun hi => ho ⟨hp, inherits_contents.1 hi⟩
      rw [hi, Bool.false_and]
      exact List.append_nil _

/-- On the shelf the version has the name of the template and its own icon. -/
theorem version_direct_shelf :
    ∃ detail : Version,
      ((Snapshot.empty.next 0 ((Survey.inquire (.ofString "shelf")).run Disk.shelf)).version
        (.ofString "shelf") "mysql" "1").run Disk.shelf = .ok detail ∧
      Direct Disk.shelf (.ofString "shelf")
        (Snapshot.empty.next 0 ((Survey.inquire (.ofString "shelf")).run Disk.shelf)) "mysql" "1" detail ∧
      detail.told = ("MySQL", "", "", "") ∧ detail.iconPath = some "mysql/1/catalogIcon.svg" := by
  have hversion : Disk.shelf.entries (((Location.ofString "shelf").child "mysql").child "1") =
      .ok [⟨"catalogIcon.svg", .ofString "shelf/mysql/1/catalogIcon.svg", false⟩] :=
    (Disk.entries_of_names_singleton rfl).trans (congrArg Except.ok (by decide +kernel))
  have hconfig : Disk.shelf.config? (((Location.ofString "shelf").child "mysql").child "1") = none := by
    rw [Disk.config?, Disk.filesOf, Disk.files, hversion]
    decide
  have hicon : Disk.shelf.icon? (((Location.ofString "shelf").child "mysql").child "1") =
      some "catalogIcon.svg" := by
    rw [Disk.icon?, Disk.filesOf, Disk.files, hversion]
    decide
  have hreadable : Disk.shelf.Readable (.ofString "shelf") "mysql" "1" :=
    ⟨by decide, by decide, by decide, _, hversion⟩
  obtain ⟨hdirect, hgiven⟩ :=
    version_direct Disk.shelf (.ofString "shelf") Snapshot.empty 0 "mysql" "1"
  obtain ⟨detail, hrun⟩ := hgiven hreadable
  refine ⟨detail, hrun, hdirect detail hrun, ?_, ?_⟩
  · rw [(hdirect detail hrun).inherited hconfig Disk.shelf_publishes]
    decide +kernel
  · rw [(hdirect detail hrun).ownIcon _ hicon]
    decide

end Version

end TemplateCatalog
