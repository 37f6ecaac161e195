import TemplateCatalog.Proofs.Catalog.Containment
import TemplateCatalog.Proofs.Catalog.Verdict
import TemplateCatalog.Proofs.Catalog.WellFormed
import TemplateCatalog.Proofs.Template.Wording

/-!
# What is advertised and what can be fetched

A catalog *advertises* the versions that it lists with its templates, each with a path. A
version is *fetched* by a lookup, which goes to the disk by the two names and does not ask
whether they are advertised. While nothing changes after a walk, the two mostly agree:

* `advertised_fetched`: what is advertised can be fetched, unless a name holds a backslash,
  which no identifier does, or the directory is not there under the name that is shown, or it
  cannot be listed. A name that is a text is there as it is shown; one that is none is shown
  with replacement characters, and there may be nothing of that name;
* `fetched_advertised_iff`: what can be fetched is advertised exactly if neither name is hidden.
  A walk passes over hidden directories, but a lookup finds them (`hidden_fetched`).
-/

namespace TemplateCatalog

/-- A version of a template is listed, with a path. -/
def Snapshot.Advertises (s : Snapshot) (t v path : String) : Prop :=
  ∃ summary ∈ s.list, summary.id = t ∧ (v, path) ∈ summary.versionLinks.entries

instance : DecidablePred Hidden := fun name =>
  inferInstanceAs (Decidable (".".toList <+: name.toList))

theorem not_hidden_iff {name : String} :
    ¬ Hidden name ↔ ".".toList.isPrefixOf name.toList = false := by
  rw [Hidden, ← List.isPrefixOf_iff_prefix, Bool.not_eq_true]

namespace Disk

variable {d : Disk} {dir root : Location} {t v : String}

/-- The versions of a template are what its directory shows. -/
theorem mem_versions {id path : String} :
    (v, path) ∈ (d.versions dir id).entries ↔ d.Shows dir v ∧ path = id ++ "/" ++ v := by
  have hshown (p : String) :
      (v, p) ∈ ((d.entries dir).toOption.getD []).filterMap (Summary.newVersion id) ↔
        d.Shows dir v ∧ p = id ++ "/" ++ v := by
    simp only [Shows, Survey.ids, List.mem_filterMap, List.mem_map, List.mem_filter,
      Summary.newVersion_eq_some, Bool.and_eq_true, Bool.not_eq_true']
    cases d.entries dir with
    | error e => simp [Except.toOption]
    | ok entries =>
      simp only [Except.toOption, Option.getD_some, Except.ok.injEq, exists_eq_left']
      constructor
      · rintro ⟨e, he, ⟨hdir, hhidden⟩, hname, hpath⟩
        exact ⟨⟨e, ⟨he, hhidden, hdir⟩, hname⟩, hpath⟩
      · rintro ⟨⟨e, ⟨he, hhidden, hdir⟩, hname⟩, hpath⟩
        exact ⟨e, he, ⟨hdir, hhidden⟩, hname, hpath⟩
  rw [Dictionary.mem_entries_iff]
  refine (Dictionary.find?_ofList_iff fun p p' hp hp' => ?_).trans (hshown path)
  -- Directories that are shown alike have one path.
  exact ((hshown p).1 hp).2.trans ((hshown p').1 hp').2.symm

/-- A template that shows a version is published. -/
theorem Shows.publishes (htemplate : d.Shows root t) (hversion : d.Shows (root.child t) v) :
    d.Publishes root t := by
  obtain ⟨entries, hentries, -⟩ := hversion
  exact ⟨htemplate, entries, hentries⟩

/-- After a walk, those versions are advertised that the directories of shown templates show. -/
theorem advertises_iff {before : Snapshot} {now : Nat} {path : String} :
    (before.next now ((Survey.inquire root).run d)).Advertises t v path ↔
      d.Shows root t ∧ d.Shows (root.child t) v ∧ path = t ++ "/" ++ v := by
  rw [Snapshot.Advertises]
  constructor
  · rintro ⟨summary, hlist, rfl, hversion⟩
    obtain ⟨⟨key, _⟩, hentry, rfl⟩ := List.mem_map.1 hlist
    obtain ⟨hpublishes, rfl⟩ := Survey.find?_templates.1 (Dictionary.mem_entries_iff.1 hentry)
    exact ⟨hpublishes.1, mem_versions.1 hversion⟩
  · rintro ⟨htemplate, hversion, hpath⟩
    have hfind := Survey.find?_templates.2 ⟨htemplate.publishes hversion, rfl⟩
    exact ⟨_, List.mem_map.2 ⟨_, Dictionary.mem_entries_iff.2 hfind, rfl⟩, rfl,
      mem_versions.2 ⟨hversion, hpath⟩⟩

/-- What is shown is not hidden. -/
theorem Shows.not_hidden (h : d.Shows dir t) : ¬ Hidden t := by
  obtain ⟨-, -, -, -, -, -, hhidden⟩ := shows_iff.1 h
  exact not_hidden_iff.2 hhidden

/-- What is shown is an identifier, unless it holds a backslash. -/
theorem Shows.namesOne_iff (h : d.Shows dir t) (hd : d.Coherent) (ha : d.Anchored) :
    NamesOne t ↔ '\\' ∉ t.toList := by
  refine ⟨fun h => h.2.2.2.2.1, fun hback => ?_⟩
  have hplain := hd.plainName_of_shows h
  refine ⟨?_, ?_, ?_, ?_, hback, ?_⟩
  · rintro rfl
    exact hplain.1 (by decide)
  · rintro rfl
    exact hplain.2.2.1 (by decide)
  · rintro rfl
    exact hplain.2.2.2 (by decide)
  · exact fun hsep => hplain.2.1 (List.mem_flatMap.2 ⟨'/', hsep, by decide⟩)
  · intro hnul
    -- The directory that is shown stands at a location without this byte.
    obtain ⟨names, hnames, name, hname, rfl, hdir, -⟩ := shows_iff.1 h
    have hmem : 0 ∈ name := Text.mem_of_mem_decodeLossy hnul (by decide) (by decide)
    exact ha.named hdir (((hd.plain hnames name hname).isSuffix_join dir).subset hmem)

/-- What is shown without a replacement character is a directory under that name. -/
theorem Shows.isDirectory (h : d.Shows dir t) (ht : '\uFFFD' ∉ t.toList) :
    d.isDirectory (dir.child t) = true := by
  obtain ⟨-, -, name, -, rfl, hdir, -⟩ := shows_iff.1 h
  rwa [Location.child, Text.encode_decodeLossy ht]

/-- A directory that can be listed is fetched as a version, if the names are identifiers. -/
theorem Coherent.fetches (hd : d.Coherent) {s : Snapshot} (ht : isIdentifier t = true)
    (hv : isIdentifier v = true) {names : List Bytes}
    (hlist : d.names ((root.child t).child v) = .ok names) :
    ∃ detail, (s.version root t v).run d = .ok detail :=
  ⟨_, Version.run_version_eq_ok.2
    ⟨⟨ht, hv, hd.listable hlist, exists_entries.2 ⟨names, hlist⟩⟩, rfl⟩⟩

/-- No problem of the files of a version is that its template is missing. -/
theorem missingParent_not_mem_problems (hread : d.Readable root t v) :
    Version.missingParent root t v ∉ d.problems ((root.child t).child v) := by
  obtain ⟨-, -, -, entries, hentries⟩ := hread
  obtain ⟨told, htold, -⟩ := Interaction.exists_comesTo_run d (Contents.inquire root t v)
  rw [Contents.run_inquire, hentries] at htold
  exact Contents.missingParent_not_mem htold

end Disk

/-! ## A tree with all kinds of names -/

/-- A directory of an otherwise unchanged disk that cannot be listed. -/
def Disk.lock (d : Disk) (locked : Location) : Disk
  | .names l => if l = locked then .error .notDirectory else d.names l
  | .isDirectory l => d.isDirectory l
  | .isPresent l => d.isPresent l
  | .content l => d.content l

namespace Disk

variable {d : Disk} {locked : Location}

theorem lock_names_eq_ok {l : Location} {names : List Bytes} :
    (d.lock locked).names l = .ok names ↔ l ≠ locked ∧ d.names l = .ok names := by
  show (if l = locked then _ else _) = _ ↔ _
  split
  · next h => simp [h]
  · next h => simp [h]

/-- The other answers still belong together. -/
theorem Coherent.lock (hd : d.Coherent) : (d.lock locked).Coherent where
  plain h := hd.plain (lock_names_eq_ok.1 h).2
  listable h := hd.listable (lock_names_eq_ok.1 h).2
  listed h hname hdir := hd.listed (lock_names_eq_ok.1 h).2 hname hdir

theorem Anchored.lock (ha : d.Anchored) : (d.lock locked).Anchored where
  nested hl hname h := ha.nested hl hname h
  named h := ha.named h

end Disk

/-- One template with five versions: one whose name is no text, one with a backslash in its
    name, a hidden one, one with a name like any other, and one for the lock. Beside it there
    is a hidden directory. -/
def Volume.attic : Volume :=
  ⟨.directory [(Text.encode "attic", .directory
    [(Text.encode ".git", .directory [(Text.encode "hooks", .empty)]),
      (Text.encode "mysql", .directory
        [([0xFF], .empty), (Text.encode "a\\b", .empty), (Text.encode ".draft", .empty),
          (Text.encode "1", .empty), (Text.encode "locked", .empty)])])], []⟩

theorem Volume.attic_coherent : attic.disk.Coherent :=
  coherent (by simp [attic, Tree.WellNamed, Tree.WellNamedEntries, Tree.empty]; decide)

/-- What its directories list. -/
theorem Volume.attic_names {l : Location} {entries : List (Bytes × Tree)} (hl : Straight l)
    (h : attic.root.get? l.steps = some (.directory entries)) :
    attic.disk.names l = .ok (entries.map (·.1)) :=
  names_of_get (get_of_straight hl h fun target heq => by cases heq)

/-- Whether its directory is hidden or not, a version can be fetched. -/
theorem Volume.attic_fetches {s : Snapshot} {t v : String}
    (h : (t, v) ∈ [("mysql", "1"), ("mysql", ".draft"), (".git", "hooks")]) :
    ∃ detail, (s.version (.ofString "attic") t v).run attic.disk = .ok detail := by
  simp only [List.mem_cons, List.not_mem_nil, or_false, Prod.mk.injEq] at h
  rcases h with ⟨rfl, rfl⟩ | ⟨rfl, rfl⟩ | ⟨rfl, rfl⟩
  all_goals exact attic_coherent.fetches (by decide) (by decide) (attic_names (by decide) rfl)

/-- The tree with the lock. -/
def Disk.attic : Disk :=
  Volume.attic.disk.lock (((Location.ofString "attic").child "mysql").child "locked")

namespace Disk

theorem attic_coherent : attic.Coherent := Volume.attic_coherent.lock

theorem attic_anchored : attic.Anchored := (Volume.anchored Volume.attic).lock

/-- What the directories list that are not locked. -/
theorem attic_names {l : Location} {entries : List (Bytes × Tree)} (hl : Volume.Straight l)
    (h : Volume.attic.root.get? l.steps = some (.directory entries))
    (hne : l ≠ ((Location.ofString "attic").child "mysql").child "locked") :
    attic.names l = .ok (entries.map (·.1)) :=
  lock_names_eq_ok.2 ⟨hne, Volume.attic_names hl h⟩

/-- There are the same directories as without the lock. -/
theorem attic_isDirectory {l : Location} {entries : List (Bytes × Tree)} (hl : Volume.Straight l)
    (h : Volume.attic.root.get? l.steps = some (.directory entries)) : attic.isDirectory l = true :=
  Volume.attic_coherent.listable (Volume.attic_names hl h)

theorem attic_shows_template : attic.Shows (.ofString "attic") "mysql" :=
  attic_coherent.shows_of_isDirectory (attic_names (by decide) rfl (by decide)) (by decide)
    (attic_isDirectory (by decide) rfl) (by decide)

/-- All versions are shown but the hidden one. -/
theorem attic_shows {v : String} (hv : v ∈ ["\uFFFD", "a\\b", "1", "locked"]) :
    attic.Shows ((Location.ofString "attic").child "mysql") v := by
  have hlist : attic.names ((Location.ofString "attic").child "mysql") = .ok _ :=
    attic_names (by decide) rfl (by decide)
  simp only [List.mem_cons, List.not_mem_nil, or_false] at hv
  rcases hv with rfl | rfl | rfl | rfl
  · -- The first is shown as a text that is not its name.
    exact shows_iff.2 ⟨_, hlist, [0xFF], by decide, by decide +kernel,
      attic_isDirectory (by decide) rfl, by decide⟩
  all_goals
    exact attic_coherent.shows_of_isDirectory hlist (by decide)
      (attic_isDirectory (by decide) rfl) (by decide)

end Disk

namespace Version

/-- What comes of fetching a version that is advertised with a path. -/
structure Fetched (d : Disk) (root : Location) (t v path : String) (r : Except Failure Version) :
    Prop where
  /-- It is given exactly if both names are identifiers and a directory of this very name can
      be listed. -/
  given : (∃ detail, r = .ok detail) ↔ '\\' ∉ t.toList ∧ '\\' ∉ v.toList ∧
    ∃ names, d.names ((root.child t).child v) = .ok names
  /-- There is a directory of this name, if it is shown without a replacement character. -/
  there : '\uFFFD' ∉ v.toList → d.isDirectory ((root.child t).child v) = true
  /-- Its path is the one that is advertised. -/
  path : ∀ detail, r = .ok detail → detail.path = path
  /-- Its template is not missing, and its problems are those of its files. -/
  supplied : ∀ detail, r = .ok detail → missingParent root t v ∉ detail.diagnostics ∧
    detail.diagnostics = d.problems ((root.child t).child v)
  /-- A name with a backslash is refused, that of the template first. -/
  refused : '\\' ∈ t.toList → r = .error (.ofError (.invalidIdentifier t))
  refusedLabel : '\\' ∉ t.toList → '\\' ∈ v.toList → r = .error (.ofError (.invalidIdentifier v))

/-- A lookup fails as the inquiry does that it begins with. -/
theorem run_version_eq_error {d : Disk} {root : Location} {s : Snapshot} {t v : String}
    {f : Failure} (h : (inquire root t v).run d = .error f) :
    (s.version root t v).run d = .error f := by
  rw [Snapshot.version, Interaction.run_bind, h]
  rfl

/-- **Advertised versions**: after a walk and while nothing changes, every version that is
    advertised can be fetched, with the path that is advertised and without a word of a missing
    template, if its names are identifiers and its directory is there under the name that is
    shown, and can be listed. -/
theorem advertised_fetched {d : Disk} (hd : d.Coherent) (ha : d.Anchored) (root : Location)
    (before : Snapshot) (now : Nat) (t v path : String)
    (h : (before.next now ((Survey.inquire root).run d)).Advertises t v path) :
    Fetched d root t v path
      (((before.next now ((Survey.inquire root).run d)).version root t v).run d) := by
  obtain ⟨htemplate, hversion, rfl⟩ := Disk.advertises_iff.1 h
  have hfind : (before.next now ((Survey.inquire root).run d)).find? t =
      some (d.summary (root.child t) t) :=
    Survey.find?_templates.2 ⟨htemplate.publishes hversion, rfl⟩
  -- A name that is shown names one component, so only a backslash can make it invalid.
  have hnames {s : String} {dir : Location} (hs : d.Shows dir s) :
      isIdentifier s = true ↔ '\\' ∉ s.toList := isIdentifier_iff.trans (hs.namesOne_iff hd ha)
  refine
    { given := ?_
      there := hversion.isDirectory
      path := fun detail hdetail => ?_
      supplied := fun detail hdetail => ?_
      refused := fun hback => ?_
      refusedLabel := fun ht hback => ?_ }
  · rw [← hnames htemplate, ← hnames hversion]
    constructor
    · rintro ⟨detail, hdetail⟩
      obtain ⟨⟨ht, hv, -, hentries⟩, -⟩ := run_version_eq_ok.1 hdetail
      exact ⟨ht, hv, Disk.exists_entries.1 hentries⟩
    · rintro ⟨ht, hv, names, hlist⟩
      exact hd.fetches ht hv hlist
  · obtain ⟨-, rfl⟩ := run_version_eq_ok.1 hdetail
    rfl
  · obtain ⟨hread, rfl⟩ := run_version_eq_ok.1 hdetail
    have hproblems : (resolve root t v
        ((before.next now ((Survey.inquire root).run d)).find? t)
        (d.contents ((root.child t).child v) (Contents.pathOf t v))).diagnostics =
        d.problems ((root.child t).child v) := by
      rw [hfind, resolve, Option.isNone_some, Bool.and_false]
      exact List.append_nil _
    rw [hproblems]
    exact ⟨Disk.missingParent_not_mem_problems hread, rfl⟩
  · refine run_version_eq_error ?_
    rw [run_inquire, if_pos (Bool.eq_false_iff.2 fun ht => (hnames htemplate).1 ht hback)]
  · refine run_version_eq_error ?_
    have hv : isIdentifier v = false := Bool.eq_false_iff.2 fun hv => (hnames hversion).1 hv hback
    rw [run_inquire, (hnames htemplate).2 ht, hv]
    rfl

/-- On the tree with the lock, a version with a name like any other can be fetched. -/
theorem advertised_fetched_plain :
    Disk.attic.Coherent ∧ Disk.attic.Anchored ∧
      (Snapshot.empty.next 0 ((Survey.inquire (.ofString "attic")).run Disk.attic)).Advertises
        "mysql" "1" "mysql/1" ∧
      ∃ detail, ((Snapshot.empty.next 0
        ((Survey.inquire (.ofString "attic")).run Disk.attic)).version
          (.ofString "attic") "mysql" "1").run Disk.attic = .ok detail ∧
        detail.path = "mysql/1" := by
  have hadvertised : (Snapshot.empty.next 0
      ((Survey.inquire (.ofString "attic")).run Disk.attic)).Advertises "mysql" "1" "mysql/1" :=
    Disk.advertises_iff.2 ⟨Disk.attic_shows_template, Disk.attic_shows (by decide), rfl⟩
  have hfetched := advertised_fetched Disk.attic_coherent Disk.attic_anchored (.ofString "attic")
    Snapshot.empty 0 "mysql" "1" "mysql/1" hadvertised
  obtain ⟨detail, hdetail⟩ := hfetched.given.2
    ⟨by decide, by decide, _, Disk.attic_names (by decide) rfl (by decide)⟩
  exact ⟨Disk.attic_coherent, Disk.attic_anchored, hadvertised, detail, hdetail,
    hfetched.path detail hdetail⟩

/-- But it advertises three versions that cannot be fetched: one with a name that is no text,
    one with a backslash in its name, and one that cannot be listed. -/
theorem advertised_lost :
    Disk.attic.Coherent ∧ Disk.attic.Anchored ∧
      ∀ v ∈ ["\uFFFD", "a\\b", "locked"],
        (Snapshot.empty.next 0 ((Survey.inquire (.ofString "attic")).run Disk.attic)).Advertises
          "mysql" v ("mysql/" ++ v) ∧
        ¬ ∃ detail, ((Snapshot.empty.next 0
          ((Survey.inquire (.ofString "attic")).run Disk.attic)).version
            (.ofString "attic") "mysql" v).run Disk.attic = .ok detail := by
  refine ⟨Disk.attic_coherent, Disk.attic_anchored, fun v hv => ⟨?_, ?_⟩⟩
  · refine Disk.advertises_iff.2 ⟨Disk.attic_shows_template, Disk.attic_shows ?_, rfl⟩
    simp only [List.mem_cons, List.not_mem_nil, or_false] at hv ⊢
    tauto
  · rintro ⟨detail, hdetail⟩
    obtain ⟨⟨-, hlabel, hdir, hlist⟩, -⟩ := run_version_eq_ok.1 hdetail
    simp only [List.mem_cons, List.not_mem_nil, or_false] at hv
    rcases hv with rfl | rfl | rfl
    · -- There is no directory of the name that is shown.
      have hnames : Disk.attic.names ((Location.ofString "attic").child "mysql") = .ok _ :=
        Disk.attic_names (by decide) rfl (by decide)
      exact absurd (Disk.attic_coherent.listed hnames (by decide) hdir) (by decide)
    · exact absurd hlabel (by decide)
    · obtain ⟨names, hnames⟩ := Disk.exists_entries.1 hlist
      exact (Disk.lock_names_eq_ok.1 hnames).1 rfl

/-- **Fetched versions**: if all directories can be listed, then after a walk and while nothing
    changes, a version that can be fetched is advertised exactly if the root is a directory and
    neither the name of the version nor that of its template is hidden. The root always is one,
    unless its location is empty. -/
theorem fetched_advertised_iff {d : Disk} (hd : d.Coherent) (ha : d.Anchored) (hl : d.Listable)
    {root : Location} (before : Snapshot) (now : Nat) {t v : String} {detail : Version}
    (h : ((before.next now ((Survey.inquire root).run d)).version root t v).run d = .ok detail) :
    ((∃ path, (before.next now ((Survey.inquire root).run d)).Advertises t v path) ↔
      d.isDirectory root = true ∧ ¬ Hidden t ∧ ¬ Hidden v) ∧
      (root.bytes ≠ [] → d.isDirectory root = true) := by
  obtain ⟨⟨ht, hv, hdir, -⟩, -⟩ := run_version_eq_ok.1 h
  have ht := plainName_of_isIdentifier ht
  have hv := plainName_of_isIdentifier hv
  -- The directory of the version stands in that of the template, and that in the root.
  have hchild : (root.child t).bytes ≠ [] := fun hnil =>
    ht.1 (List.suffix_nil.1 (hnil ▸ ht.isSuffix_join root))
  have htemplate := ha.nested hchild hv hdir
  refine ⟨⟨?_, ?_⟩, fun hroot => ha.nested hroot ht htemplate⟩
  · rintro ⟨path, hadvertised⟩
    obtain ⟨hshows, hshows', -⟩ := Disk.advertises_iff.1 hadvertised
    obtain ⟨names, hnames, -⟩ := Disk.shows_iff.1 hshows
    exact ⟨hd.listable hnames, hshows.not_hidden, hshows'.not_hidden⟩
  · rintro ⟨hroot, hshown, hshown'⟩
    obtain ⟨names, hnames⟩ := hl _ hroot
    obtain ⟨labels, hlabels⟩ := hl _ htemplate
    exact ⟨_, Disk.advertises_iff.2
      ⟨hd.shows_of_isDirectory hnames ht htemplate (not_hidden_iff.1 hshown),
        hd.shows_of_isDirectory hlabels hv hdir (not_hidden_iff.1 hshown'), rfl⟩⟩

/-- In the tree without the lock, a version with a name like any other is advertised. -/
theorem fetched_advertised_plain :
    Volume.attic.disk.Coherent ∧ Volume.attic.disk.Anchored ∧ Volume.attic.disk.Listable ∧
      ∃ path, (Snapshot.empty.next 0
        ((Survey.inquire (.ofString "attic")).run Volume.attic.disk)).Advertises
          "mysql" "1" path := by
  refine ⟨Volume.attic_coherent, Volume.anchored _, Volume.listable _, ?_⟩
  obtain ⟨detail, hdetail⟩ := Volume.attic_fetches (t := "mysql") (v := "1") (by decide)
  refine (fetched_advertised_iff Volume.attic_coherent (Volume.anchored _) (Volume.listable _)
    Snapshot.empty 0 hdetail).1.2 ⟨?_, by decide, by decide⟩
  exact Volume.attic_coherent.listable (Volume.attic_names (by decide) rfl)

/-- But two hidden directories can be fetched as versions that are not advertised: one in a
    template, and one in a hidden directory beside it. -/
theorem hidden_fetched :
    Volume.attic.disk.Coherent ∧ Volume.attic.disk.Anchored ∧ Volume.attic.disk.Listable ∧
      ∀ p ∈ [("mysql", ".draft"), (".git", "hooks")],
        (∃ detail, ((Snapshot.empty.next 0
          ((Survey.inquire (.ofString "attic")).run Volume.attic.disk)).version
            (.ofString "attic") p.1 p.2).run Volume.attic.disk = .ok detail) ∧
        ¬ ∃ path, (Snapshot.empty.next 0
          ((Survey.inquire (.ofString "attic")).run Volume.attic.disk)).Advertises
            p.1 p.2 path := by
  refine ⟨Volume.attic_coherent, Volume.anchored _, Volume.listable _, fun p hp => ?_⟩
  simp only [List.mem_cons, List.not_mem_nil, or_false] at hp
  rcases hp with rfl | rfl
  · refine ⟨Volume.attic_fetches (by decide), ?_⟩
    rintro ⟨path, hadvertised⟩
    exact (Disk.advertises_iff.1 hadvertised).2.1.not_hidden (by decide)
  · refine ⟨Volume.attic_fetches (by decide), ?_⟩
    rintro ⟨path, hadvertised⟩
    exact (Disk.advertises_iff.1 hadvertised).1.not_hidden (by decide)

end Version

end TemplateCatalog
