import TemplateCatalog.Proofs.Catalog.Advertised
import TemplateCatalog.Proofs.Catalog.Determinacy
import TemplateCatalog.Proofs.Catalog.Inheritance
import TemplateCatalog.Proofs.Template.Complaint

/-!
# What a rebuild reports

A rebuild goes over the directories that the root shows, in ascending order of their names, and for
each of them one of three things is told (`Disk.Account`): nothing, if it is a template and all is
well; what is wrong with its configuration, if it is a template all the same; or that it cannot be
listed, and then it is skipped. Names that are no texts may be shown alike, and then the same is
told of each of them.

* `Disk.Account.mem_skipped_iff`: an account names those that it skips;
* `Survey.account_found`: a walk gives such an account of the directories that the root shows;
* `Snapshot.rebuildsTo_accounted`: so does every rebuild, and nothing that is shown is lost.
-/

namespace TemplateCatalog

/-! ## Accounts of directories -/

namespace Disk

variable (d : Disk)

/-- What is to be told of a directory with these names: of each, whether it leads to a directory. -/
def listing (dir : Location) (names : List Bytes) : List (Bytes × Bool) :=
  names.map fun name => (name, d.isDirectory (dir.join name))

/-- The names of the directories in a directory, as they are shown, without the hidden ones. -/
def subdirectories (dir : Location) (names : List Bytes) : List String :=
  ((names.filter fun name => d.isDirectory (dir.join name)).map Text.decodeLossy).filter
    fun t => ¬ Hidden t

/-- What is told of the directories of these names in a root, in turn: the names of those that are
    skipped, and what is wrong. -/
inductive Account (root : Location) : List String → List String → List Diagnostic → Prop
  | nil : Account root [] [] []
  | sound {t : String} {ts skipped : List String} {labels : List Bytes} {ps : List Diagnostic} :
    d.names (root.child t) = .ok labels →
    (∀ f, ¬ d.Misconfigured ((root.child t).child "config.yml") f) →
    Account root ts skipped ps → Account root (t :: ts) skipped ps
  | misconfigured {t : String} {ts skipped : List String} {labels : List Bytes} {f : Failure}
    {ps : List Diagnostic} :
    d.names (root.child t) = .ok labels → d.Misconfigured ((root.child t).child "config.yml") f →
    Account root ts skipped ps →
    Account root (t :: ts) skipped (⟨(root.child t).child "config.yml", f.text⟩ :: ps)
  | skipped {t : String} {ts skipped : List String} {e : DiskError} {ps : List Diagnostic} :
    d.names (root.child t) = .error e → Account root ts skipped ps →
    Account root (t :: ts) (t :: skipped)
      (⟨root.child t,
        "Failed to list template directory " ++ (root.child t).display ++ ": " ++ e.text⟩ :: ps)

namespace Account

variable {d} {root : Location} {t : String} {ts skipped : List String} {ps : List Diagnostic}

/-- One that can be listed adds none to those that cannot. -/
theorem mem_cons_of_names {t' : String} {labels : List Bytes}
    (h : d.names (root.child t') = .ok labels) :
    (t ∈ t' :: ts ∧ ∃ e, d.names (root.child t) = .error e) ↔
      t ∈ ts ∧ ∃ e, d.names (root.child t) = .error e := by
  rw [List.mem_cons]
  refine and_congr_left ?_
  rintro ⟨e, he⟩
  refine or_iff_right ?_
  rintro rfl
  rw [h] at he
  cases he

/-- Those are skipped that cannot be listed. -/
theorem mem_skipped_iff (h : d.Account root ts skipped ps) :
    t ∈ skipped ↔ t ∈ ts ∧ ∃ e, d.names (root.child t) = .error e := by
  induction h with
  | nil => simp
  | sound hlist _ _ ih => exact ih.trans (mem_cons_of_names hlist).symm
  | misconfigured hlist _ _ ih => exact ih.trans (mem_cons_of_names hlist).symm
  | @skipped t' ts skipped e ps hlist _ ih =>
    rw [List.mem_cons, ih, List.mem_cons, or_and_right]
    refine or_congr_left ⟨?_, And.left⟩
    rintro rfl
    exact ⟨rfl, e, hlist⟩

/-- They are skipped in the order in which they are told of. -/
theorem sublist (h : d.Account root ts skipped ps) : skipped.Sublist ts := by
  induction h with
  | nil => exact .slnil
  | sound _ _ _ ih => exact ih.cons _
  | misconfigured _ _ _ ih => exact ih.cons _
  | skipped _ _ ih => exact ih.cons_cons _

/-- A directory that cannot be listed is skipped, and that is told. -/
theorem of_error {e : DiskError} (h : d.Account root (t :: ts) skipped ps)
    (he : d.names (root.child t) = .error e) :
    ∃ skipped' ps', d.Account root ts skipped' ps' ∧ skipped = t :: skipped' ∧
      ps = ⟨root.child t, "Failed to list template directory " ++ (root.child t).display ++ ": " ++
        e.text⟩ :: ps' := by
  cases h with
  | sound hlist _ _ => rw [hlist] at he; cases he
  | misconfigured hlist _ _ => rw [hlist] at he; cases he
  | skipped hlist h =>
    rw [hlist] at he
    cases he
    exact ⟨_, _, h, rfl, rfl⟩

end Account

end Disk

/-! ## What a walk finds -/

/-- Name, category, description and default version of a summary. -/
def Summary.told (s : Summary) : String × String × String × String :=
  (s.name, s.category, s.description, s.defaultVersion)

section Walk

variable {d : Disk} {root : Location} {t : String} {labels names : List Bytes}

/-- The problem with the configuration in a directory is what is wrong with its file. -/
theorem Config.diagnostics_run_inquire (d : Disk) (dir : Location) :
    ((inquire dir).run d).diagnostics =
      match Config.ofFile (dir.child "config.yml") (d.content (dir.child "config.yml")) with
      | .ok _ => []
      | .error f => [⟨dir.child "config.yml", f.text⟩] := by
  rw [run_inquire]
  cases Config.ofFile (dir.child "config.yml") (d.content (dir.child "config.yml")) <;> rfl

namespace Summary

/-- A directory that can be listed comes to a summary of its entries, with the problem of its
    configuration. -/
theorem run_inquire_of_names (h : d.names (root.child t) = .ok labels) :
    (inquire root t).run d = .ok
      ⟨ofEntries t ((Config.inquire (root.child t)).run d).value (Entry.sorted
          ((d.listing (root.child t) labels).map (Entry.ofTold (root.child t)))),
        ((Config.inquire (root.child t)).run d).diagnostics⟩ := by
  have hentries : d.entries (root.child t) = .ok (Entry.sorted
      ((d.listing (root.child t) labels).map (Entry.ofTold (root.child t)))) := by
    rw [Disk.entries, h, Disk.listing, List.map_map]
    rfl
  rw [inquire, Interaction.run_bind, Entry.run_listOf, hentries]
  simp only [Interaction.run_bind, Interaction.run_pure]

/-- A directory that cannot be listed comes to that failure. -/
theorem run_inquire_of_error {e : DiskError} (h : d.names (root.child t) = .error e) :
    (inquire root t).run d =
      .error ⟨["Failed to list template directory " ++ (root.child t).display], .disk e⟩ := by
  rw [inquire, Interaction.run_bind, Entry.run_listOf, Disk.entries, h]
  rfl

end Summary

namespace Disk

/-- The summary of a directory fits what it lists, whatever is wrong with its configuration. -/
theorem summary_fits (h : d.names (root.child t) = .ok labels) :
    (d.summary (root.child t) t).Fits (d.listing (root.child t) labels) := by
  have hrun := Summary.run_inquire d root t
  obtain ⟨entries, hentries⟩ := exists_entries.2 ⟨labels, h⟩
  rw [Summary.run_inquire_of_names h, hentries] at hrun
  rw [← Except.ok.inj hrun]
  exact Summary.fits_ofEntries

/-- It tells what its configuration does, and nothing if something is wrong with that. -/
theorem told_summary (dir : Location) (t : String) :
    (d.summary dir t).told = (d.rootConfig dir).told := rfl

end Disk

namespace Survey

/-- The directories that a root shows, in the order of their names. -/
theorem ids_sorted (d : Disk) (root : Location) (names : List Bytes) :
    (ids (Entry.sorted (names.map (d.entry root)))).Perm (d.subdirectories root names) ∧
      (ids (Entry.sorted (names.map (d.entry root)))).Pairwise (· ≤ ·) := by
  refine ⟨?_, List.pairwise_map.2 ((Entry.pairwise_sorted _).filter _)⟩
  have hhidden (name : Bytes) :
      (!(d.entry root name).isHidden) = decide (¬ Hidden (Text.decodeLossy name)) := by
    rw [Bool.eq_iff_iff, decide_eq_true_iff, Bool.not_eq_true', ← Bool.not_eq_true,
      Entry.isHidden_iff]
    rfl
  have hsame : ids (names.map (d.entry root)) = d.subdirectories root names := by
    rw [ids, Disk.subdirectories, List.filter_map, List.filter_map, List.map_map,
      List.filter_filter]
    simp only [Function.comp_def, hhidden]
    rfl
  rw [← hsame]
  exact ((List.mergeSort_perm ..).filter _).map _

end Survey

/-- So a root shows the directories among its names that are not hidden. -/
theorem Disk.shows_iff_mem (h : d.names root = .ok names) :
    d.Shows root t ↔ t ∈ d.subdirectories root names := by
  rw [← (Survey.ids_sorted d root names).1.mem_iff, Disk.Shows, Disk.entries, h]
  simp [Except.map]

namespace Survey

/-- What a walk finds of these directories is an account of them. -/
theorem account_found (d : Disk) (root : Location) (ts : List String) :
    d.Account root ts ((ts.map fun t => (t, (Summary.inquire root t).run d)).filterMap skipped?)
      ((ts.map fun t => (t, (Summary.inquire root t).run d)).flatMap (diagnosticsOf root)) := by
  induction ts with
  | nil => exact .nil
  | cons t ts ih =>
    rw [List.map_cons, List.flatMap_cons]
    cases hlist : d.names (root.child t) with
    | error e =>
      rw [Summary.run_inquire_of_error hlist]
      exact .skipped hlist ih
    | ok labels =>
      rw [Summary.run_inquire_of_names hlist, List.filterMap_cons_none rfl]
      show d.Account root _ _ (((Config.inquire (root.child t)).run d).diagnostics ++ _)
      rw [Config.diagnostics_run_inquire]
      cases hconfig : Config.ofFile ((root.child t).child "config.yml")
          (d.content ((root.child t).child "config.yml")) with
      | error f => exact .misconfigured hlist (Disk.ofFile_eq_error.1 hconfig) ih
      | ok config =>
        refine .sound hlist (fun f hf => ?_) ih
        rw [Disk.ofFile_eq_error.2 hf] at hconfig
        cases hconfig

/-- What a walk comes to if the root can be listed. -/
theorem run_inquire_of_names (h : d.names root = .ok names) :
    (inquire root).run d = ⟨root, .ok ((ids (Entry.sorted (names.map (d.entry root)))).map
      fun t => (t, (Summary.inquire root t).run d))⟩ := by
  rw [run_inquire, Disk.entries, h]
  rfl

/-- What it skips and what it says is an account of the directories that the root shows. -/
theorem account_run_inquire (h : d.names root = .ok names) :
    d.Account root (ids (Entry.sorted (names.map (d.entry root)))) ((inquire root).run d).skipped
      ((inquire root).run d).diagnostics := by
  rw [run_inquire_of_names h]
  exact account_found d root _

/-- So it skips those that cannot be listed, -/
theorem mem_skipped_run_inquire (h : d.names root = .ok names) :
    t ∈ ((inquire root).run d).skipped ↔
      t ∈ d.subdirectories root names ∧ ∃ e, d.names (root.child t) = .error e := by
  rw [(account_run_inquire h).mem_skipped_iff, (ids_sorted d root names).1.mem_iff]

/-- and publishes those that can. -/
theorem mem_keys_run_inquire (h : d.names root = .ok names) :
    t ∈ ((inquire root).run d).templates.keys ↔
      t ∈ d.subdirectories root names ∧ ∃ labels, d.names (root.child t) = .ok labels := by
  simp only [Dictionary.mem_keys_iff, find?_templates, Disk.Publishes, Disk.exists_entries,
    Disk.shows_iff_mem h]
  constructor
  · rintro ⟨_, hp, -⟩
    exact hp
  · exact fun hp => ⟨_, hp, rfl⟩

/-- What it comes to if the root cannot be listed. -/
theorem run_inquire_of_error {e : DiskError} (h : d.names root = .error e) :
    (inquire root).run d = ⟨root, .error e⟩ := by
  rw [run_inquire, Disk.entries, h]
  rfl

end Survey

end Walk

/-! ## What a rebuild publishes and reports -/

namespace Snapshot

/-- What was published and what was reported of it account for the directories of a root that
    lists these names. -/
structure Accounted (d : Disk) (root : Location) (names : List Bytes) (q : Snapshot) (r : Report) :
    Prop where
  /-- What the root shows is published or skipped, and nothing else is. -/
  covered : ∀ t, t ∈ q.templates.keys ∨ t ∈ r.skipped ↔ t ∈ d.subdirectories root names
  /-- Nothing is both. -/
  apart : ∀ t ∈ q.templates.keys, t ∉ r.skipped
  counted : r.templates = q.templates.keys.length
  ascending : r.skipped.Pairwise (· ≤ ·)
  /-- What is skipped and what is wrong is told of what the root shows, in ascending order, and
      as often as it is shown. -/
  told : ∃ ts, ts.Perm (d.subdirectories root names) ∧ ts.Pairwise (· ≤ ·) ∧
    d.Account root ts r.skipped r.diagnostics
  /-- A template is published with its icon and its versions, whatever is wrong. -/
  whole : ∀ t ∈ q.templates.keys, ∃ labels s, d.names (root.child t) = .ok labels ∧
    q.find? t = some s ∧ s.id = t ∧ s.path = t ∧ s.Fits (d.listing (root.child t) labels)
  /-- It says what its configuration does. -/
  configured : ∀ t s text c, q.find? t = some s →
    d.content ((root.child t).child "config.yml") = .ok (Text.encode text) →
    Config.ofText text = .ok c → s.told = c.told
  /-- If something is wrong with that, it says nothing. -/
  untold : ∀ t s f, q.find? t = some s →
    d.Misconfigured ((root.child t).child "config.yml") f → s.told = ("", "", "", "")

variable {d : Disk} {root : Location} {names : List Bytes}

/-- What a walk over a root that can be listed publishes and reports accounts for it. -/
theorem accounted_next (h : d.names root = .ok names) (p : Snapshot) (now : Nat) :
    Accounted d root names (p.next now ((Survey.inquire root).run d))
      (((Survey.inquire root).run d).report (p.generation + 1)) := by
  obtain ⟨hperm, hsorted⟩ := Survey.ids_sorted d root names
  have haccount := Survey.account_run_inquire h
  refine
    { covered := fun t => ?_
      apart := fun t hkey hskip => ?_
      counted := (List.length_map ..).symm
      ascending := hsorted.sublist haccount.sublist
      told := ⟨_, hperm, hsorted, haccount⟩
      whole := fun t hkey => ?_
      configured := fun t s text c hfind hread hparse => ?_
      untold := fun t s f hfind hwrong => ?_ }
  · -- A directory that is shown is published if it can be listed, and skipped if not.
    refine (or_congr (Survey.mem_keys_run_inquire h) (Survey.mem_skipped_run_inquire h)).trans ?_
    rw [← and_or_left]
    refine and_iff_left ?_
    cases d.names (root.child t) with
    | error e => exact .inr ⟨e, rfl⟩
    | ok labels => exact .inl ⟨labels, rfl⟩
  · obtain ⟨-, labels, hlabels⟩ := (Survey.mem_keys_run_inquire h).1 hkey
    obtain ⟨-, e, herror⟩ := (Survey.mem_skipped_run_inquire h).1 hskip
    rw [hlabels] at herror
    cases herror
  · obtain ⟨hshown, labels, hlabels⟩ := (Survey.mem_keys_run_inquire h).1 hkey
    have hfind := Survey.find?_templates.2
      ⟨⟨(Disk.shows_iff_mem h).2 hshown, Disk.exists_entries.2 ⟨labels, hlabels⟩⟩, rfl⟩
    exact ⟨labels, _, hlabels, hfind, rfl, rfl, Disk.summary_fits hlabels⟩
  · obtain ⟨-, rfl⟩ := Survey.find?_templates.1 hfind
    rw [Disk.told_summary, Disk.rootConfig, Disk.configIn?,
      (Config.ofFile_eq_ok _).2 ⟨text, hread, hparse⟩]
    rfl
  · obtain ⟨-, rfl⟩ := Survey.find?_templates.1 hfind
    rw [Disk.told_summary, Disk.rootConfig, Disk.configIn?, Disk.ofFile_eq_error.2 hwrong]
    rfl

/-- **Reports of rebuilds**: on a disk that does not change, however it lists its directories, what
    a rebuild publishes and what it reports account for every directory that the root shows. If
    the root cannot be listed, nothing is published and nothing is skipped, and that is told. -/
theorem rebuildsTo_accounted {told : List ((q : DiskQuestion) × q.Answer)} {p q : Snapshot}
    {r : Report} (h : p.RebuildsTo root told q r) (htold : ∀ x ∈ told, d.Tells x) :
    r.generation = q.generation ∧
      (∀ names, d.names root = .ok names → Accounted d root names q r) ∧
      ∀ e, d.names root = .error e → q.templates = .empty ∧ r.templates = 0 ∧ r.skipped = [] ∧
        r.diagnostics = [⟨root, e.text⟩] := by
  obtain ⟨now, hcomes⟩ := h
  obtain rfl := Survey.determined_inquire d root hcomes htold
  refine ⟨rfl, fun names hnames => accounted_next hnames p now, fun e he => ?_⟩
  rw [Survey.run_inquire_of_error he]
  exact ⟨rfl, rfl, rfl, rfl⟩

end Snapshot

/-- A root with a template whose configuration is missing, a hidden directory, and two directories
    whose names are no texts; under the name that is shown for these, there is none. -/
def Disk.motley : Disk
  | .isDirectory l =>
    l ∈ [.ofString "shelf", ⟨Text.encode "shelf/" ++ [0xFF]⟩, ⟨Text.encode "shelf/" ++ [0xFE]⟩,
      .ofString "shelf/.git", .ofString "shelf/mysql", .ofString "shelf/mysql/1"]
  | .isPresent _ => true
  | .names l =>
    if l = .ofString "shelf" then
      .ok [[0xFF], Text.encode "mysql", Text.encode ".git", [0xFE]]
    else if l = .ofString "shelf/mysql" then .ok [Text.encode "catalogIcon.svg", Text.encode "1"]
    else .error .notFound
  | .content _ => .error .notFound

theorem Disk.motley_subdirectories :
    motley.subdirectories (.ofString "shelf")
      [[0xFF], Text.encode "mysql", Text.encode ".git", [0xFE]] =
        ["\uFFFD", "mysql", "\uFFFD"] := by decide +kernel

/-- What its template lists. -/
theorem Disk.motley_listing :
    motley.listing ((Location.ofString "shelf").child "mysql")
      [Text.encode "catalogIcon.svg", Text.encode "1"] =
        [(Text.encode "catalogIcon.svg", false), (Text.encode "1", true)] := by decide +kernel

/-- What is told of the directories that this disk shows. -/
theorem Disk.motley_account {skipped : List String} {ps : List Diagnostic}
    (h : motley.Account (.ofString "shelf") ["mysql", "\uFFFD", "\uFFFD"] skipped ps) :
    skipped = ["\uFFFD", "\uFFFD"] ∧
      ps.map Diagnostic.location = [Location.ofString "shelf/mysql/config.yml",
        Location.ofString "shelf/\uFFFD", Location.ofString "shelf/\uFFFD"] := by
  cases h with
  | sound _ hsound _ => exact absurd (.unreadable (.inl rfl)) (hsound _)
  | misconfigured _ _ h₁ =>
    obtain ⟨_, _, h₂, rfl, rfl⟩ := h₁.of_error rfl
    obtain ⟨_, _, h₃, rfl, rfl⟩ := h₂.of_error rfl
    cases h₃
    exact ⟨rfl, rfl⟩
  | skipped hlist _ => cases hlist

namespace Snapshot

/-- On this disk one template is published, with its icon and its version, though its configuration
    is missing; the two directories that are shown alike are skipped, and each is told of. -/
theorem rebuildsTo_accounted_motley :
    ∃ told q r, Snapshot.empty.RebuildsTo (.ofString "shelf") told q r ∧
      (∀ x ∈ told, Disk.motley.Tells x) ∧
      (∀ t, t ∈ q.templates.keys ↔ t = "mysql") ∧ r.skipped = ["\uFFFD", "\uFFFD"] ∧
      r.diagnostics.map Diagnostic.location = [Location.ofString "shelf/mysql/config.yml",
        Location.ofString "shelf/\uFFFD", Location.ofString "shelf/\uFFFD"] ∧
      ∃ s, q.find? "mysql" = some s ∧ s.name = "" ∧ s.iconPath = some "mysql/catalogIcon.svg" ∧
        ("1", "mysql/1") ∈ s.versionLinks.entries := by
  obtain ⟨told, q, r, h, htold⟩ : ∃ told q r,
      Snapshot.empty.RebuildsTo (.ofString "shelf") told q r ∧ ∀ x ∈ told, x.2 = Disk.motley x.1 :=
    (exists_rebuildsTo Disk.motley (.ofString "shelf") .empty 0).imp fun _ h => ⟨_, _, h⟩
  have htells : ∀ x ∈ told, Disk.motley.Tells x := fun x hx => Disk.tells_self (htold x hx)
  have haccounted := (rebuildsTo_accounted h htells).2.1 _ rfl
  obtain ⟨ts, hperm, hsorted, haccount⟩ := haccounted.told
  have hcovered := haccounted.covered
  rw [Disk.motley_subdirectories] at hperm hcovered
  -- In ascending order, what is shown alike comes last.
  obtain rfl : ts = ["mysql", "\uFFFD", "\uFFFD"] :=
    (hperm.trans (.swap ..)).eq_of_pairwise (fun _ _ _ _ => String.le_antisymm) hsorted (by decide)
  obtain ⟨hskipped, hdiagnostics⟩ : r.skipped = ["\uFFFD", "\uFFFD"] ∧
      r.diagnostics.map Diagnostic.location = [Location.ofString "shelf/mysql/config.yml",
        Location.ofString "shelf/\uFFFD", Location.ofString "shelf/\uFFFD"] :=
    Disk.motley_account haccount
  have hkeys (t : String) : t ∈ q.templates.keys ↔ t = "mysql" := by
    have hcovered := hcovered t
    have hapart := haccounted.apart t
    simp only [hskipped, List.mem_cons, List.not_mem_nil, or_false, or_self] at hcovered hapart
    constructor
    · intro hkey
      exact ((hcovered.1 (.inl hkey)).resolve_left (hapart hkey)).resolve_right (hapart hkey)
    · rintro rfl
      exact (hcovered.2 (.inr (.inl rfl))).resolve_right (by decide)
  obtain ⟨labels, s, hlabels, hfind, hid, -, hfits⟩ := haccounted.whole "mysql" ((hkeys _).2 rfl)
  obtain rfl : [Text.encode "catalogIcon.svg", Text.encode "1"] = labels := Except.ok.inj hlabels
  rw [Disk.motley_listing] at hfits
  refine ⟨told, q, r, h, htells, hkeys, hskipped, hdiagnostics, s, hfind, ?_, ?_, ?_⟩
  · exact congrArg Prod.fst (haccounted.untold _ _ _ hfind (.unreadable (.inl rfl)))
  · have hicon (name : String) : HasIcon [(Text.encode "catalogIcon.svg", false),
        (Text.encode "1", true)] name ↔ name = "catalogIcon.svg" := by
      constructor
      · rintro ⟨-, bytes, hbytes, rfl⟩
        obtain rfl : bytes = Text.encode "catalogIcon.svg" := by simpa using hbytes
        decide +kernel
      · rintro rfl
        exact ⟨by decide, Text.encode "catalogIcon.svg", by decide, by decide +kernel⟩
    refine (hfits.icon _).2 ⟨"catalogIcon.svg", ?_, (hicon _).2 rfl, fun other hother => ?_⟩
    · rw [hid]
      decide
    · exact (hicon other).1 hother ▸ String.le_refl _
  · refine (hfits.versions _ _).2 ⟨?_, by decide, Text.encode "1", by decide, by decide +kernel⟩
    rw [hid]
    decide

end Snapshot

end TemplateCatalog
