import TemplateCatalog.Proofs.Catalog.Lookup
import TemplateCatalog.Proofs.Catalog.Sharing
import TemplateCatalog.Proofs.Interaction
import TemplateCatalog.Proofs.Text.Utf8

/-!
# Well-formed catalogs

What every published catalog is like, whatever the disk answered to the walk behind it:
files may be missing, directories may not be listed, and anything may change between two
answers. The disk tells of a directory what names it has, and then of each name whether it
leads to a directory (`Location.listing`). A summary fits what was told of its directory
(`Summary.Fits`): it has a version for each directory that is shown, and the greatest icon.

* `Entry.comesTo_listOf`, `Summary.comesTo_inquire`, `Survey.comesTo_inquire`: what was told
  on the way to a list of entries, to a summary, and to a survey;
* `Summary.fits_ofEntries`: the summary of a directory fits what was told of it;
* `Sharing.published_wellFormed`: all that an index publishes, and all that its readers get, is
  well formed.
-/

namespace TemplateCatalog

/-- A name begins with a dot. -/
def Hidden (name : String) : Prop := ".".toList <+: name.toList

theorem Entry.isHidden_iff {e : Entry} : e.isHidden = true ↔ Hidden e.name :=
  List.isPrefixOf_iff_prefix

/-! ## What was told of a directory -/

/-- What the disk tells of a directory with these names: the names, and then of each, in
    turn, whether it leads to a directory. -/
def Location.listing (dir : Location) (l : List (Bytes × Bool)) :
    List ((q : DiskQuestion) × q.Answer) :=
  ⟨.names dir, .ok (l.map (·.1))⟩ :: l.map fun e => ⟨.isDirectory (dir.join e.1), e.2⟩

/-- The entry of a directory of which this was told. -/
def Entry.ofTold (dir : Location) (e : Bytes × Bool) : Entry :=
  ⟨Text.decodeLossy e.1, dir.join e.1, e.2⟩

/-- Of each name the disk has told one thing. -/
theorem Entry.comesTo_each_inquire {dir : Location} {names : List Bytes}
    {told : List ((q : DiskQuestion) × q.Answer)} {entries : List Entry}
    (h : (Interaction.each (inquire dir) names).ComesTo told entries) :
    ∃ l : List (Bytes × Bool), l.map (·.1) = names ∧ entries = l.map (ofTold dir) ∧
      told = l.map fun e => ⟨.isDirectory (dir.join e.1), e.2⟩ := by
  induction names generalizing told entries with
  | nil =>
    obtain ⟨rfl, rfl⟩ := Interaction.comesTo_pure_iff.1 h
    exact ⟨[], rfl, rfl, rfl⟩
  | cons name names ih =>
    obtain ⟨told₁, e, told₂, rfl, hfirst, h⟩ := Interaction.comesTo_bind.1 h
    obtain ⟨told₃, es, told₄, rfl, hrest, h⟩ := Interaction.comesTo_bind.1 h
    obtain ⟨rfl, rfl⟩ := Interaction.comesTo_pure_iff.1 h
    obtain ⟨told₅, isDir, told₆, rfl, hask, hpure⟩ := Interaction.comesTo_bind.1 hfirst
    obtain ⟨rfl, rfl⟩ := Interaction.comesTo_pure_iff.1 hpure
    obtain rfl := Interaction.comesTo_question_iff.1 hask
    obtain ⟨l, rfl, rfl, rfl⟩ := ih hrest
    exact ⟨(name, isDir) :: l, rfl, rfl, by simp⟩

/-- The entries of a directory are those that were told, in ascending order. -/
theorem Entry.comesTo_listOf {dir : Location} {told : List ((q : DiskQuestion) × q.Answer)}
    {entries : List Entry} (h : (listOf dir).ComesTo told (.ok entries)) :
    ∃ l, told = dir.listing l ∧ entries = sorted (l.map (ofTold dir)) := by
  obtain ⟨told₁, names, told₂, rfl, hnames, hrest⟩ := Interaction.comesTo_bind.1 h
  obtain rfl := Interaction.comesTo_question_iff.1 hnames
  cases names with
  | error e =>
    obtain ⟨-, hentries⟩ := Interaction.comesTo_pure_iff.1 hrest
    cases hentries
  | ok names =>
    obtain ⟨told₃, found, told₄, rfl, heach, hpure⟩ := Interaction.comesTo_bind.1 hrest
    obtain ⟨rfl, hentries⟩ := Interaction.comesTo_pure_iff.1 hpure
    cases hentries
    obtain ⟨l, rfl, rfl, rfl⟩ := comesTo_each_inquire heach
    exact ⟨l, by simp [Location.listing], rfl⟩

/-- If a directory cannot be listed, nothing more is asked. -/
theorem Entry.comesTo_listOf_error {dir : Location} {told : List ((q : DiskQuestion) × q.Answer)}
    {e : DiskError} (h : (listOf dir).ComesTo told (.error e)) :
    told = [⟨.names dir, .error e⟩] := by
  obtain ⟨told₁, names, told₂, rfl, hnames, hrest⟩ := Interaction.comesTo_bind.1 h
  obtain rfl := Interaction.comesTo_question_iff.1 hnames
  cases names with
  | error e' =>
    obtain ⟨rfl, he⟩ := Interaction.comesTo_pure_iff.1 hrest
    cases he
    rfl
  | ok names =>
    obtain ⟨_, _, _, -, -, hpure⟩ := Interaction.comesTo_bind.1 hrest
    cases (Interaction.comesTo_pure_iff.1 hpure).2

theorem Entry.mem_sorted {e : Entry} {entries : List Entry} : e ∈ sorted entries ↔ e ∈ entries :=
  List.mem_mergeSort

/-- The order of entries by their names, as it is decided, is transitive. -/
theorem Entry.decide_name_le_trans (a b c : Entry) (hab : decide (a.name ≤ b.name) = true)
    (hbc : decide (b.name ≤ c.name) = true) : decide (a.name ≤ c.name) = true :=
  decide_eq_true (String.le_trans (of_decide_eq_true hab) (of_decide_eq_true hbc))

/-- Of two entries one is decided to come no later than the other. -/
theorem Entry.decide_name_le_total (a b : Entry) :
    (decide (a.name ≤ b.name) || decide (b.name ≤ a.name)) = true := by
  rw [Bool.or_eq_true, decide_eq_true_iff, decide_eq_true_iff]
  exact String.le_total a.name b.name

/-- Sorted entries are in ascending order of their names. -/
theorem Entry.pairwise_sorted (entries : List Entry) :
    (sorted entries).Pairwise fun a b => a.name ≤ b.name := by
  have h : (sorted entries).Pairwise fun a b => decide (a.name ≤ b.name) = true :=
    List.pairwise_mergeSort decide_name_le_trans decide_name_le_total entries
  exact h.imp of_decide_eq_true

/-! ## What a summary says -/

/-- A file of this name, which is that of an icon, is in a directory. -/
def HasIcon (l : List (Bytes × Bool)) (name : String) : Prop :=
  "catalogIcon".toList <+: name.toList ∧ ∃ bytes, (bytes, false) ∈ l ∧ Text.decodeLossy bytes = name

/-- A summary says what was told of its directory. -/
structure Summary.Fits (s : Summary) (l : List (Bytes × Bool)) : Prop where
  /-- There is a version, with its path, for each directory that is not hidden. -/
  versions : ∀ v path, (v, path) ∈ s.versionLinks.entries ↔
    path = s.id ++ "/" ++ v ∧ ¬ Hidden v ∧ ∃ bytes, (bytes, true) ∈ l ∧ Text.decodeLossy bytes = v
  /-- The icon is the greatest of all. -/
  icon : ∀ path, s.iconPath = some path ↔
    ∃ name, path = s.id ++ "/" ++ name ∧ HasIcon l name ∧ ∀ other, HasIcon l other → other ≤ name
  /-- There is none exactly if none was told. -/
  noIcon : s.iconPath = none ↔ ∀ name, ¬ HasIcon l name

/-- The last of texts in ascending order is the greatest. -/
theorem getLast?_eq_some_iff_greatest {l : List String} (h : l.Pairwise (· ≤ ·)) {s : String} :
    l.getLast? = some s ↔ s ∈ l ∧ ∀ t ∈ l, t ≤ s := by
  constructor
  · intro hlast
    obtain ⟨before, rfl⟩ := List.getLast?_eq_some_iff.1 hlast
    refine ⟨List.mem_append_right _ (List.mem_singleton_self s), fun t ht => ?_⟩
    rcases List.mem_append.1 ht with ht | ht
    · exact (List.pairwise_append.1 h).2.2 t ht s (List.mem_singleton_self s)
    · obtain rfl := List.mem_singleton.1 ht
      exact String.le_refl _
  · rintro ⟨hmem, hall⟩
    obtain ⟨before, last, rfl⟩ := (List.eq_nil_or_concat l).resolve_left (List.ne_nil_of_mem hmem)
    rw [List.concat_eq_append] at *
    have hle : s ≤ last := by
      rcases List.mem_append.1 hmem with hs | hs
      · exact (List.pairwise_append.1 h).2.2 s hs last (List.mem_singleton_self last)
      · obtain rfl := List.mem_singleton.1 hs
        exact String.le_refl _
    have hge := hall last (List.mem_append_right _ (List.mem_singleton_self last))
    rw [List.getLast?_append, String.le_antisymm hle hge]
    rfl

namespace Summary

variable {dir : Location} {id : String} {config : Config} {l : List (Bytes × Bool)}

/-- The names of the icons among entries. -/
def iconNames (entries : List Entry) : List String :=
  ((entries.filter fun e => !e.isDirectory).filter fun e => e.begins "catalogIcon").map (·.name)

theorem mem_iconNames {name : String} :
    name ∈ iconNames (Entry.sorted (l.map (Entry.ofTold dir))) ↔ HasIcon l name := by
  simp only [iconNames, List.mem_map, List.mem_filter, Entry.mem_sorted]
  constructor
  · rintro ⟨_, ⟨⟨⟨⟨bytes, isDir⟩, he, rfl⟩, hfile⟩, hbegins⟩, rfl⟩
    have hfile : isDir = false := by simpa [Entry.ofTold] using hfile
    rw [hfile] at he
    exact ⟨List.isPrefixOf_iff_prefix.1 hbegins, bytes, he, rfl⟩
  · rintro ⟨hbegins, bytes, he, rfl⟩
    exact ⟨Entry.ofTold dir (bytes, false),
      ⟨⟨⟨_, he, rfl⟩, rfl⟩, List.isPrefixOf_iff_prefix.2 hbegins⟩, rfl⟩

theorem pairwise_iconNames (entries : List Entry) :
    (iconNames (Entry.sorted entries)).Pairwise (· ≤ ·) :=
  List.pairwise_map.2 (((Entry.pairwise_sorted entries).filter _).filter _)

/-- The icon of a summary is the last of its icons. -/
theorem iconPath_ofEntries (entries : List Entry) :
    (ofEntries id config entries).iconPath = (iconNames entries).getLast?.map (id ++ "/" ++ ·) := by
  rw [ofEntries, foldl_addEntry, iconNames, ← List.getLast?_map, List.map_map]
  exact (Option.or_none ..).trans (congrArg List.getLast? (filterMap_newIcon id entries))

/-- The versions of a summary are those of its entries. -/
theorem versionLinks_ofEntries (entries : List Entry) :
    (ofEntries id config entries).versionLinks = .ofList (entries.filterMap (newVersion id)) := by
  rw [ofEntries, foldl_addEntry]
  rfl

theorem id_ofEntries (entries : List Entry) : (ofEntries id config entries).id = id := by
  rw [ofEntries, foldl_addEntry]
  rfl

theorem path_ofEntries (entries : List Entry) : (ofEntries id config entries).path = id := by
  rw [ofEntries, foldl_addEntry]
  rfl

/-- What was told of a version. -/
theorem mem_newVersions {v path : String} :
    (v, path) ∈ (Entry.sorted (l.map (Entry.ofTold dir))).filterMap (newVersion id) ↔
      path = id ++ "/" ++ v ∧ ¬ Hidden v ∧
        ∃ bytes, (bytes, true) ∈ l ∧ Text.decodeLossy bytes = v := by
  simp only [List.mem_filterMap, Entry.mem_sorted, List.mem_map, newVersion_eq_some,
    ← Bool.not_eq_true (Entry.isHidden _), Entry.isHidden_iff]
  constructor
  · rintro ⟨_, ⟨⟨bytes, isDir⟩, he, rfl⟩, ⟨hdir, hhidden⟩, rfl, hpath⟩
    have hdir : isDir = true := hdir
    rw [hdir] at he
    exact ⟨hpath, hhidden, bytes, he, rfl⟩
  · rintro ⟨hpath, hhidden, bytes, he, rfl⟩
    exact ⟨Entry.ofTold dir (bytes, true), ⟨_, he, rfl⟩, ⟨rfl, hhidden⟩, rfl, hpath⟩

/-- The last icon of a directory is the greatest that was told. -/
theorem getLast?_iconNames_eq_some {name : String} :
    (iconNames (Entry.sorted (l.map (Entry.ofTold dir)))).getLast? = some name ↔
      HasIcon l name ∧ ∀ other, HasIcon l other → other ≤ name := by
  rw [getLast?_eq_some_iff_greatest (pairwise_iconNames _), mem_iconNames]
  simp only [mem_iconNames]

/-- There is none exactly if none was told. -/
theorem getLast?_iconNames_eq_none :
    (iconNames (Entry.sorted (l.map (Entry.ofTold dir)))).getLast? = none ↔
      ∀ name, ¬ HasIcon l name := by
  rw [List.getLast?_eq_none_iff, List.eq_nil_iff_forall_not_mem]
  simp only [mem_iconNames]

/-- The summary of a directory fits what was told of it. -/
theorem fits_ofEntries :
    (ofEntries id config (Entry.sorted (l.map (Entry.ofTold dir)))).Fits l := by
  refine ⟨fun v path => ?_, fun path => ?_, ?_⟩
  · rw [versionLinks_ofEntries, Dictionary.mem_entries_iff, id_ofEntries,
      Dictionary.find?_ofList_iff fun p p' hp hp' => ?_]
    · exact mem_newVersions
    · -- All entries that are shown alike give the same path.
      rw [(mem_newVersions.1 hp).1, (mem_newVersions.1 hp').1]
  · rw [iconPath_ofEntries, id_ofEntries, Option.map_eq_some_iff]
    constructor
    · rintro ⟨name, hname, rfl⟩
      exact ⟨name, rfl, getLast?_iconNames_eq_some.1 hname⟩
    · rintro ⟨name, rfl, hname⟩
      exact ⟨name, getLast?_iconNames_eq_some.2 hname, rfl⟩
  · rw [iconPath_ofEntries, Option.map_eq_none_iff, getLast?_iconNames_eq_none]

/-- A summary is that of a directory of which something was told. -/
theorem comesTo_inquire {root : Location} {t : String}
    {told : List ((q : DiskQuestion) × q.Answer)} {a : Annotated Summary}
    (h : (inquire root t).ComesTo told (.ok a)) :
    ∃ l, (root.child t).listing l <+: told ∧
      a.value.id = t ∧ a.value.path = t ∧ a.value.Fits l := by
  obtain ⟨told₁, listed, told₂, rfl, hlist, h⟩ := Interaction.comesTo_bind.1 h
  cases listed with
  | error e =>
    obtain ⟨-, h⟩ := Interaction.comesTo_pure_iff.1 h
    cases h
  | ok entries =>
    obtain ⟨told₃, config, told₄, rfl, -, h⟩ := Interaction.comesTo_bind.1 h
    obtain ⟨-, h⟩ := Interaction.comesTo_pure_iff.1 h
    cases h
    obtain ⟨l, rfl, rfl⟩ := Entry.comesTo_listOf hlist
    exact ⟨l, List.prefix_append _ _, id_ofEntries _, path_ofEntries _, fits_ofEntries⟩

end Summary

/-! ## What a catalog is like -/

/-- What a survey found of a template is what its directory came to, after a stretch of what
    was told. -/
theorem Survey.comesTo_inquire {root : Location} {survey : Survey}
    {told : List ((q : DiskQuestion) × q.Answer)} (h : (inquire root).ComesTo told survey)
    {t : String} {r : Except Failure (Annotated Summary)} (hfound : (t, r) ∈ survey.found) :
    ¬ Hidden t ∧ ∃ told', told' <:+: told ∧ (Summary.inquire root t).ComesTo told' r := by
  obtain ⟨told₁, listed, told₂, rfl, hlist, h⟩ := Interaction.comesTo_bind.1 h
  cases listed with
  | error e =>
    obtain ⟨-, rfl⟩ := Interaction.comesTo_pure_iff.1 h
    cases hfound
  | ok entries =>
    obtain ⟨told₃, found, told₄, rfl, heach, h⟩ := Interaction.comesTo_bind.1 h
    obtain ⟨rfl, rfl⟩ := Interaction.comesTo_pure_iff.1 h
    obtain ⟨id, hid, told', hinfix, hone⟩ := heach.exists_of_mem hfound
    obtain ⟨told₅, r', told₆, rfl, hone, hpure⟩ := Interaction.comesTo_bind.1 hone
    obtain ⟨rfl, heq⟩ := Interaction.comesTo_pure_iff.1 hpure
    cases heq
    obtain ⟨e, he, rfl⟩ := List.mem_map.1 hid
    have hshown := (List.mem_filter.1 he).2
    rw [Bool.and_eq_true, Bool.not_eq_true', ← Bool.not_eq_true, Entry.isHidden_iff] at hshown
    refine ⟨hshown.1, told₅, ?_, hone⟩
    rw [List.append_nil] at hinfix ⊢
    exact hinfix.trans (List.suffix_append _ _).isInfix

/-- What every published catalog is like, given what the disk told the walk behind it. -/
structure Snapshot.WellFormed (root : Location) (told : List ((q : DiskQuestion) × q.Answer))
    (s : Snapshot) : Prop where
  /-- Templates are listed in strictly ascending order of their characters, so none is listed
      twice. -/
  ascending : (s.list.map (·.id)).Pairwise (· < ·)
  /-- It is the order of their bytes too. -/
  bytewise : (s.list.map fun t => Text.encode t.id).Pairwise (· < ·)
  /-- A template is kept under its id, which is its path. -/
  keys : ∀ e ∈ s.templates.entries, e.2.id = e.1 ∧ e.2.path = e.1
  /-- Nothing is shown whose name begins with a dot. -/
  shown : ∀ t ∈ s.list, ¬ Hidden t.id ∧ ∀ v ∈ t.versionLinks.keys, ¬ Hidden v
  /-- What is listed of a template was told of its directory in one go. -/
  fits : ∀ t ∈ s.list, ∃ l, (root.child t.id).listing l <:+: told ∧ t.Fits l

/-- What a survey finds of a template that it does not skip. -/
theorem Survey.mem_found_of_mem_templates {survey : Survey} {t : String} {s : Summary}
    (h : (t, s) ∈ survey.templates.entries) : ∃ a, (t, .ok a) ∈ survey.found ∧ a.value = s := by
  rw [Dictionary.mem_entries_iff, templates] at h
  obtain ⟨⟨id, r⟩, hfound, htemplate⟩ := List.mem_filterMap.1 (Dictionary.mem_of_find?_ofList h)
  cases r with
  | error f => cases htemplate
  | ok a =>
    cases htemplate
    exact ⟨a, hfound, rfl⟩

/-- A catalog with the templates of a survey is well formed. -/
theorem Survey.wellFormed {root : Location} {survey : Survey}
    {told : List ((q : DiskQuestion) × q.Answer)} (h : (inquire root).ComesTo told survey)
    {s : Snapshot} (hs : s.templates = survey.templates) : s.WellFormed root told := by
  -- Every template was found by the walk, which was told a listing that it fits.
  have hentry (e : String × Summary) (he : e ∈ s.templates.entries) : ¬ Hidden e.1 ∧
      ∃ l, (root.child e.1).listing l <:+: told ∧ e.2.id = e.1 ∧ e.2.path = e.1 ∧ e.2.Fits l := by
    rw [hs] at he
    obtain ⟨a, hfound, ha⟩ := mem_found_of_mem_templates he
    obtain ⟨hshown, told', hinfix, hone⟩ := comesTo_inquire h hfound
    obtain ⟨l, hprefix, hid, hpath, hfits⟩ := Summary.comesTo_inquire hone
    rw [ha] at hid hpath hfits
    exact ⟨hshown, l, hprefix.isInfix.trans hinfix, hid, hpath, hfits⟩
  have hids : s.list.map (·.id) = s.templates.entries.map (·.1) := by
    rw [Snapshot.list, Dictionary.values, List.map_map]
    exact List.map_congr_left fun e he => (hentry e he).2.choose_spec.2.1
  have hascending : (s.list.map (·.id)).Pairwise (· < ·) := by
    rw [hids]
    exact List.pairwise_map.2 s.templates.sorted
  refine ⟨hascending, ?_, fun e he => ?_, fun t ht => ?_, fun t ht => ?_⟩
  · rw [List.pairwise_map] at hascending ⊢
    exact hascending.imp Text.encode_lt_encode
  · obtain ⟨-, l, -, hid, hpath, -⟩ := hentry e he
    exact ⟨hid, hpath⟩
  · obtain ⟨e, he, rfl⟩ := List.mem_map.1 ht
    obtain ⟨hshown, l, -, hid, -, hfits⟩ := hentry e he
    refine ⟨hid ▸ hshown, fun v hv => ?_⟩
    obtain ⟨⟨_, path⟩, hlink, rfl⟩ := List.mem_map.1 hv
    exact ((hfits.versions _ path).1 hlink).2.1
  · obtain ⟨e, he, rfl⟩ := List.mem_map.1 ht
    obtain ⟨-, l, hinfix, hid, -, hfits⟩ := hentry e he
    exact ⟨l, hid ▸ hinfix, hfits⟩

/-- The empty catalog is well formed. -/
theorem Snapshot.empty_wellFormed (root : Location)
    (told : List ((q : DiskQuestion) × q.Answer)) : Snapshot.empty.WellFormed root told where
  ascending := .nil
  bytewise := .nil
  keys _ h := absurd h List.not_mem_nil
  shown _ h := absurd h List.not_mem_nil
  fits _ h := absurd h List.not_mem_nil

namespace Sharing

variable {ι ρ : Type} [DecidableEq ι] {root : Location} {log : List (Event ι ρ)} {s : Sharing ι}

/-- **Well-formed catalogs**: however rebuilds mix, and whatever the disk answers to each of
    their questions, all that is ever published is well formed, given what its own walk was
    told; and so is all that a reader ever gets, and what is published at the end. -/
theorem published_wellFormed (h : Run (Step root) fresh log s) :
    (∀ call snapshot report, .published call snapshot report ∈ log →
      snapshot.WellFormed root (answers call log)) ∧
    (∀ snapshot, (∃ reader, .read reader snapshot ∈ log) ∨ snapshot = s.published →
      ∃ told, (told = [] ∨ ∃ call, told = answers call log) ∧ snapshot.WellFormed root told) := by
  have hk := kept_of_run h
  have hpublished (call : ι) (snapshot : Snapshot) (report : Report)
      (hp : .published call snapshot report ∈ log) :
      snapshot.WellFormed root (answers call log) := by
    obtain ⟨survey, p, now, hreach, rfl, -⟩ := hk.survey_of_published hp
    have hcomes := hreach.comesTo (.done survey)
    rw [List.append_nil] at hcomes
    exact Survey.wellFormed hcomes rfl
  refine ⟨hpublished, fun snapshot hseen => ?_⟩
  have hsource : snapshot = .empty ∨ ∃ call report, .published call snapshot report ∈ log := by
    rcases hseen with ⟨reader, hread⟩ | rfl
    · exact hk.whole reader snapshot hread
    · exact hk.current
  rcases hsource with rfl | ⟨call, report, hp⟩
  · exact ⟨[], .inl rfl, Snapshot.empty_wellFormed root []⟩
  · exact ⟨answers call log, .inr ⟨call, rfl⟩, hpublished call snapshot report hp⟩

/-- After a rebuild of the shelf its template is listed, with what its directory says. -/
theorem published_wellFormed_shelf : ∃ (log : List (Event Unit Unit)) (s : Sharing Unit),
    Run (Step (.ofString "shelf")) fresh log s ∧
      s.published.find? "mysql" =
        some (Disk.shelf.summary ((Location.ofString "shelf").child "mysql") "mysql") ∧
      ∃ told, s.published.WellFormed (.ofString "shelf") told := by
  have hstart : Run (Step (.ofString "shelf")) (fresh : Sharing Unit) ([] : List (Event Unit Unit))
    fresh := .nil
  obtain ⟨log, s, hrun, hpublished, -⟩ := exists_rebuilt () Disk.shelf 7 hstart rfl
  obtain ⟨told, -, hwell⟩ := (published_wellFormed hrun).2 s.published (.inr rfl)
  refine ⟨_, s, hrun, ?_, told, hwell⟩
  rw [hpublished]
  exact Survey.find?_templates.2 ⟨Disk.shelf_publishes, rfl⟩

end Sharing

end TemplateCatalog
