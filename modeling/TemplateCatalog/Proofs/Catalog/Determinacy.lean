import TemplateCatalog.Proofs.Catalog.WellFormed
import TemplateCatalog.Proofs.Disk.Coherence

/-!
# Rebuilds and the order of listings

A disk lists a directory in no particular order, and perhaps in another one each time. A rebuild
comes to the same all the same: to the same templates, and to the same report of them. Sorting by
the names that are shown does not settle this by itself, for names that are no texts may be shown
alike, and then it leaves them in the order of the disk. But of entries that are shown alike,
nothing is kept but what they share: the name that is shown, and a path that is made of it.

* `Disk.Tells`: an answer that is that of a disk, but for the order of a listing;
* `Entry.ids_eq`, `Entry.iconNames_eq`: what is kept of entries, in whatever order they came;
* `Summary.determined_inquire`, `Survey.determined_inquire`: whatever the order, a walk comes to
  the same;
* `Snapshot.rebuildsTo_determined`: so do all rebuilds.
-/

namespace TemplateCatalog

/-! ## Listings in another order -/

/-- Listings that are the same but for the order of the names. -/
inductive Reordered : Except DiskError (List Bytes) → Except DiskError (List Bytes) → Prop
  | ok {names names' : List Bytes} : names.Perm names' → Reordered (.ok names) (.ok names')
  | error (e : DiskError) : Reordered (.error e) (.error e)

theorem Reordered.refl (listing : Except DiskError (List Bytes)) : Reordered listing listing := by
  cases listing with
  | error e => exact .error e
  | ok names => exact .ok (.refl names)

namespace Disk

/-- An answer that a disk may give that lists names in whatever order. -/
def Tells (d : Disk) : (q : DiskQuestion) × q.Answer → Prop
  | ⟨.names l, listing⟩ => Reordered (d.names l) listing
  | ⟨.isDirectory l, a⟩ => a = d.isDirectory l
  | ⟨.isPresent l, a⟩ => a = d.isPresent l
  | ⟨.content l, a⟩ => a = d.content l

/-- The answers of a disk are among them. -/
theorem tells_self {d : Disk} {x : (q : DiskQuestion) × q.Answer} (hx : x.2 = d x.1) : d.Tells x := by
  obtain ⟨q, a⟩ := x
  obtain rfl : a = d q := hx
  cases q with
  | names l => exact .refl _
  | _ => rfl

end Disk

/-! ## What is kept of entries -/

namespace Entry

variable {entries entries' : List Entry}

/-- Entries that are sorted by their names have these in one order, even if some are shown
    alike. -/
theorem map_name_eq (h : entries.Perm entries') (hs : entries.Pairwise fun a b => a.name ≤ b.name)
    (hs' : entries'.Pairwise fun a b => a.name ≤ b.name) (p : Entry → Bool) :
    (entries.filter p).map (·.name) = (entries'.filter p).map (·.name) :=
  ((h.filter p).map _).eq_of_pairwise (fun _ _ _ _ => String.le_antisymm)
    (List.pairwise_map.2 (hs.filter p)) (List.pairwise_map.2 (hs'.filter p))

/-- The same entries, sorted by their names. -/
structure Same (entries entries' : List Entry) : Prop where
  perm : entries.Perm entries'
  sorted : entries.Pairwise fun a b => a.name ≤ b.name
  sorted' : entries'.Pairwise fun a b => a.name ≤ b.name

theorem Same.ids_eq (h : Same entries entries') : Survey.ids entries = Survey.ids entries' :=
  map_name_eq h.perm h.sorted h.sorted' _

theorem Same.iconNames_eq (h : Same entries entries') :
    Summary.iconNames entries = Summary.iconNames entries' := by
  rw [Summary.iconNames, Summary.iconNames, List.filter_filter, List.filter_filter]
  exact map_name_eq h.perm h.sorted h.sorted' _

/-- Whatever the order in which a disk lists a directory, there is the same error or there are the
    same entries. -/
theorem same_of_comesTo {d : Disk} {dir : Location} {told : List ((q : DiskQuestion) × q.Answer)}
    {listed : Except DiskError (List Entry)} (h : (listOf dir).ComesTo told listed)
    (htold : ∀ x ∈ told, d.Tells x) :
    (∃ e, d.entries dir = .error e ∧ listed = .error e) ∨
      ∃ entries entries', d.entries dir = .ok entries ∧ listed = .ok entries' ∧
        Same entries entries' := by
  cases listed with
  | error e =>
    obtain ⟨told₁, names, told₂, rfl, hnames, hrest⟩ := Interaction.comesTo_bind.1 h
    obtain rfl := Interaction.comesTo_question_iff.1 hnames
    cases names with
    | error e' =>
      obtain ⟨rfl, hlisted⟩ := Interaction.comesTo_pure_iff.1 hrest
      cases hlisted
      have hreordered : Reordered (d.names dir) (.error e) := htold _ List.mem_cons_self
      generalize hlisting : d.names dir = listing at hreordered
      cases hreordered
      exact .inl ⟨e, by rw [Disk.entries, hlisting]; rfl, rfl⟩
    | ok names =>
      obtain ⟨told₃, found, told₄, rfl, -, hpure⟩ := Interaction.comesTo_bind.1 hrest
      obtain ⟨-, hlisted⟩ := Interaction.comesTo_pure_iff.1 hpure
      cases hlisted
  | ok entries' =>
    obtain ⟨l, rfl, rfl⟩ := comesTo_listOf h
    obtain ⟨hnames, hrest⟩ := List.forall_mem_cons.1 htold
    have hreordered : Reordered (d.names dir) (.ok (l.map (·.1))) := hnames
    generalize hlisting : d.names dir = listing at hreordered
    cases hreordered with
    | @ok names _ hperm =>
      -- What was told of each name is what the disk says of it.
      have htold : l.map (ofTold dir) = (l.map (·.1)).map (d.entry dir) := by
        rw [List.map_map]
        refine List.map_congr_left fun e he => ?_
        have hdir : e.2 = d.isDirectory (dir.join e.1) := hrest _ (List.mem_map_of_mem he)
        rw [ofTold, hdir]
        rfl
      refine .inr ⟨_, _, by rw [Disk.entries, hlisting]; rfl, rfl, ?_, pairwise_sorted _,
        pairwise_sorted _⟩
      rw [htold]
      exact (List.mergeSort_perm ..).trans
        ((hperm.map _).trans (List.mergeSort_perm ..).symm)

end Entry

/-! ## Walks -/

variable {root : Location} {told told' : List ((q : DiskQuestion) × q.Answer)}

/-- Nothing but names and contents is read of a configuration, in one place. -/
theorem Config.determined_inquire (d : Disk) (dir : Location) :
    (inquire dir).Determined d.Tells d := by
  refine (Interaction.determined_question fun x hx => hx).bind fun content => ?_
  cases Config.ofFile (dir.child "config.yml") content with
  | error f => exact Interaction.determined_pure _
  | ok config => exact Interaction.determined_pure _

namespace Summary

/-- The versions among entries are those that a root would show. -/
theorem filterMap_newVersion (id : String) (entries : List Entry) :
    entries.filterMap (newVersion id) =
      (Survey.ids entries).map fun v => (v, id ++ "/" ++ v) := by
  rw [Survey.ids, List.map_map, ← List.filterMap_eq_map', List.filterMap_filter]
  congr 1
  funext e
  rw [newVersion, Bool.and_comm]
  rfl

/-- A summary depends on the icons and the versions among its entries, and on nothing else of
    them. -/
theorem ofEntries_congr {entries entries' : List Entry}
    (hicons : iconNames entries = iconNames entries')
    (hids : Survey.ids entries = Survey.ids entries') (id : String) (config : Config) :
    ofEntries id config entries = ofEntries id config entries' := by
  have hnewIcon (l : List Entry) :
      l.filterMap (newIcon id) = (iconNames l).map (id ++ "/" ++ ·) := by
    rw [filterMap_newIcon, iconNames, List.map_map]
  rw [ofEntries, ofEntries, foldl_addEntry, foldl_addEntry]
  simp only [withConfig, ofId, hnewIcon, filterMap_newVersion, hicons, hids]

/-- Whatever the order in which a disk lists the directory of a template, its inquiry comes to the
    same. -/
theorem determined_inquire (d : Disk) (root : Location) (id : String) :
    (inquire root id).Determined d.Tells d := by
  intro told r h htold
  obtain ⟨told₁, listed, told₂, rfl, hlist, h⟩ := Interaction.comesTo_bind.1 h
  obtain ⟨htold₁, htold₂⟩ := List.forall_mem_append.1 htold
  rw [inquire, Interaction.run_bind, Entry.run_listOf]
  rcases Entry.same_of_comesTo hlist htold₁ with
    ⟨e, hentries, rfl⟩ | ⟨entries, entries', hentries, rfl, hsame⟩
  · rw [hentries]
    exact (Interaction.comesTo_pure_iff.1 h).2
  · obtain ⟨told₃, config, told₄, rfl, hconfig, h⟩ := Interaction.comesTo_bind.1 h
    obtain ⟨htold₃, -⟩ := List.forall_mem_append.1 htold₂
    obtain rfl := Config.determined_inquire d _ hconfig htold₃
    obtain ⟨-, rfl⟩ := Interaction.comesTo_pure_iff.1 h
    rw [hentries]
    simp only [Interaction.run_bind, Interaction.run_pure]
    rw [ofEntries_congr hsame.iconNames_eq hsame.ids_eq]

end Summary

/-- Whatever the order in which a disk lists its directories, a walk comes to the same. -/
theorem Survey.determined_inquire (d : Disk) (root : Location) :
    (inquire root).Determined d.Tells d := by
  intro told survey h htold
  obtain ⟨told₁, listed, told₂, rfl, hlist, h⟩ := Interaction.comesTo_bind.1 h
  obtain ⟨htold₁, htold₂⟩ := List.forall_mem_append.1 htold
  rw [inquire, Interaction.run_bind, Entry.run_listOf]
  rcases Entry.same_of_comesTo hlist htold₁ with
    ⟨e, hentries, rfl⟩ | ⟨entries, entries', hentries, rfl, hsame⟩
  · rw [hentries]
    exact (Interaction.comesTo_pure_iff.1 h).2
  · rw [hentries]
    have hids : ids entries' = ids entries := hsame.ids_eq.symm
    simp only [hids] at h
    refine Interaction.Determined.bind (Interaction.determined_each (fun id => ?_) _)
      (fun found => Interaction.determined_pure _) h htold₂
    exact (Summary.determined_inquire d root id).bind fun r => Interaction.determined_pure _

/-! ## Rebuilds -/

namespace Snapshot

/-- What a rebuild that follows on a snapshot publishes and reports, after these answers to its
    walk. -/
inductive RebuildsTo (root : Location) (told : List ((q : DiskQuestion) × q.Answer)) (p : Snapshot) :
    Snapshot → Report → Prop
  | intro {survey : Survey} (now : Nat) : (Survey.inquire root).ComesTo told survey →
    RebuildsTo root told p (p.next now survey) (survey.report (p.generation + 1))

/-- All that a shared index publishes is published by such rebuilds. -/
theorem rebuildsTo_of_published {ι ρ : Type} [DecidableEq ι] {log : List (Sharing.Event ι ρ)}
    {s : Sharing ι} {call : ι} {q : Snapshot} {r : Report}
    (h : Run (Sharing.Step root) .fresh log s) (hp : .published call q r ∈ log) :
    ∃ p : Snapshot, p.RebuildsTo root (Sharing.answers call log) q r := by
  obtain ⟨survey, p, now, hreach, rfl, rfl⟩ := (Sharing.kept_of_run h).survey_of_published hp
  have hcomes := hreach.comesTo (.done survey)
  rw [List.append_nil] at hcomes
  exact ⟨p, .intro now hcomes⟩

/-- On a disk there is such a rebuild, following on any snapshot. -/
theorem exists_rebuildsTo (d : Disk) (root : Location) (p : Snapshot) (now : Nat) :
    ∃ told, p.RebuildsTo root told (p.next now ((Survey.inquire root).run d))
        (((Survey.inquire root).run d).report (p.generation + 1)) ∧
      ∀ x ∈ told, x.2 = d x.1 := by
  obtain ⟨told, hcomes, htold⟩ := Interaction.exists_comesTo_run d (Survey.inquire root)
  exact ⟨told, .intro now hcomes, htold⟩

/-- **Rebuilds and the order of listings**: whenever two rebuilds are told the same of a disk but
    for the order in which it lists each directory, each time, they publish the same templates,
    and they report the same of them, in the same order. What was published before them makes no
    difference but to the generation. -/
theorem rebuildsTo_determined {d : Disk} {p p' q q' : Snapshot} {r r' : Report}
    (h : p.RebuildsTo root told q r) (h' : p'.RebuildsTo root told' q' r')
    (htold : ∀ x ∈ told, d.Tells x) (htold' : ∀ x ∈ told', d.Tells x) :
    q.templates = q'.templates ∧
      q = { q' with generation := p.generation + 1, refreshedAt := q.refreshedAt } ∧
      r = { r' with generation := p.generation + 1 } := by
  obtain ⟨now, hcomes⟩ := h
  obtain ⟨now', hcomes'⟩ := h'
  obtain rfl := Survey.determined_inquire d root hcomes htold
  obtain rfl := Survey.determined_inquire d root hcomes' htold'
  exact ⟨rfl, rfl, rfl⟩

end Snapshot

/-! ## Names that are shown alike -/

/-- A disk that lists all names the other way round. -/
def Disk.reversed (d : Disk) : Disk
  | .names l => (d.names l).map List.reverse
  | .isDirectory l => d.isDirectory l
  | .isPresent l => d.isPresent l
  | .content l => d.content l

theorem Disk.tells_reversed {d : Disk} {x : (q : DiskQuestion) × q.Answer}
    (hx : x.2 = d.reversed x.1) : d.Tells x := by
  obtain ⟨q, a⟩ := x
  obtain rfl : a = d.reversed q := hx
  cases q with
  | names l =>
    show Reordered (d.names l) ((d.names l).map List.reverse)
    cases d.names l with
    | error e => exact .error e
    | ok names => exact .ok names.reverse_perm.symm
  | _ => rfl

/-- A tree in which two templates, and two versions of another, have names that are no texts. -/
def Volume.twins : Volume :=
  ⟨.directory [(Text.encode "shelf", .directory
    [([0xFF], .empty), ([0xFE], .empty), (Text.encode "mysql", .directory
      [([0xFE], .empty), ([0xFF], .empty)])])], []⟩

theorem Volume.twins_names :
    twins.disk.names (.ofString "shelf") = .ok [[0xFF], [0xFE], Text.encode "mysql"] := by
  have hstraight : Straight (.ofString "shelf") := by decide
  have hget : twins.get (.ofString "shelf") = .ok (.directory [([0xFF], .empty), ([0xFE], .empty),
      (Text.encode "mysql", .directory [([0xFE], .empty), ([0xFF], .empty)])]) :=
    get_of_straight hstraight rfl fun target heq => by cases heq
  exact names_of_get hget

/-- Two of the names are shown alike, and come in either order; but rebuilds come to the same, one
    the first of all and the other following on a fourth generation. -/
theorem Snapshot.rebuildsTo_determined_twins :
    Text.decodeLossy [0xFF] = Text.decodeLossy [0xFE] ∧
    Volume.twins.disk.names (.ofString "shelf") = .ok [[0xFF], [0xFE], Text.encode "mysql"] ∧
    Volume.twins.disk.reversed.names (.ofString "shelf") =
      .ok [Text.encode "mysql", [0xFE], [0xFF]] ∧
    ∃ told told' q q' r r',
      Snapshot.empty.RebuildsTo (.ofString "shelf") told q r ∧
      (∀ x ∈ told, x.2 = Volume.twins.disk x.1) ∧
      (⟨4, some 9, .empty⟩ : Snapshot).RebuildsTo (.ofString "shelf") told' q' r' ∧
      (∀ x ∈ told', x.2 = Volume.twins.disk.reversed x.1) ∧
      q.templates = q'.templates ∧ r = { r' with generation := 1 } ∧ r'.generation = 5 := by
  obtain ⟨told, h, htold⟩ :=
    exists_rebuildsTo Volume.twins.disk (.ofString "shelf") .empty 7
  obtain ⟨told', h', htold'⟩ :=
    exists_rebuildsTo Volume.twins.disk.reversed (.ofString "shelf") ⟨4, some 9, .empty⟩ 8
  obtain ⟨htemplates, -, hreport⟩ := rebuildsTo_determined h h'
    (fun x hx => Disk.tells_self (htold x hx)) (fun x hx => Disk.tells_reversed (htold' x hx))
  refine ⟨by decide +kernel, Volume.twins_names, ?_, told, told', _, _, _, _, h, htold, h', htold',
    htemplates, hreport, rfl⟩
  exact congrArg (Except.map List.reverse) Volume.twins_names

end TemplateCatalog
