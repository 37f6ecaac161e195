import TemplateCatalog.Proofs.Catalog.Determinacy
import TemplateCatalog.Proofs.Template.Complaint

/-!
# Reading a version again

A version is read from a listing of its directory, and the disk may list it in another order each
time. Its files are sorted by the names that are shown, which settles the order of those that are
shown differently. Files whose names are no texts may be shown alike, and then they stay in the
order of the disk: which of them is adopted, and in which order their problems are told, is left
to it. So a version is read the same again exactly if it does not matter which of the files that
are shown alike comes last (`Disk.Settled`).

* `Disk.Reorders`: a disk that is the same but for the order of its listings;
* `Disk.Settled.told_eq`: where nothing is left to the order, contents are the same;
* `Disk.settled_of_told_eq`: where something is, some order tells;
* `Contents.repeated_iff`: what follows for repeated readings and lookups.
-/

namespace TemplateCatalog

/-! ## Listings in another order -/

namespace Disk

variable {d d' : Disk} {dir : Location}

/-- Another disk answers as this one does, but for the order in which it lists directories. -/
def Reorders (d d' : Disk) : Prop := ∀ q, d.Tells ⟨q, d' q⟩

theorem reorders_reversed : d.Reorders d.reversed := fun _ => tells_reversed rfl

theorem Reorders.content (h : d.Reorders d') (l : Location) : d'.content l = d.content l :=
  h (.content l)

theorem Reorders.isDirectory (h : d.Reorders d') (l : Location) :
    d'.isDirectory l = d.isDirectory l :=
  h (.isDirectory l)

theorem Reorders.names (h : d.Reorders d') (l : Location) : Reordered (d.names l) (d'.names l) :=
  h (.names l)

/-- Every name is the same entry. -/
theorem Reorders.entry (h : d.Reorders d') (dir : Location) : d'.entry dir = d.entry dir := by
  funext name
  rw [Disk.entry, Disk.entry, h.isDirectory]

/-- The files of a directory are the same, sorted by their names. -/
theorem Reorders.files (h : d.Reorders d') (dir : Location) :
    Entry.Same (d.files dir) (d'.files dir) := by
  have hlisted := h.names dir
  rw [Disk.files, Disk.files, Disk.entries, Disk.entries, h.entry]
  generalize d.names dir = listing at hlisted
  generalize d'.names dir = listing' at hlisted
  rcases hlisted with ⟨hperm⟩ | ⟨e⟩
  · refine ⟨?_, (Entry.pairwise_sorted _).filter _, (Entry.pairwise_sorted _).filter _⟩
    have hsorted (names : List Bytes) :
        (Entry.sorted (names.map (d.entry dir))).Perm (names.map (d.entry dir)) :=
      List.mergeSort_perm ..
    exact ((hsorted _).trans ((hperm.map _).trans (hsorted _).symm)).filter _
  · exact ⟨.refl _, .nil, .nil⟩

/-- What is read of a file is the same. -/
theorem Reorders.configIn? (h : d.Reorders d') (l : Location) : d'.configIn? l = d.configIn? l := by
  rw [Disk.configIn?, Disk.configIn?, h.content]

theorem Reorders.textIn? (h : d.Reorders d') (e : Entry) : d'.textIn? e = d.textIn? e := by
  rw [Disk.textIn?, Disk.textIn?, h.content]

theorem Reorders.deployment? (h : d.Reorders d') : d'.deployment? = d.deployment? := by
  funext e
  rw [Disk.deployment?, Disk.deployment?, h.textIn?]

theorem Reorders.orchestration? (h : d.Reorders d') : d'.orchestration? = d.orchestration? := by
  funext e
  rw [Disk.orchestration?, Disk.orchestration?, h.textIn?]

theorem Reorders.problem? (h : d.Reorders d') : d'.problem? = d.problem? := by
  funext e
  rw [Disk.problem?, Disk.problem?, Disk.defect?, Disk.defect?, h.content]

end Disk

/-! ## Files that are shown alike -/

/-- It does not matter which of the files that are shown alike comes last: those that give
    anything give the same, unless a later one counts anyway. -/
def Settles {β : Type} (gives : Entry → β → Prop) (files : List Entry) : Prop :=
  ∀ e ∈ files, ∀ e' ∈ files, e.name = e'.name →
    (∀ later ∈ files, e.name < later.name → ∀ b, ¬ gives later b) →
    ∀ b b', gives e b → gives e' b' → b = b'

section Settles

variable {β : Type} {gives : Entry → β → Prop} {files files' : List Entry} {b b' : β}

/-- If it does not matter, the last that gives something gives the same in every order. -/
theorem Settles.lastGives_eq (hs : Settles gives files) (h : Entry.Same files files')
    (hb : LastGives gives files b) (hb' : LastGives gives files' b') : b = b' := by
  obtain ⟨e, he, hgives, hall⟩ := hb.greatest h.sorted
  obtain ⟨e', he', hgives', hall'⟩ := hb'.greatest h.sorted'
  -- Each of the two is the greatest that gives anything, so they are shown alike.
  have hname : e.name = e'.name := by
    refine String.le_antisymm (hall' e (h.perm.mem_iff.1 he) b hgives) ?_
    exact hall e' (h.perm.mem_iff.2 he') b' hgives'
  have hlater : ∀ later ∈ files, e.name < later.name → ∀ c, ¬ gives later c :=
    fun later hlater hlt c hc =>
      String.lt_irrefl _ (Std.lt_of_lt_of_le hlt (hall later hlater c hc))
  exact hs e he e' (h.perm.mem_iff.2 he') hname hlater b b' hgives hgives'

/-- So what is read last is the same. -/
theorem Settles.getLast?_eq {read : Entry → Option β} (hread : ∀ e b, read e = some b ↔ gives e b)
    (hs : Settles gives files) (h : Entry.Same files files') :
    (files'.filterMap read).getLast? = (files.filterMap read).getLast? := by
  rcases hlast : (files.filterMap read).getLast? with _ | b
  · have hnone := (getLast?_filterMap_eq_none hread).1 hlast
    exact (getLast?_filterMap_eq_none hread).2 fun e he => hnone e (h.perm.mem_iff.2 he)
  · have hb := (getLast?_filterMap_eq_some hread).1 hlast
    rcases hlast' : (files'.filterMap read).getLast? with _ | b'
    · have hnone := (getLast?_filterMap_eq_none hread).1 hlast'
      obtain ⟨e, he, hgives, -⟩ := hb.greatest h.sorted
      exact absurd hgives (hnone e (h.perm.mem_iff.1 he) b)
    · rw [hs.lastGives_eq h hb ((getLast?_filterMap_eq_some hread).1 hlast')]

end Settles

namespace Disk

/-- Nothing in a version is left to the order in which its files are listed. -/
structure Settled (d : Disk) (files : List Entry) : Prop where
  config : Settles d.ConfigIn files
  deployment : Settles d.DeploymentIn files
  orchestration : Settles d.OrchestrationIn files
  /-- Of the files that are shown alike, there is something wrong with one at most. -/
  problems : ∀ e ∈ files, ∀ e' ∈ files, e.name = e'.name →
    (∃ x, d.Complains e x) → (∃ x, d.Complains e' x) → e = e'

end Disk

/-- All that is told of the contents of a version: configuration, icon, manifests, questions and
    problems. -/
def Contents.told (c : Contents) : Option Config × Option String × Option String × Option String ×
    List Question × List Diagnostic :=
  (c.config, c.iconPath, c.dockerManifest, c.orchestrationManifest, c.questions, c.diagnostics)

namespace Disk

variable {d d' : Disk} {dir : Location} {path : String}

/-- The name of the icon is the same in every order, since it is all that is told of it. -/
theorem Reorders.icon? (h : d.Reorders d') (dir : Location) : d'.icon? dir = d.icon? dir := by
  have hsame := h.files dir
  rw [Disk.icon?, Disk.icon?, ← List.getLast?_map, ← List.getLast?_map, Disk.filesOf, Disk.filesOf]
  rw [Entry.map_name_eq hsame.perm hsame.sorted hsame.sorted']

/-- The files with a problem, one at most of those that are shown alike, have one order. -/
theorem Settled.problems_eq (hs : d.Settled (d.files dir)) (h : d.Reorders d') :
    d'.problems dir = d.problems dir := by
  have hsame := h.files dir
  -- Only the files with a problem count.
  have hkeep (files : List Entry) : files.filterMap d.problem? =
      (files.filter fun e => (d.problem? e).isSome).filterMap d.problem? := by
    rw [List.filterMap_filter]
    refine List.filterMap_congr fun e _ => ?_
    rcases d.problem? e with _ | p <;> rfl
  have hbad {e : Entry} (he : e ∈ (d.files dir).filter fun e => (d.problem? e).isSome) :
      e ∈ d.files dir ∧ ∃ x, d.Complains e x := by
    obtain ⟨hmem, hsome⟩ := List.mem_filter.1 he
    rw [problem?, Option.isSome_map] at hsome
    obtain ⟨x, hx⟩ := Option.isSome_iff_exists.1 hsome
    exact ⟨hmem, x, defect?_eq_some.1 hx⟩
  rw [Disk.problems_eq, Disk.problems_eq, h.problem?, hkeep, hkeep (d.files dir)]
  refine congrArg _ (Eq.symm ?_)
  have hperm := hsame.perm.filter fun e => (d.problem? e).isSome
  refine hperm.eq_of_pairwise (fun a b ha hb hab hba => ?_) (hsame.sorted.filter _)
    (hsame.sorted'.filter _)
  obtain ⟨ha, hxa⟩ := hbad ha
  obtain ⟨hb, hxb⟩ := hbad (hperm.mem_iff.2 hb)
  exact hs.problems a ha b hb (String.le_antisymm hab hba) hxa hxb

/-- Where nothing is left to the order of listings, contents are told the same in every order. -/
theorem Settled.told_eq (hs : d.Settled (d.files dir)) (h : d.Reorders d') :
    (d'.contents dir path).told = (d.contents dir path).told := by
  have hsame := h.files dir
  have hconfig : d'.config? dir = d.config? dir := by
    rw [config?_eq, config?_eq]
    simp only [h.configIn?]
    exact hs.config.getLast?_eq (fun _ _ => configIn?_eq_some) hsame
  have hdeployment : d'.manifest? dir "docker-compose" = d.manifest? dir "docker-compose" := by
    rw [deployment?_eq, deployment?_eq, h.deployment?]
    exact hs.deployment.getLast?_eq (fun _ _ => deployment?_eq_some) hsame
  have horchestration : d'.lastOrchestration? dir = d.lastOrchestration? dir := by
    rw [lastOrchestration?, lastOrchestration?, h.orchestration?]
    exact hs.orchestration.getLast?_eq (fun _ _ => orchestration?_eq_some) hsame
  have hproblems : (d'.contents dir path).diagnostics = (d.contents dir path).diagnostics :=
    hs.problems_eq h
  rw [Contents.told, Contents.told, hproblems]
  simp only [contents, hconfig, h.icon?, hdeployment, orchestrationManifest?_eq, questions_eq,
    horchestration]

end Disk

/-! ## Putting a file last -/

/-- What is listed last is in order after all that are shown alike. -/
theorem Entry.InOrder.split_last {l files : List Entry} {e : Entry}
    (h : InOrder (l ++ [e]) files) :
    ∃ before after, files = before ++ e :: after ∧ ∀ a ∈ after, e.name < a.name := by
  obtain ⟨before, after, rfl, -, hafter⟩ := h.split
  refine ⟨before, after, rfl, fun a ha => ?_⟩
  have hle : e.name ≤ a.name := by
    have hsuffix := (List.pairwise_append.1 h.ascending).2.1
    exact (List.pairwise_cons.1 hsuffix).1 a ha
  have hne : a.name ≠ e.name := by
    have hnot := List.filter_eq_nil_iff.1 hafter a ha
    exact of_decide_eq_false (Bool.eq_false_iff.2 hnot)
  exact Std.lt_of_le_of_ne hle hne.symm

namespace Disk

variable {d d' : Disk} {dir : Location} {names names' : List Bytes} {e e' : Entry}

/-- The disk with another listing of one directory. -/
def relisted (d : Disk) (dir : Location) (names : List Bytes) : Disk
  | .names l => if l = dir then .ok names else d.names l
  | .isDirectory l => d.isDirectory l
  | .isPresent l => d.isPresent l
  | .content l => d.content l

theorem reorders_relisted (h : d.names dir = .ok names) (hperm : names.Perm names') :
    d.Reorders (d.relisted dir names') := by
  intro q
  rcases q with l | l | l | l
  · rfl
  · rfl
  · show Reordered (d.names l) (if l = dir then .ok names' else d.names l)
    by_cases hl : l = dir
    · rw [if_pos hl, hl, h]
      exact .ok hperm
    · rw [if_neg hl]
      exact .refl _
  · rfl

/-- In some order of the listing, a file comes after all that are shown alike. -/
theorem exists_reorders_last (he : e ∈ d.files dir) :
    ∃ d', d.Reorders d' ∧ ∃ before after,
      d'.files dir = before ++ e :: after ∧ ∀ a ∈ after, e.name < a.name := by
  rcases hlisting : d.names dir with error | names
  · rw [files_eq_nil hlisting] at he
    cases he
  obtain ⟨name, hname, rfl, hfile⟩ := (mem_files_iff hlisting).1 he
  have hperm : names.Perm (names.erase name ++ [name]) :=
    (List.perm_cons_erase hname).trans (List.perm_append_singleton ..).symm
  refine ⟨d.relisted dir (names.erase name ++ [name]), reorders_relisted hlisting hperm, ?_⟩
  have hnames : (d.relisted dir (names.erase name ++ [name])).names dir =
      .ok (names.erase name ++ [name]) := if_pos rfl
  have horder := inOrder_files hnames
  have hlisted : (d.relisted dir (names.erase name ++ [name])).listed dir
      (names.erase name ++ [name]) = d.listed dir (names.erase name) ++ [d.entry dir name] := by
    have hkept : (!(d.entry dir name).isDirectory) = true := by
      rw [Bool.not_eq_true']
      exact hfile
    have hone : ([name].map (d.entry dir)).filter (fun e => !e.isDirectory) =
        [d.entry dir name] := List.filter_cons_of_pos hkept
    rw [listed, (reorders_relisted hlisting hperm).entry, List.map_append, List.filter_append, hone]
    rfl
  rw [hlisted] at horder
  exact horder.split_last

/-- If what is read last is the same in every order, it does not matter which file comes last. -/
theorem settles_of_getLast?_eq {β : Type} {gives : Entry → β → Prop} {read : Entry → Option β}
    (hread : ∀ e b, read e = some b ↔ gives e b)
    (h : ∀ d', d.Reorders d' →
      ((d'.files dir).filterMap read).getLast? = ((d.files dir).filterMap read).getLast?) :
    Settles gives (d.files dir) := by
  -- A file that is not followed by a later one that counts, put last, is the one that is read.
  have hlast (e : Entry) (he : e ∈ d.files dir)
      (hlater : ∀ later ∈ d.files dir, e.name < later.name → ∀ b, ¬ gives later b) (b : β)
      (hb : gives e b) : ((d.files dir).filterMap read).getLast? = some b := by
    obtain ⟨d', h', before, after, hfiles, hafter⟩ := exists_reorders_last he
    rw [← h d' h']
    refine (getLast?_filterMap_eq_some hread).2 ⟨before, e, after, hfiles, hb, fun a ha => ?_⟩
    have hmem : a ∈ d'.files dir := by
      rw [hfiles]
      exact List.mem_append_right _ (List.mem_cons_of_mem _ ha)
    exact hlater a ((h'.files dir).perm.mem_iff.2 hmem) (hafter a ha)
  intro e he e' he' hname hlater b b' hb hb'
  have hlater' : ∀ later ∈ d.files dir, e'.name < later.name → ∀ b, ¬ gives later b := by
    rw [← hname]
    exact hlater
  exact Option.some.inj ((hlast e he hlater b hb).symm.trans (hlast e' he' hlater' b' hb'))

/-- The files up to one, in an order in which it comes after all that are shown alike. -/
theorem filter_le_of_split {before after : List Entry}
    (hs : (before ++ e :: after).Pairwise fun a b => a.name ≤ b.name)
    (hafter : ∀ a ∈ after, e.name < a.name) :
    (before ++ e :: after).filter (fun a => a.name ≤ e.name) = before ++ [e] := by
  have hbefore : ∀ a ∈ before, decide (a.name ≤ e.name) = true := fun a ha =>
    decide_eq_true ((List.pairwise_append.1 hs).2.2 a ha e List.mem_cons_self)
  have hrest : ∀ a ∈ after, ¬ decide (a.name ≤ e.name) = true := fun a ha hle =>
    String.lt_irrefl _ (Std.lt_of_lt_of_le (hafter a ha) (of_decide_eq_true hle))
  have hself : (e :: after).filter (fun a => a.name ≤ e.name) =
      e :: after.filter (fun a => a.name ≤ e.name) :=
    List.filter_cons_of_pos (decide_eq_true (String.le_refl _))
  rw [List.filter_append, List.filter_eq_self.2 hbefore, hself, List.filter_eq_nil_iff.2 hrest]

/-- If problems are told in the same order in every order, then of the files that are shown alike
    there is something wrong with one at most. -/
theorem eq_of_problems_eq (h : ∀ d', d.Reorders d' → d'.problems dir = d.problems dir)
    (he : e ∈ d.files dir) (he' : e' ∈ d.files dir) (hname : e.name = e'.name)
    (hx : ∃ x, d.Complains e x) (hx' : ∃ x, d.Complains e' x) : e = e' := by
  obtain ⟨x, hx⟩ := hx
  obtain ⟨x', hx'⟩ := hx'
  obtain ⟨d₁, h₁, before, after, hfiles, hafter⟩ := exists_reorders_last he
  obtain ⟨d₂, h₂, before', after', hfiles', hafter'⟩ := exists_reorders_last he'
  have hp : d.problem? e = some ⟨e.location, x.text⟩ := by rw [problem?, defect?_eq_some.2 hx]; rfl
  have hp' : d.problem? e' = some ⟨e'.location, x'.text⟩ := by
    rw [problem?, defect?_eq_some.2 hx']; rfl
  -- As many problems come before the one as before the other, so they are in one place.
  have hperm : (before ++ [e]).Perm (before' ++ [e']) := by
    have hsame := (h₁.files dir).perm.symm.trans (h₂.files dir).perm
    rw [hfiles, hfiles'] at hsame
    rw [← filter_le_of_split (hfiles ▸ (h₁.files dir).sorted') hafter,
      ← filter_le_of_split (hfiles' ▸ (h₂.files dir).sorted') hafter', hname]
    exact hsame.filter _
  have hlength : (before.filterMap d.problem?).length = (before'.filterMap d.problem?).length := by
    have hcount := (hperm.filterMap d.problem?).length_eq
    rw [List.filterMap_append, List.filterMap_append, List.filterMap_cons_some hp,
      List.filterMap_cons_some hp', List.length_append, List.length_append] at hcount
    exact Nat.add_right_cancel hcount
  have htold : d₁.problems dir = d₂.problems dir := (h d₁ h₁).trans (h d₂ h₂).symm
  rw [problems_eq, problems_eq, h₁.problem?, h₂.problem?, hfiles, hfiles', List.filterMap_append,
    List.filterMap_append, List.filterMap_cons_some hp, List.filterMap_cons_some hp'] at htold
  have hlocation : e.location = e'.location :=
    congrArg Diagnostic.location (List.cons.inj (List.append_inj htold hlength).2).1
  have hfile := (List.mem_filter.1 he).2
  have hfile' := (List.mem_filter.1 he').2
  rw [Bool.not_eq_true'] at hfile hfile'
  rcases e with ⟨name, location, isDir⟩
  rcases e' with ⟨name', location', isDir'⟩
  obtain rfl : name = name' := hname
  obtain rfl : location = location' := hlocation
  obtain rfl : isDir = isDir' := hfile.trans hfile'.symm
  rfl

/-- So it is with orchestration manifests, of which only the text is told: those that are shown
    alike have one name. -/
theorem settles_orchestration (h : ∀ d', d.Reorders d' →
    d'.manifest? dir "rancher-compose" = d.manifest? dir "rancher-compose") :
    Settles d.OrchestrationIn (d.files dir) := by
  have htexts : Settles (fun e text => d.OrchestrationIn e (e.name, text)) (d.files dir) := by
    have hread (e : Entry) (text : String) :
        (d.orchestration? e).map (·.2) = some text ↔ d.OrchestrationIn e (e.name, text) := by
      rw [Option.map_eq_some_iff, ← orchestration?_eq_some]
      constructor
      · rintro ⟨⟨name, _⟩, hread, rfl⟩
        obtain rfl : e.name = name := (orchestration?_eq_some.1 hread).2.1
        exact hread
      · exact fun hread => ⟨(e.name, text), hread, rfl⟩
    refine settles_of_getLast?_eq hread fun d' h' => ?_
    have hmanifest := h d' h'
    rw [orchestrationManifest?_eq, orchestrationManifest?_eq, lastOrchestration?,
      lastOrchestration?, h'.orchestration?] at hmanifest
    rwa [← List.getLast?_map, ← List.getLast?_map, List.map_filterMap, List.map_filterMap]
      at hmanifest
  rintro e he e' he' hname hlater ⟨_, text⟩ ⟨_, text'⟩ ⟨hbegins, rfl, hread⟩ ⟨hbegins', rfl, hread'⟩
  have htext : text = text' := htexts e he e' he' hname
    (fun later hmem hlt other hother => hlater later hmem hlt _ hother) text text'
    ⟨hbegins, rfl, hread⟩ ⟨hbegins', rfl, hread'⟩
  exact Prod.ext hname htext

/-- If contents are told the same in every order, nothing is left to the order. -/
theorem settled_of_told_eq (path : String)
    (h : ∀ d', d.Reorders d' → (d'.contents dir path).told = (d.contents dir path).told) :
    d.Settled (d.files dir) := by
  have hparts (d' : Disk) (h' : d.Reorders d') := h d' h'
  simp only [Contents.told, Prod.mk.injEq] at hparts
  refine ⟨?_, ?_, settles_orchestration fun d' h' => (hparts d' h').2.2.2.1, fun e he e' he' => ?_⟩
  · refine settles_of_getLast?_eq (fun _ _ => configIn?_eq_some) fun d' h' => ?_
    have hconfig : d'.config? dir = d.config? dir := (hparts d' h').1
    rw [config?_eq, config?_eq] at hconfig
    simpa only [h'.configIn?] using hconfig
  · refine settles_of_getLast?_eq (fun _ _ => deployment?_eq_some) fun d' h' => ?_
    have hdeployment : d'.manifest? dir "docker-compose" = d.manifest? dir "docker-compose" :=
      (hparts d' h').2.2.1
    rwa [deployment?_eq, deployment?_eq, h'.deployment?] at hdeployment
  · exact eq_of_problems_eq (fun d' h' => (hparts d' h').2.2.2.2.2) he he'

/-! ## Names that are texts -/

/-- If no two files are shown alike, it does not matter which comes last. -/
theorem settles_of_inj {β : Type} {gives : Entry → β → Prop} {read : Entry → Option β}
    {files : List Entry} (hread : ∀ e b, read e = some b ↔ gives e b)
    (hinj : ∀ e ∈ files, ∀ e' ∈ files, e.name = e'.name → e = e') : Settles gives files := by
  intro e he e' he' hname _ b b' hb hb'
  obtain rfl := hinj e he e' he' hname
  exact Option.some.inj (((hread e b).2 hb).symm.trans ((hread e b').2 hb'))

/-- So nothing is left to the order then. -/
theorem settled_of_inj {files : List Entry}
    (hinj : ∀ e ∈ files, ∀ e' ∈ files, e.name = e'.name → e = e') : d.Settled files where
  config := settles_of_inj (fun _ _ => configIn?_eq_some) hinj
  deployment := settles_of_inj (fun _ _ => deployment?_eq_some) hinj
  orchestration := settles_of_inj (fun _ _ => orchestration?_eq_some) hinj
  problems e he e' he' hname _ _ := hinj e he e' he' hname

/-- Files whose names are texts are not shown alike. -/
theorem settled_of_isText
    (h : ∀ names, d.names dir = .ok names → ∀ name ∈ names, Text.IsText name) :
    d.Settled (d.files dir) := by
  rcases hlisting : d.names dir with error | names
  · rw [files_eq_nil hlisting]
    exact settled_of_inj nofun
  have hentry (e : Entry) (he : e ∈ d.files dir) : ∃ name : String,
      e = d.entry dir (Text.encode name) := by
    obtain ⟨name, hname, rfl, -⟩ := (mem_files_iff hlisting).1 he
    obtain ⟨text, rfl⟩ := h names hlisting name hname
    exact ⟨text, rfl⟩
  refine settled_of_inj fun e he e' he' hname => ?_
  obtain ⟨name, rfl⟩ := hentry e he
  obtain ⟨name', rfl⟩ := hentry e' he'
  simp only [entry, Text.decodeLossy_encode] at hname
  rw [hname]

/-! ## Readings and lookups -/

variable {root : Location} {t v : String}

/-- In another order, a version that cannot be listed fails the same, and one that can be listed
    has contents again. -/
theorem Reorders.run_inquire (h : d.Reorders d') (root : Location) (t v : String) :
    (∃ f, (Contents.inquire root t v).run d = .error f ∧
      (Contents.inquire root t v).run d' = .error f) ∨
    (Contents.inquire root t v).run d =
        .ok (d.contents ((root.child t).child v) (Contents.pathOf t v)) ∧
      (Contents.inquire root t v).run d' =
        .ok (d'.contents ((root.child t).child v) (Contents.pathOf t v)) := by
  have hlisted := h.names ((root.child t).child v)
  rw [Contents.run_inquire, Contents.run_inquire, entries, entries]
  generalize d.names ((root.child t).child v) = listing at hlisted
  generalize d'.names ((root.child t).child v) = listing' at hlisted
  rcases hlisted with - | error
  · exact .inr ⟨rfl, rfl⟩
  · exact .inl ⟨_, rfl, rfl⟩

end Disk

/-- A detail depends on nothing but what is told of the contents. -/
theorem Version.resolve_congr {root : Location} {t v : String} {parent : Option Summary}
    {c c' : Contents} (h : c'.told = c.told) :
    resolve root t v parent c' = resolve root t v parent c := by
  simp only [Contents.told, Prod.mk.injEq] at h
  obtain ⟨hconfig, hicon, hdeployment, horchestration, hquestions, hdiagnostics⟩ := h
  rw [resolve, resolve, inherits, inherits, hconfig, hicon, hdeployment, horchestration, hquestions,
    hdiagnostics]

namespace Contents

variable {d d' : Disk} {root : Location} {t v : String}

/-- If contents are told the same, so is the detail of a version. -/
theorem run_version_congr (h : d.Reorders d')
    (htold : ((inquire root t v).run d').map told = ((inquire root t v).run d).map told)
    (s : Snapshot) : (s.version root t v).run d' = (s.version root t v).run d := by
  rw [Snapshot.version, Interaction.run_bind, Interaction.run_bind, Version.run_inquire,
    Version.run_inquire, h.isDirectory, h.isDirectory]
  split
  · rfl
  split
  · rfl
  split
  · show ((inquire root t v).run d').map _ = ((inquire root t v).run d).map _
    rcases h.run_inquire root t v with ⟨f, hrun, hrun'⟩ | ⟨hrun, hrun'⟩
    · rw [hrun, hrun']
    · rw [hrun, hrun'] at htold ⊢
      exact congrArg Except.ok (Version.resolve_congr (Except.ok.inj htold))
  split <;> rfl

/-- **Repeated readings**: the contents of a version are told the same in every order in which the
    disk may list its directory, exactly if nothing is left to that order; and then a lookup gives
    the same detail again, whatever is published. Nothing is left to it if all names are texts. If
    some are none, the icon at least is the same. -/
theorem repeated_iff (d : Disk) (root : Location) (t v : String) :
    ((∀ d', d.Reorders d' →
        ((inquire root t v).run d').map told = ((inquire root t v).run d).map told) ↔
      d.Settled (d.files ((root.child t).child v))) ∧
    (d.Settled (d.files ((root.child t).child v)) → ∀ d', d.Reorders d' → ∀ s : Snapshot,
      (s.version root t v).run d' = (s.version root t v).run d) ∧
    ((∀ names, d.names ((root.child t).child v) = .ok names → ∀ name ∈ names, Text.IsText name) →
      d.Settled (d.files ((root.child t).child v))) ∧
    ∀ d', d.Reorders d' →
      ((inquire root t v).run d').map (·.iconPath) =
        ((inquire root t v).run d).map (·.iconPath) := by
  have htold (hs : d.Settled (d.files ((root.child t).child v))) (d' : Disk) (h : d.Reorders d') :
      ((inquire root t v).run d').map told = ((inquire root t v).run d).map told := by
    rcases h.run_inquire root t v with ⟨f, hrun, hrun'⟩ | ⟨hrun, hrun'⟩
    · rw [hrun, hrun']
    · rw [hrun, hrun']
      exact congrArg Except.ok (hs.told_eq h)
  refine ⟨⟨fun h => ?_, htold⟩, fun hs d' h => run_version_congr h (htold hs d' h),
    Disk.settled_of_isText, fun d' h => ?_⟩
  · -- If the directory cannot be listed it has no files, and nothing is left to any order.
    rcases hlisting : d.names ((root.child t).child v) with error | names
    · rw [Disk.files_eq_nil hlisting]
      exact Disk.settled_of_inj nofun
    · refine Disk.settled_of_told_eq (pathOf t v) fun d' h' => ?_
      have hsame := h d' h'
      rcases h'.run_inquire root t v with ⟨f, hrun, -⟩ | ⟨hrun, hrun'⟩
      · rw [run_inquire_of_names hlisting] at hrun
        cases hrun
      · rw [hrun, hrun'] at hsame
        exact Except.ok.inj hsame
  · rcases h.run_inquire root t v with ⟨f, hrun, hrun'⟩ | ⟨hrun, hrun'⟩
    · rw [hrun, hrun']
    · rw [hrun, hrun']
      show Except.ok ((d'.icon? _).map _) = Except.ok ((d.icon? _).map _)
      rw [h.icon?]

/-- The names in the drawer are texts, so a lookup gives the same detail when they are listed the
    other way round. -/
theorem repeated_drawer :
    Disk.drawer.reversed.names (.ofString "shelf/mysql/1") = .ok Disk.drawerNames.reverse ∧
      (Snapshot.empty.version (.ofString "shelf") "mysql" "1").run Disk.drawer.reversed =
        (Snapshot.empty.version (.ofString "shelf") "mysql" "1").run Disk.drawer := by
  obtain ⟨-, hlookup, htexts, -⟩ := repeated_iff Disk.drawer (.ofString "shelf") "mysql" "1"
  refine ⟨rfl, hlookup (htexts fun names hnames => ?_) _ Disk.reorders_reversed _⟩
  cases hnames
  decide +kernel

end Contents

/-! ## Names that are none -/

/-- A disk with a version whose two configuration files are shown alike. -/
def Disk.rivals : Disk :=
  holding [Text.encode "config.yml" ++ [0xFE], Text.encode "config.yml" ++ [0xFF]] fun l =>
    if l = ⟨Text.encode "shelf/mysql/1/config.yml" ++ [0xFE]⟩ then .ok (Text.encode "name: First")
    else if l = ⟨Text.encode "shelf/mysql/1/config.yml" ++ [0xFF]⟩ then
      .ok (Text.encode "name: Second")
    else .error .isDirectory

/-- What is read last of files that are listed in ascending order is the configuration. -/
theorem Disk.config?_of_names {d : Disk} {dir : Location} {names : List Bytes}
    (h : d.names dir = .ok names)
    (hs : (d.listed dir names).Pairwise fun a b => a.name ≤ b.name) :
    d.config? dir = ((d.listed dir names).filterMap fun e =>
      if e.begins "config.yml" then d.configIn? e.location else none).getLast? := by
  rw [config?_eq, (inOrder_files h).eq_listed hs]

/-- Which of the rivals is adopted is left to the order in which they are listed, in the contents of
    the version and in its detail. -/
theorem Contents.repeated_rivals :
    Disk.rivals.Reorders Disk.rivals.reversed ∧
      (∃ c c', (inquire (.ofString "shelf") "mysql" "1").run Disk.rivals = .ok c ∧
        (inquire (.ofString "shelf") "mysql" "1").run Disk.rivals.reversed = .ok c' ∧
        c.config = some ⟨some "Second", none, none, none⟩ ∧
        c'.config = some ⟨some "First", none, none, none⟩) ∧
      ∃ detail detail',
        (Snapshot.empty.version (.ofString "shelf") "mysql" "1").run Disk.rivals = .ok detail ∧
        (Snapshot.empty.version (.ofString "shelf") "mysql" "1").run Disk.rivals.reversed =
          .ok detail' ∧
        detail.name = "Second" ∧ detail'.name = "First" := by
  have hsecond : Disk.rivals.config? (((Location.ofString "shelf").child "mysql").child "1") =
      some ⟨some "Second", none, none, none⟩ := by
    rw [Disk.config?_of_names rfl (by decide +kernel)]
    decide +kernel
  have hfirst : Disk.rivals.reversed.config?
      (((Location.ofString "shelf").child "mysql").child "1") =
      some ⟨some "First", none, none, none⟩ := by
    rw [Disk.config?_of_names rfl (by decide +kernel)]
    decide +kernel
  refine ⟨Disk.reorders_reversed, ⟨_, _, run_inquire_of_names rfl, run_inquire_of_names rfl,
    hsecond, hfirst⟩, _, _,
    Version.run_version_of_names (by decide) (by decide) (by decide) rfl _,
    Version.run_version_of_names (by decide) (by decide) (by decide) rfl _, ?_, ?_⟩
  · show ((Disk.rivals.config? _).getD _).name.getD "" = _
    rw [hsecond]
    rfl
  · show ((Disk.rivals.reversed.config? _).getD _).name.getD "" = _
    rw [hfirst]
    rfl

end TemplateCatalog
