import TemplateCatalog.Proofs.Catalog.WellFormed

/-!
# Files that a version adopts

The files in the directory of a version are taken in ascending order of their names. Of the
files of one kind the last that gives something is adopted (`LastGives`), so one that fails
never takes away what an earlier one gave:

* the configuration is that of the last configuration file that can be read and parsed;
* the icon is the last of its kind, whatever is in it;
* the deployment manifest is the last that is a text, byte by byte.

Nothing else in the directory counts: two directories that hold the same files of a kind adopt
the same of it (`Contents.Heedless`).
-/

namespace TemplateCatalog

/-! ## The last that gives something -/

/-- The last member of a list that gives anything gives `b`. -/
def LastGives {α β : Type} (gives : α → β → Prop) (l : List α) (b : β) : Prop :=
  ∃ before a after, l = before ++ a :: after ∧ gives a b ∧ ∀ a' ∈ after, ∀ b', ¬ gives a' b'

section LastGives

variable {α β : Type} {gives : α → β → Prop} {read : α → Option β} {l : List α}

/-- What is read last is what the last member gives that gives anything. -/
theorem getLast?_filterMap_eq_some (h : ∀ a b, read a = some b ↔ gives a b) {b : β} :
    (l.filterMap read).getLast? = some b ↔ LastGives gives l b := by
  constructor
  · intro hlast
    obtain ⟨earlier, heq⟩ := List.getLast?_eq_some_iff.1 hlast
    obtain ⟨before, rest, rfl, -, hrest⟩ := List.filterMap_eq_append_iff.1 heq
    obtain ⟨idle, a, after, rfl, -, ha, hafter⟩ := List.filterMap_eq_cons_iff.1 hrest
    refine ⟨before ++ idle, a, after, (List.append_assoc ..).symm, (h a b).1 ha, ?_⟩
    intro a' ha' b' hb'
    have hnone := List.filterMap_eq_nil_iff.1 hafter a' ha'
    rw [(h a' b').2 hb'] at hnone
    cases hnone
  · rintro ⟨before, a, after, rfl, ha, hafter⟩
    have hnone : after.filterMap read = [] :=
      List.filterMap_eq_nil_iff.2 fun a' ha' =>
        Option.eq_none_iff_forall_ne_some.2 fun b' hb' => hafter a' ha' b' ((h a' b').1 hb')
    rw [List.filterMap_append, List.filterMap_cons, (h a b).2 ha, hnone]
    exact List.getLast?_concat

/-- Nothing is read exactly if no member gives anything. -/
theorem getLast?_filterMap_eq_none (h : ∀ a b, read a = some b ↔ gives a b) :
    (l.filterMap read).getLast? = none ↔ ∀ a ∈ l, ∀ b, ¬ gives a b := by
  rw [List.getLast?_eq_none_iff, List.filterMap_eq_nil_iff]
  refine forall_congr' fun a => forall_congr' fun _ => ?_
  rw [Option.eq_none_iff_forall_ne_some]
  exact forall_congr' fun b => not_congr (h a b)

end LastGives

/-! ## Entries in order -/

namespace Entry

/-- Entries in ascending order of the names that are shown; those that are shown alike stay in
    the order in which they were listed. -/
structure InOrder (listed entries : List Entry) : Prop where
  same : entries.Perm listed
  ascending : entries.Pairwise fun a b => a.name ≤ b.name
  alike : ∀ name, (entries.filter fun e => e.name = name) = listed.filter fun e => e.name = name

theorem inOrder_sorted (entries : List Entry) : InOrder entries (sorted entries) where
  same := List.mergeSort_perm ..
  ascending := pairwise_sorted entries
  alike name := by
    -- Those of one name are sorted already, so sorting leaves them as they are.
    have hsorted : (entries.filter fun e => e.name = name).Pairwise fun a b =>
        decide (a.name ≤ b.name) = true := by
      refine List.pairwise_of_forall_mem_list fun a ha b hb => decide_eq_true ?_
      have ha : a.name = name := of_decide_eq_true (List.mem_filter.1 ha).2
      have hb : b.name = name := of_decide_eq_true (List.mem_filter.1 hb).2
      exact ha ▸ hb ▸ String.le_refl name
    have hsub : (entries.filter fun e => e.name = name).Sublist (sorted entries) :=
      List.sublist_mergeSort decide_name_le_trans decide_name_le_total hsorted List.filter_sublist
    have hperm : (sorted entries).Perm entries := List.mergeSort_perm ..
    have hkept := hsub.filter fun e => decide (e.name = name)
    rw [List.filter_filter] at hkept
    simp only [Bool.and_self] at hkept
    exact (hkept.eq_of_length (hperm.filter _).length_eq.symm).symm

/-- Of two lists that agree on the entries of each name, the one in order begins no later. -/
theorem name_le_of_alike {a b : Entry} {l l' : List Entry}
    (h : ((a :: l).filter fun e => e.name = a.name) = (b :: l').filter fun e => e.name = a.name)
    (hs : (b :: l').Pairwise fun a b => a.name ≤ b.name) : b.name ≤ a.name := by
  have ha : a ∈ (a :: l).filter fun e => e.name = a.name :=
    List.mem_filter.2 ⟨List.mem_cons_self, decide_eq_true rfl⟩
  rw [h] at ha
  rcases List.mem_cons.1 (List.mem_filter.1 ha).1 with rfl | hmem
  · exact String.le_refl _
  · exact (List.pairwise_cons.1 hs).1 a hmem

/-- Lists in order that agree on the entries of each name are equal. -/
theorem eq_of_alike {l l' : List Entry} (hs : l.Pairwise fun a b => a.name ≤ b.name)
    (hs' : l'.Pairwise fun a b => a.name ≤ b.name)
    (h : ∀ name, (l.filter fun e => e.name = name) = l'.filter fun e => e.name = name) :
    l = l' := by
  induction l generalizing l' with
  | nil =>
    cases l' with
    | nil => rfl
    | cons b l' => simpa using h b.name
  | cons a l ih =>
    cases l' with
    | nil => simpa using h a.name
    | cons b l' =>
      -- The first of both are first in order, so they have one name, and with it they agree.
      have hname : b.name = a.name :=
        String.le_antisymm (name_le_of_alike (h a.name) hs') (name_le_of_alike (h b.name).symm hs)
      have hhead := h a.name
      rw [List.filter_cons, List.filter_cons, if_pos (decide_eq_true rfl),
        if_pos (decide_eq_true hname)] at hhead
      obtain ⟨rfl, -⟩ := List.cons.inj hhead
      refine congrArg _ (ih (List.pairwise_cons.1 hs).2 (List.pairwise_cons.1 hs').2 fun name => ?_)
      have htail := h name
      rw [List.filter_cons, List.filter_cons] at htail
      split at htail
      · exact (List.cons.inj htail).2
      · exact htail

/-- There is one such order. -/
theorem InOrder.unique {listed entries entries' : List Entry} (h : InOrder listed entries)
    (h' : InOrder listed entries') : entries = entries' :=
  eq_of_alike h.ascending h'.ascending fun name => (h.alike name).trans (h'.alike name).symm

/-- Entries that are listed in ascending order stay in it. -/
theorem InOrder.eq_listed {listed entries : List Entry} (h : InOrder listed entries)
    (hs : listed.Pairwise fun a b => a.name ≤ b.name) : entries = listed :=
  h.unique ⟨.refl _, hs, fun _ => rfl⟩

/-- Entries whose names ascend strictly are the order of whatever they are listed as. -/
theorem InOrder.eq_of_lt {listed entries expected : List Entry} (h : InOrder listed entries)
    (hperm : expected.Perm listed) (hs : expected.Pairwise fun a b => a.name < b.name) :
    entries = expected := by
  have hsame : entries.Perm expected := h.same.trans hperm.symm
  have hdistinct : (expected.map (·.name)).Nodup :=
    List.pairwise_map.2 (hs.imp fun hlt => String.ne_of_lt hlt)
  have hle : expected.Pairwise fun a b => a.name ≤ b.name := hs.imp fun hlt => Std.le_of_lt hlt
  refine hsame.eq_of_pairwise (fun a b ha hb hab hba => ?_) h.ascending hle
  exact List.inj_on_of_nodup_map hdistinct (hsame.mem_iff.1 ha) hb (String.le_antisymm hab hba)

/-- What is kept of entries in order is what is kept of them, in order. -/
theorem InOrder.filter {listed entries : List Entry} (h : InOrder listed entries)
    (keep : Entry → Bool) : InOrder (listed.filter keep) (entries.filter keep) where
  same := h.same.filter keep
  ascending := h.ascending.filter keep
  alike name := by
    rw [List.filter_filter, List.filter_filter]
    simp only [Bool.and_comm _ (keep _)]
    rw [← List.filter_filter, ← List.filter_filter, h.alike]

/-- Of entries in order one can be taken away where it was listed. Those that are shown alike
    come after it if they were listed after it. -/
theorem InOrder.split {l l' files : List Entry} {e : Entry}
    (h : InOrder (l ++ e :: l') files) :
    ∃ before after, files = before ++ e :: after ∧ InOrder (l ++ l') (before ++ after) ∧
      (after.filter fun a => a.name = e.name) = l'.filter fun a => a.name = e.name := by
  have hkept (rest : List Entry) : (e :: rest).filter (fun a => a.name = e.name) =
      e :: rest.filter fun a => a.name = e.name := List.filter_cons_of_pos (decide_eq_true rfl)
  -- Where the entry comes is found among those that are shown like it.
  have halike := h.alike e.name
  rw [List.filter_append, hkept, List.filter_eq_append_iff] at halike
  obtain ⟨first, rest, rfl, hfirst, hrest⟩ := halike
  obtain ⟨between, after, rfl, hbetween, -, hafter⟩ := List.filter_eq_cons_iff.1 hrest
  rw [← List.append_assoc] at h ⊢
  refine ⟨first ++ between, after, rfl, ⟨?_, ?_, fun name => ?_⟩, hafter⟩
  · exact (List.perm_cons e).1
      (List.perm_middle.symm.trans (h.same.trans List.perm_middle))
  · exact h.ascending.sublist ((List.sublist_cons_self e after).append_left _)
  · by_cases hname : name = e.name
    · have hnone : between.filter (fun a => a.name = e.name) = [] :=
        List.filter_eq_nil_iff.2 hbetween
      rw [hname, List.filter_append, List.filter_append, hfirst, hnone, hafter, List.append_nil,
        List.filter_append]
    · have hgone (rest : List Entry) : (e :: rest).filter (fun a => a.name = name) =
          rest.filter fun a => a.name = name :=
        List.filter_cons_of_neg fun heq => hname (of_decide_eq_true heq).symm
      have hothers := h.alike name
      simp only [List.filter_append, hgone] at hothers ⊢
      exact hothers

end Entry

/-! ## What is in a file -/

/-- A file has a text exactly if its content is that text, byte by byte. -/
theorem fileText_eq_ok {content : Except DiskError Bytes} {text : String} :
    fileText content = .ok text ↔ content = .ok (Text.encode text) := by
  cases content with
  | error e => exact ⟨nofun, nofun⟩
  | ok bytes =>
    rw [fileText, Except.ok.injEq, eq_comm (a := bytes), ← Text.decode?_eq_some]
    cases Text.decode? bytes with
    | none => exact ⟨nofun, nofun⟩
    | some s => rw [Except.ok.injEq, Option.some.injEq]

/-- A file holds a configuration exactly if it is a text that holds one. -/
theorem Config.ofFile_eq_ok (file : Location) {content : Except DiskError Bytes} {c : Config} :
    ofFile file content = .ok c ↔
      ∃ text, content = .ok (Text.encode text) ∧ ofText text = .ok c := by
  simp only [← fileText_eq_ok, ofFile]
  cases fileText content with
  | error e => simp
  | ok text =>
    simp only [Except.ok.injEq, exists_eq_left']
    cases ofText text with
    | error f => simp
    | ok c' => simp

/-- A file is an icon of this name. -/
def Entry.IconNamed (e : Entry) (name : String) : Prop :=
  e.begins "catalogIcon" = true ∧ e.name = name

/-- What is read of an icon. -/
theorem Entry.icon_eq_some {e : Entry} {name : String} :
    (if e.begins "catalogIcon" then some e.name else none) = some name ↔ e.IconNamed name := by
  rw [Option.ite_none_right_eq_some, Option.some_inj, IconNamed]

namespace Disk

variable (d : Disk)

/-- A file is a configuration file that can be read and parsed as this configuration. -/
def ConfigIn (e : Entry) (c : Config) : Prop :=
  e.begins "config.yml" = true ∧
    ∃ text, d.content e.location = .ok (Text.encode text) ∧ Config.ofText text = .ok c

/-- A file is a deployment manifest of this text. -/
def DeploymentIn (e : Entry) (text : String) : Prop :=
  e.begins "docker-compose" = true ∧ d.content e.location = .ok (Text.encode text)

/-- The files of a directory with these names, as the disk lists them. Links are followed. -/
def listed (dir : Location) (names : List Bytes) : List Entry :=
  (names.map (d.entry dir)).filter fun e => !e.isDirectory

/-- Those of one kind among them. -/
def listedOf (dir : Location) (names : List Bytes) (stem : String) : List Entry :=
  (d.listed dir names).filter fun e => e.begins stem

/-- The text of a deployment manifest, if it has one. -/
def deployment? (e : Entry) : Option String :=
  if e.begins "docker-compose" then (d.textIn? e).map (·.2) else none

variable {d} {dir : Location} {names : List Bytes}

/-- What is read of a configuration file. -/
theorem configIn?_eq_some {e : Entry} {c : Config} :
    (if e.begins "config.yml" then d.configIn? e.location else none) = some c ↔ d.ConfigIn e c := by
  rw [Option.ite_none_right_eq_some, ConfigIn, ← Config.ofFile_eq_ok e.location, configIn?]
  refine and_congr_right fun _ => ?_
  cases Config.ofFile e.location (d.content e.location) <;> simp [Except.toOption]

/-- What is read of a deployment manifest. -/
theorem deployment?_eq_some {e : Entry} {text : String} :
    d.deployment? e = some text ↔ d.DeploymentIn e text := by
  rw [deployment?, Option.ite_none_right_eq_some, DeploymentIn, ← fileText_eq_ok, textIn?]
  refine and_congr_right fun _ => ?_
  cases fileText (d.content e.location) <;> simp [Except.toOption]

/-- The configuration of a directory is what is read last of its files. -/
theorem config?_eq : d.config? dir = ((d.files dir).filterMap fun e =>
    if e.begins "config.yml" then d.configIn? e.location else none).getLast? := by
  rw [config?, filesOf, List.filterMap_filter]

/-- So is the deployment manifest. -/
theorem deployment?_eq :
    d.manifest? dir "docker-compose" = ((d.files dir).filterMap d.deployment?).getLast? := by
  rw [manifest?, manifestEntry?, ← List.getLast?_map, List.map_filterMap, filesOf,
    List.filterMap_filter]
  rfl

/-- And the icon. -/
theorem icon?_eq : d.icon? dir = ((d.files dir).filterMap fun e =>
    if e.begins "catalogIcon" then some e.name else none).getLast? := by
  rw [icon?, filesOf, ← List.getLast?_map, ← List.filterMap_eq_map', List.filterMap_filter]

/-- The files of a directory are those that are listed, in order. -/
theorem inOrder_files (h : d.names dir = .ok names) :
    Entry.InOrder (d.listed dir names) (d.files dir) := by
  have hentries : d.entries dir = .ok (Entry.sorted (names.map (d.entry dir))) := by
    rw [entries, h]
    rfl
  rw [files, hentries]
  exact (Entry.inOrder_sorted _).filter _

theorem mem_files_iff (h : d.names dir = .ok names) {e : Entry} :
    e ∈ d.files dir ↔
      ∃ name ∈ names, d.entry dir name = e ∧ d.isDirectory (dir.join name) = false := by
  rw [(inOrder_files h).same.mem_iff, listed, List.mem_filter, List.mem_map, Bool.not_eq_true']
  constructor
  · rintro ⟨⟨name, hname, rfl⟩, hfile⟩
    exact ⟨name, hname, rfl, hfile⟩
  · rintro ⟨name, hname, rfl, hfile⟩
    exact ⟨⟨name, hname, rfl⟩, hfile⟩

/-- A directory that cannot be listed has no files. -/
theorem files_eq_nil {error : DiskError} (h : d.names dir = .error error) : d.files dir = [] := by
  rw [files, entries, h]
  rfl

/-- The files of a kind depend only on the listed files of that kind. -/
theorem filesOf_congr {d' : Disk} {names' : List Bytes} {stem : String}
    (h : d.names dir = .ok names)
    (h' : d'.names dir = .ok names')
    (hsame : d'.listedOf dir names' stem = d.listedOf dir names stem) :
    d'.filesOf dir stem = d.filesOf dir stem := by
  have horder := (inOrder_files h').filter fun e => e.begins stem
  have horder' := (inOrder_files h).filter fun e => e.begins stem
  rw [← listedOf, hsame] at horder
  exact horder.unique horder'

end Disk

namespace Contents

/-- Contents adopt, of the files of a version, the last of each kind that gives something. -/
structure Adopts (d : Disk) (t v : String) (files : List Entry) (c : Contents) : Prop where
  /-- The configuration is that of the last configuration file that could be read and parsed. -/
  config : ∀ config, c.config = some config ↔ LastGives d.ConfigIn files config
  noConfig : c.config = none ↔ ∀ e ∈ files, ∀ config, ¬ d.ConfigIn e config
  /-- The icon is the last, by its path. -/
  icon : ∀ path, c.iconPath = some path ↔
    ∃ name, path = t ++ "/" ++ v ++ "/" ++ name ∧ LastGives Entry.IconNamed files name
  noIcon : c.iconPath = none ↔ ∀ e ∈ files, e.begins "catalogIcon" = false
  /-- The deployment manifest is the last that is a text. -/
  deployment : ∀ text, c.dockerManifest = some text ↔ LastGives d.DeploymentIn files text
  noDeployment : c.dockerManifest = none ↔ ∀ e ∈ files, ∀ text, ¬ d.DeploymentIn e text

/-- Contents of a directory with these names are the same on another disk, or at another time,
    as far as the files of a kind are: directories and files of other kinds may come and go, and
    have any content. -/
structure Heedless (d d' : Disk) (dir : Location) (names names' : List Bytes) (c c' : Contents) :
    Prop where
  config : d'.listedOf dir names' "config.yml" = d.listedOf dir names "config.yml" →
    (∀ e ∈ d.listedOf dir names "config.yml", d'.content e.location = d.content e.location) →
    c'.config = c.config
  /-- The content of an icon does not count. -/
  icon : d'.listedOf dir names' "catalogIcon" = d.listedOf dir names "catalogIcon" →
    c'.iconPath = c.iconPath
  deployment : d'.listedOf dir names' "docker-compose" = d.listedOf dir names "docker-compose" →
    (∀ e ∈ d.listedOf dir names "docker-compose", d'.content e.location = d.content e.location) →
    c'.dockerManifest = c.dockerManifest

section

variable {d d' : Disk} {dir : Location} {names names' : List Bytes} {t v path : String}

/-- The contents of a directory adopt the last of each kind among its files. -/
theorem adopts_contents (d : Disk) (dir : Location) (t v : String) :
    (d.contents dir (pathOf t v)).Adopts d t v (d.files dir) := by
  refine
    { config := fun config => ?_
      noConfig := ?_
      icon := fun path => ?_
      noIcon := ?_
      deployment := fun text => ?_
      noDeployment := ?_ }
  · rw [Disk.contents, Disk.config?_eq]
    exact getLast?_filterMap_eq_some fun _ _ => Disk.configIn?_eq_some
  · rw [Disk.contents, Disk.config?_eq]
    exact getLast?_filterMap_eq_none fun _ _ => Disk.configIn?_eq_some
  · rw [Disk.contents, Option.map_eq_some_iff]
    refine exists_congr fun name => ?_
    rw [Disk.icon?_eq, getLast?_filterMap_eq_some fun _ _ => Entry.icon_eq_some, and_comm]
    exact and_congr_left fun _ => eq_comm
  · rw [Disk.contents, Option.map_eq_none_iff, Disk.icon?_eq,
      getLast?_filterMap_eq_none fun _ _ => Entry.icon_eq_some]
    refine forall_congr' fun e => forall_congr' fun _ => ?_
    simp [Entry.IconNamed]
  · rw [Disk.contents, Disk.deployment?_eq]
    exact getLast?_filterMap_eq_some fun _ _ => Disk.deployment?_eq_some
  · rw [Disk.contents, Disk.deployment?_eq]
    exact getLast?_filterMap_eq_none fun _ _ => Disk.deployment?_eq_some

/-- The contents of a directory depend only on the files of each kind. -/
theorem heedless_contents (h : d.names dir = .ok names) (h' : d'.names dir = .ok names') :
    Heedless d d' dir names names' (d.contents dir path) (d'.contents dir path) := by
  -- The files that are read are among those that are listed.
  have hmem {stem : String} {e : Entry} (he : e ∈ d.filesOf dir stem) :
      e ∈ d.listedOf dir names stem :=
    ((Disk.inOrder_files h).filter fun e => e.begins stem).same.mem_iff.1 he
  refine ⟨fun hsame hcontent => ?_, fun hsame => ?_, fun hsame hcontent => ?_⟩
  · have hread (e : Entry) (he : e ∈ d.filesOf dir "config.yml") :
        d'.configIn? e.location = d.configIn? e.location := by
      rw [Disk.configIn?, Disk.configIn?, hcontent e (hmem he)]
    change d'.config? dir = d.config? dir
    rw [Disk.config?, Disk.config?, Disk.filesOf_congr h h' hsame, List.filterMap_congr hread]
  · change (d'.icon? dir).map _ = (d.icon? dir).map _
    rw [Disk.icon?, Disk.icon?, Disk.filesOf_congr h h' hsame]
  · have hread (e : Entry) (he : e ∈ d.filesOf dir "docker-compose") :
        d'.textIn? e = d.textIn? e := by
      rw [Disk.textIn?, Disk.textIn?, hcontent e (hmem he)]
    change d'.manifest? dir "docker-compose" = d.manifest? dir "docker-compose"
    rw [Disk.manifest?, Disk.manifest?, Disk.manifestEntry?, Disk.manifestEntry?,
      Disk.filesOf_congr h h' hsame, List.filterMap_congr hread]

/-- What is found in a directory that can be listed. -/
theorem run_inquire_of_names {root : Location} (h : d.names ((root.child t).child v) = .ok names) :
    (inquire root t v).run d = .ok (d.contents ((root.child t).child v) (pathOf t v)) := by
  obtain ⟨entries, hentries⟩ := Disk.exists_entries.2 ⟨names, h⟩
  rw [run_inquire, hentries]

end

/-- **Adoption**: whenever the directory of a version can be listed, its contents are found; they
    adopt the last of each kind that gives something, among its files in ascending order of their
    names; and nothing else in the directory ever counts. -/
theorem adoption {d : Disk} {root : Location} {t v : String} {names : List Bytes}
    (h : d.names ((root.child t).child v) = .ok names) :
    ∃ c files, (inquire root t v).run d = .ok c ∧
      Entry.InOrder (d.listed ((root.child t).child v) names) files ∧ c.Adopts d t v files ∧
      ∀ (d' : Disk) (names' : List Bytes), d'.names ((root.child t).child v) = .ok names' →
        ∃ c', (inquire root t v).run d' = .ok c' ∧
          Heedless d d' ((root.child t).child v) names names' c c' :=
  ⟨_, _, run_inquire_of_names h, Disk.inOrder_files h, adopts_contents ..,
    fun _ _ h' => ⟨_, run_inquire_of_names h', heedless_contents h h'⟩⟩

end Contents

/-- What is in the directory of a version, in no order. -/
def Disk.jumbleNames : List Bytes :=
  [Text.encode "docker-compose" ++ [0xFF], Text.encode "config.yml.d",
    Text.encode "config.yml.old", Text.encode "catalogIcon.svg", Text.encode "README",
    Text.encode "docker-compose", Text.encode "config.yml", Text.encode "catalogIcon.png"]

/-- A disk with that version. Of each kind that is read the last file is no text, and so is the
    name of the last deployment manifest. -/
def Disk.jumble : Disk
  | .isDirectory l => l ∈ [Location.ofString "shelf", .ofString "shelf/mysql",
      .ofString "shelf/mysql/1", .ofString "shelf/mysql/1/config.yml.d"]
  | .isPresent _ => true
  | .names l =>
    if l = .ofString "shelf" then .ok [Text.encode "mysql"]
    else if l = .ofString "shelf/mysql" then .ok [Text.encode "1"]
    else if l = .ofString "shelf/mysql/1" then .ok jumbleNames
    else .error .notDirectory
  | .content l =>
    if l = .ofString "shelf/mysql/1/config.yml" then .ok (Text.encode "name: MySQL")
    else if l = .ofString "shelf/mysql/1/docker-compose" then .ok (Text.encode "web:")
    else .ok [0xFF]

/-- The files of that version, in order. -/
def Disk.jumbleFiles : List Entry :=
  [⟨"README", .ofString "shelf/mysql/1/README", false⟩,
    ⟨"catalogIcon.png", .ofString "shelf/mysql/1/catalogIcon.png", false⟩,
    ⟨"catalogIcon.svg", .ofString "shelf/mysql/1/catalogIcon.svg", false⟩,
    ⟨"config.yml", .ofString "shelf/mysql/1/config.yml", false⟩,
    ⟨"config.yml.old", .ofString "shelf/mysql/1/config.yml.old", false⟩,
    ⟨"docker-compose", .ofString "shelf/mysql/1/docker-compose", false⟩,
    ⟨"docker-compose\uFFFD", ⟨Text.encode "shelf/mysql/1/docker-compose" ++ [0xFF]⟩, false⟩]

theorem Disk.jumble_inOrder {names : List Bytes} {files : List Entry}
    (h : Disk.jumble.names (((Location.ofString "shelf").child "mysql").child "1") = .ok names)
    (hfiles : Entry.InOrder
      (Disk.jumble.listed (((Location.ofString "shelf").child "mysql").child "1") names) files) :
    files = jumbleFiles := by
  cases h
  exact hfiles.eq_of_lt (by decide +kernel) (by decide +kernel)

/-- In the jumble the files that are no texts take nothing away from those before them. -/
theorem Contents.adoption_jumble :
    ∃ c, (inquire (.ofString "shelf") "mysql" "1").run Disk.jumble = .ok c ∧
      c.config = some ⟨some "MySQL", none, none, none⟩ ∧
      c.iconPath = some "mysql/1/catalogIcon.svg" ∧ c.dockerManifest = some "web:" := by
  obtain ⟨c, files, hrun, horder, hadopts, -⟩ :=
    @adoption Disk.jumble (.ofString "shelf") "mysql" "1" _ rfl
  obtain rfl := Disk.jumble_inOrder rfl horder
  refine ⟨c, hrun, (hadopts.config _).2 ?_, (hadopts.icon _).2 ⟨"catalogIcon.svg", by decide, ?_⟩,
    (hadopts.deployment _).2 ?_⟩
  · refine (getLast?_filterMap_eq_some fun _ _ => Disk.configIn?_eq_some).1 ?_
    decide +kernel
  · refine (getLast?_filterMap_eq_some fun _ _ => Entry.icon_eq_some).1 ?_
    decide +kernel
  · refine (getLast?_filterMap_eq_some fun _ _ => Disk.deployment?_eq_some).1 ?_
    decide +kernel

end TemplateCatalog
