import TemplateCatalog.CommandLine.Program
import TemplateCatalog.Proofs.CommandLine.Console
import TemplateCatalog.Proofs.Decoding.Record
import TemplateCatalog.Proofs.Service.Startup
import TemplateCatalog.Proofs.Template.Complaint
import TemplateCatalog.Proofs.Toml.Document

/-!
# Settings in layers

Settings are made of three layers, the command line over a file over the defaults, and each
setting comes from the uppermost layer that has it (`Uppermost`), whatever the others do. Only what
comes out of all layers is checked, so a setting that is covered is not looked at, unless the file
cannot be read as one at all.

* `Settings.exists_ofEntries_iff`: which files can be read as settings;
* `Settings.Layered`: settings told layer by layer;
* `Settings.layered_merge`: merging puts one more layer on top, field by field;
* `Invocation.Refused`: the ways in which an invocation gets no settings, in turn;
* `Invocation.layering`: what comes of an invocation is one of the two.
-/

namespace TemplateCatalog

open Decoding Yaml

/-! ## What a file gives -/

/-- A field after some entries: what the entry of its name holds, or what it was before. -/
inductive Entered {α : Type} (read : Value → Except Mistake α) (name : String)
    (entries : List (String × Value)) (before : α) : α → Prop
  | entry {a : α} {v : Value} : (name, v) ∈ entries → read v = .ok a →
    Entered read name entries before a
  | absent : (∀ v, (name, v) ∉ entries) → Entered read name entries before before

section

variable {α : Type} {read : Value → Except Mistake α} {name key : String} {v : Value}
  {rest : List (String × Value)} {before mid after : α}

/-- What an entry of a key does to the field of a name. -/
def entering (read : Value → Except Mistake α) (name key : String) (v : Value) (before : α) :
    Except Mistake α :=
  if key = name then read v else .ok before

/-- One more entry is entered before the rest, which have other keys. -/
theorem Entered.cons (hkey : key ∉ rest.map (·.1)) (h : entering read name key v before = .ok mid)
    (hrest : Entered read name rest mid after) :
    Entered read name ((key, v) :: rest) before after := by
  rw [entering] at h
  split at h
  · next heq =>
    obtain rfl := heq
    cases hrest with
    | entry hmem => exact absurd (List.mem_map_of_mem hmem) hkey
    | absent => exact .entry List.mem_cons_self h
  · next hne =>
    cases h
    cases hrest with
    | entry hmem hread => exact .entry (List.mem_cons_of_mem _ hmem) hread
    | absent hnone =>
      refine .absent fun v' hmem => ?_
      rcases List.mem_cons.1 hmem with heq | hmem
      · exact hne (congrArg Prod.fst heq).symm
      · exact hnone v' hmem

/-- A field comes to another value than before exactly if the entry of its name holds that. -/
theorem Entered.eq_iff {entries : List (String × Value)} (hkeys : (entries.map (·.1)).Nodup)
    (h : Entered read name entries before after) {a : α} (ha : a ≠ before) :
    after = a ↔ ∃ v, (name, v) ∈ entries ∧ read v = .ok a := by
  cases h with
  | entry hmem hread =>
    constructor
    · rintro rfl
      exact ⟨_, hmem, hread⟩
    · rintro ⟨v', hmem', hread'⟩
      cases List.inj_on_of_nodup_map hkeys hmem hmem' rfl
      exact Except.ok.inj (hread.symm.trans hread')
  | absent hnone => exact iff_of_false ha.symm fun ⟨v', hmem', _⟩ => hnone v' hmem'

end

namespace Settings

variable {s s' : Settings} {key : String} {v : Value} {entries : List (String × Value)}

/-- A value that the entry of a name may have; an entry that names no setting may have any. -/
def Takes (name : String) (v : Value) : Prop :=
  match name with
  | "catalog_url" => ∃ a, optional textOf v = .ok a
  | "refresh_interval" => ∃ a, wordOf v = .ok a
  | "data_dir" => ∃ a, locationOf v = .ok a
  | "templates_dir" => ∃ a, locationOf v = .ok a
  | "branch" => ∃ a, optional textOf v = .ok a
  | "git_timeout" => ∃ a, wordOf v = .ok a
  | "log_file" => ∃ a, optional locationOf v = .ok a
  | "debug" => ∃ a, boolOf v = .ok a
  | _ => True

/-- An entry is set exactly if its value is one that it may have. -/
theorem exists_set_iff (s : Settings) : (∃ s', s.set key v = .ok s') ↔ Takes key v := by
  unfold set Takes
  split
  case h_9 => simp
  all_goals
    simp only [bind_pure_eq_ok]
    constructor
    · rintro ⟨_, a, ha, -⟩
      exact ⟨a, ha⟩
    · rintro ⟨a, ha⟩
      exact ⟨_, a, ha, rfl⟩

/-- Entries are read exactly if each has a value that it may have. -/
theorem exists_ofEntries_iff (s : Settings) :
    (∃ s', record.ofEntries s (entries.map fun e => (.string e.1, e.2)) = .ok s') ↔
      ∀ e ∈ entries, Takes e.1 e.2 := by
  induction entries generalizing s with
  | nil => exact iff_of_true ⟨s, rfl⟩ nofun
  | cons e rest ih =>
    rw [List.map_cons, List.forall_mem_cons, ← exists_set_iff s]
    simp only [Record.ofEntries_cons_eq_ok (k := .string e.1) rfl]
    constructor
    · rintro ⟨s', mid, hset, hrest⟩
      exact ⟨⟨mid, hset⟩, (ih mid).1 ⟨s', hrest⟩⟩
    · rintro ⟨⟨mid, hset⟩, hrest⟩
      obtain ⟨s', hs'⟩ := (ih mid).2 hrest
      exact ⟨s', mid, hset, hs'⟩

/-- What an entry does to each field of settings. -/
structure Enters (s : Settings) (key : String) (v : Value) (s' : Settings) : Prop where
  catalogUrl : entering (optional textOf) "catalog_url" key v s.catalogUrl = .ok s'.catalogUrl
  refreshInterval :
    entering wordOf "refresh_interval" key v s.refreshInterval = .ok s'.refreshInterval
  dataDir : entering locationOf "data_dir" key v s.dataDir = .ok s'.dataDir
  templatesDir : entering locationOf "templates_dir" key v s.templatesDir = .ok s'.templatesDir
  branch : entering (optional textOf) "branch" key v s.branch = .ok s'.branch
  gitTimeout : entering wordOf "git_timeout" key v s.gitTimeout = .ok s'.gitTimeout
  logFile : entering (optional locationOf) "log_file" key v s.logFile = .ok s'.logFile
  debug : entering boolOf "debug" key v s.debug = .ok s'.debug

theorem enters_of_set (h : s.set key v = .ok s') : s.Enters key v s' := by
  unfold set at h
  split at h
  -- A key that names no setting leaves all of them.
  case h_9 => constructor <;> simp_all [entering]
  all_goals
    obtain ⟨a, ha, rfl⟩ := bind_pure_eq_ok.1 h
    constructor <;> simp [entering, ha]

/-- A field is entered for itself, if each entry is. -/
theorem entered_of_ofEntries {α : Type} {read : Value → Except Mistake α} {name : String}
    (field : Settings → α)
    (hset : ∀ {s s' key v}, set s key v = .ok s' →
      entering read name key v (field s) = .ok (field s'))
    (hkeys : (entries.map (·.1)).Nodup)
    (h : record.ofEntries s (entries.map fun e => (.string e.1, e.2)) = .ok s') :
    Entered read name entries (field s) (field s') := by
  induction entries generalizing s with
  | nil =>
    obtain rfl : s = s' := Except.ok.inj h
    exact .absent nofun
  | cons e rest ih =>
    obtain ⟨hkey, hkeys⟩ := List.nodup_cons.1 hkeys
    obtain ⟨mid, hmid, hrest⟩ := (Record.ofEntries_cons_eq_ok (k := .string e.1) rfl).1 h
    exact (ih hkeys hrest).cons hkey (hset hmid)

end Settings

/-! ## Layers -/

/-- The value of a setting is that of the uppermost layer that has it: the command line, the entry
    of its name in a file, or the default. -/
inductive Uppermost {α : Type} (given : Option α) (read : Value → Except Mistake α) (name : String)
    (entries : List (String × Value)) (default : α) : α → Prop
  | given {a : α} : given = some a → Uppermost given read name entries default a
  | file {a : α} {v : Value} : given = none → (name, v) ∈ entries → read v = .ok a →
    Uppermost given read name entries default a
  | default : given = none → (∀ v, (name, v) ∉ entries) →
    Uppermost given read name entries default default

section

variable {α : Type} {given : Option α} {read : Value → Except Mistake α} {name : String}
  {entries : List (String × Value)} {default a b : α}

/-- What the command line gives comes over what a file does. -/
theorem Entered.uppermost (h : Entered read name entries default a) (given : Option α) :
    Uppermost given read name entries default (given.getD a) := by
  cases given with
  | some x => exact .given rfl
  | none =>
    cases h with
    | entry hmem hread => exact .file rfl hmem hread
    | absent hnone => exact .default rfl hnone

/-- The same for a setting that there may be none of. -/
theorem Entered.uppermost_or {read : Value → Except Mistake (Option α)} {default a : Option α}
    (h : Entered read name entries default a) (given : Option α) :
    Uppermost (given.map some) read name entries default (given.or a) := by
  cases given with
  | some x => exact h.uppermost (some (some x))
  | none => exact h.uppermost none

/-- There is one such value. -/
theorem Uppermost.unique (hkeys : (entries.map (·.1)).Nodup)
    (ha : Uppermost given read name entries default a)
    (hb : Uppermost given read name entries default b) : a = b := by
  cases ha with
  | given ha =>
    cases hb with
    | given hb => exact Option.some.inj (ha.symm.trans hb)
    | file hb => cases ha.symm.trans hb
    | default hb => cases ha.symm.trans hb
  | file ha hmem hread =>
    cases hb with
    | given hb => cases ha.symm.trans hb
    | file _ hmem' hread' =>
      cases List.inj_on_of_nodup_map hkeys hmem hmem' rfl
      exact Except.ok.inj (hread.symm.trans hread')
    | default _ hnone => exact absurd hmem (hnone _)
  | default ha hnone =>
    cases hb with
    | given hb => cases ha.symm.trans hb
    | file _ hmem => exact absurd hmem (hnone _)
    | default => rfl

/-- What the command line gives comes out. -/
theorem Uppermost.eq_of_given (h : Uppermost given read name entries default a)
    (hb : given = some b) : a = b := by
  cases h with
  | given ha => exact Option.some.inj (ha.symm.trans hb)
  | file ha => cases ha.symm.trans hb
  | default ha => cases ha.symm.trans hb

/-- What a file says counts only if the command line does not give the setting. -/
theorem Uppermost.congr {entries' : List (String × Value)}
    (h : given = none → ∀ v, (name, v) ∈ entries ↔ (name, v) ∈ entries')
    (ha : Uppermost given read name entries default a) :
    Uppermost given read name entries' default a := by
  cases ha with
  | given ha => exact .given ha
  | file hnone hmem hread => exact .file hnone ((h hnone _).1 hmem) hread
  | default hnone habsent => exact .default hnone fun v hmem => habsent v ((h hnone v).2 hmem)

end

/-- Nothing that a file says of a name comes out of the layers: the command line has the setting, or
    it is the name of none. -/
def Overrides.Covers (o : Overrides) (name : String) : Prop :=
  match name with
  | "catalog_url" => o.catalogUrl.isSome = true
  | "refresh_interval" => o.refreshInterval.isSome = true
  | "data_dir" => o.dataDir.isSome = true
  | "templates_dir" => o.templatesDir.isSome = true
  | "branch" => o.branch.isSome = true
  | "git_timeout" => o.gitTimeout.isSome = true
  | "log_file" => o.logFile.isSome = true
  | "debug" => o.debug = true
  | _ => True

namespace Settings

/-- Settings of a command line over those of a file over the defaults, each for itself. -/
structure Layered (entries : List (String × Value)) (o : Overrides) (s : Settings) : Prop where
  catalogUrl : Uppermost (o.catalogUrl.map some) (optional textOf) "catalog_url" entries none
    s.catalogUrl
  refreshInterval : Uppermost o.refreshInterval wordOf "refresh_interval" entries 60
    s.refreshInterval
  dataDir : Uppermost o.dataDir locationOf "data_dir" entries (.ofString "./DATA") s.dataDir
  templatesDir : Uppermost o.templatesDir locationOf "templates_dir" entries (.ofString "templates")
    s.templatesDir
  branch : Uppermost (o.branch.map some) (optional textOf) "branch" entries none s.branch
  gitTimeout : Uppermost o.gitTimeout wordOf "git_timeout" entries 300 s.gitTimeout
  logFile : Uppermost (o.logFile.map some) (optional locationOf) "log_file" entries none s.logFile
  /-- Debug output is on if any layer asks for it. -/
  debug : s.debug = true ↔ o.debug = true ∨ ∃ v, ("debug", v) ∈ entries ∧ boolOf v = .ok true

variable {s s' : Settings} {o : Overrides} {entries : List (String × Value)}

theorem Layered.unique (hkeys : (entries.map (·.1)).Nodup) (h : s.Layered entries o)
    (h' : s'.Layered entries o) : s = s' := by
  have hdebug : s.debug = s'.debug := Bool.eq_iff_iff.2 (h.debug.trans h'.debug.symm)
  rcases s with ⟨⟩
  rcases s' with ⟨⟩
  cases h.catalogUrl.unique hkeys h'.catalogUrl
  cases h.refreshInterval.unique hkeys h'.refreshInterval
  cases h.dataDir.unique hkeys h'.dataDir
  cases h.templatesDir.unique hkeys h'.templatesDir
  cases h.branch.unique hkeys h'.branch
  cases h.gitTimeout.unique hkeys h'.gitTimeout
  cases h.logFile.unique hkeys h'.logFile
  cases hdebug
  rfl

/-- Settings are the same layer by layer with another file that says the same of what is not
    covered. -/
theorem Layered.congr {entries' : List (String × Value)}
    (hsame : ∀ name, ¬ o.Covers name → ∀ v, (name, v) ∈ entries ↔ (name, v) ∈ entries')
    (h : s.Layered entries o) : s.Layered entries' o := by
  have hbare {α : Type} {given : Option α} (hnone : given = none) : ¬ given.isSome = true := by
    simp [hnone]
  refine
    { catalogUrl := h.catalogUrl.congr fun hnone =>
        hsame "catalog_url" (hbare (Option.map_eq_none_iff.1 hnone))
      refreshInterval := h.refreshInterval.congr fun hnone => hsame "refresh_interval" (hbare hnone)
      dataDir := h.dataDir.congr fun hnone => hsame "data_dir" (hbare hnone)
      templatesDir := h.templatesDir.congr fun hnone => hsame "templates_dir" (hbare hnone)
      branch := h.branch.congr fun hnone => hsame "branch" (hbare (Option.map_eq_none_iff.1 hnone))
      gitTimeout := h.gitTimeout.congr fun hnone => hsame "git_timeout" (hbare hnone)
      logFile := h.logFile.congr fun hnone =>
        hsame "log_file" (hbare (Option.map_eq_none_iff.1 hnone))
      debug := h.debug.trans ?_ }
  by_cases hdebug : o.debug = true
  · simp [hdebug]
  · simp only [hsame "debug" hdebug]

/-- What is read of a file, with a command line on top, is told layer by layer. -/
theorem layered_merge (hkeys : (entries.map (·.1)).Nodup)
    (h : record.ofEntries default (entries.map fun e => (.string e.1, e.2)) = .ok s)
    (o : Overrides) : (s.merge o).Layered entries o := by
  have hurl := entered_of_ofEntries catalogUrl (fun h => (enters_of_set h).catalogUrl) hkeys h
  have hinterval :=
    entered_of_ofEntries refreshInterval (fun h => (enters_of_set h).refreshInterval) hkeys h
  have hdata := entered_of_ofEntries dataDir (fun h => (enters_of_set h).dataDir) hkeys h
  have htemplates :=
    entered_of_ofEntries templatesDir (fun h => (enters_of_set h).templatesDir) hkeys h
  have hbranch := entered_of_ofEntries branch (fun h => (enters_of_set h).branch) hkeys h
  have htimeout := entered_of_ofEntries gitTimeout (fun h => (enters_of_set h).gitTimeout) hkeys h
  have hlog := entered_of_ofEntries logFile (fun h => (enters_of_set h).logFile) hkeys h
  have hdebug := entered_of_ofEntries debug (fun h => (enters_of_set h).debug) hkeys h
  -- The command line lies on top of what the file has entered, which lies on the defaults.
  exact
    { catalogUrl := hurl.uppermost_or o.catalogUrl
      refreshInterval := hinterval.uppermost o.refreshInterval
      dataDir := hdata.uppermost o.dataDir
      templatesDir := htemplates.uppermost o.templatesDir
      branch := hbranch.uppermost_or o.branch
      gitTimeout := htimeout.uppermost o.gitTimeout
      logFile := hlog.uppermost_or o.logFile
      debug := by
        have hasked : s.debug = true ↔ ∃ v, ("debug", v) ∈ entries ∧ boolOf v = .ok true :=
          hdebug.eq_iff hkeys (by decide)
        rw [merge, Bool.or_eq_true, hasked, or_comm] }

/-! ## Files -/

/-- A table is read entry by entry. -/
theorem ofValue_document (entries : List (String × Value)) :
    record.ofValue (Toml.document entries) =
      record.ofEntries default (entries.map fun e => (.string e.1, e.2)) := by
  show (record.ofEntries default _ >>= fun s => .ok s) = _
  cases record.ofEntries default (entries.map fun e => (.string e.1, e.2)) <;> rfl

section

variable {file : Location} {content : Except DiskError Bytes} {text : String}

/-- A file that cannot be read as a text. -/
theorem ofFile_eq_unreadable {error : DiskError}
    (h : content = .error error ∨
      error = .notText ∧ ∃ bytes, content = .ok bytes ∧ ¬ Text.IsText bytes) :
    ofFile file content =
      .error ⟨["Failed to read config from " ++ file.display], .disk error⟩ := by
  unfold ofFile
  rw [fileText_eq_error.2 h]

/-- What is read of a file with these entries. -/
theorem ofFile_eq_ok (hcontent : content = .ok (Text.encode text))
    (hread : Toml.read? text = some (Toml.document entries))
    (h : record.ofEntries default (entries.map fun e => (.string e.1, e.2)) = .ok s) :
    ofFile file content = .ok s := by
  unfold ofFile
  rw [fileText_eq_ok.2 hcontent]
  simp only [ofText, hread, ofValue_document, h]

/-- A file is malformed if it is no table, or if an entry has a value that it may not have. -/
theorem ofFile_eq_malformed (hcontent : content = .ok (Text.encode text))
    (h : ∀ entries, Toml.read? text = some (Toml.document entries) →
      ∃ e ∈ entries, ¬ Takes e.1 e.2) :
    ofFile file content = .error ⟨["Failed to parse config from " ++ file.display], malformed⟩ := by
  have htext : ofText text = .error malformed := by
    rw [ofText]
    cases hread : Toml.read? text with
    | none => rfl
    | some v =>
      obtain ⟨entries, rfl, -⟩ := Toml.exists_document hread
      obtain ⟨e, he, hnot⟩ := h entries hread
      cases hvalue : record.ofValue (Toml.document entries) with
      | error m => simp only [hvalue]
      | ok s =>
        rw [ofValue_document] at hvalue
        exact absurd ((exists_ofEntries_iff default).1 ⟨s, hvalue⟩ e he) hnot
  unfold ofFile
  rw [fileText_eq_ok.2 hcontent]
  simp only [htext]

end

/-! ## What comes out of the layers -/

/-- Settings, if the service can do with them. -/
def checked (s : Settings) : Except Failure Settings :=
  match s.validate with
  | .ok () => .ok s
  | .error e => .error (.ofError e)

theorem checked_eq_ok : s.checked = .ok s' ↔ s.Sound ∧ s = s' := by
  rw [← validate_eq_ok, checked]
  cases s.validate <;> simp

theorem checked_eq_error {f : Failure} :
    s.checked = .error f ↔ ∃ message, s.Lacks message ∧ f = .ofError (.configuration message) := by
  rw [checked]
  constructor
  · intro h
    split at h
    · cases h
    · next e hvalid =>
      obtain ⟨message, hlacks, rfl⟩ := validate_eq_error.1 hvalid
      exact ⟨message, hlacks, (Except.error.inj h).symm⟩
  · rintro ⟨message, hlacks, rfl⟩
    rw [validate_eq_error.2 ⟨message, hlacks, rfl⟩]

/-- A command line on top of another gives, of each setting, what it has, and else what the other
    has. -/
def combine (lower upper : Overrides) : Overrides :=
  { catalogUrl := upper.catalogUrl.or lower.catalogUrl
    refreshInterval := upper.refreshInterval.or lower.refreshInterval
    dataDir := upper.dataDir.or lower.dataDir
    templatesDir := upper.templatesDir.or lower.templatesDir
    branch := upper.branch.or lower.branch
    gitTimeout := upper.gitTimeout.or lower.gitTimeout
    logFile := upper.logFile.or lower.logFile
    debug := lower.debug || upper.debug }

/-- Two command lines, one on top of the other, are one that combines them. -/
theorem merge_merge (s : Settings) (a b : Overrides) :
    (s.merge a).merge b = s.merge (combine a b) := by
  have hgetD {α : Type} (x y : Option α) (z : α) : x.getD (y.getD z) = (x.or y).getD z := by
    cases x <;> rfl
  simp only [merge, combine, hgetD, Option.or_assoc, Bool.or_assoc]

end Settings

namespace CommandLine

namespace Invocation

/-- The entries of the settings file, if one is named; a file that is not named has none. -/
inductive Gives (i : Invocation) (content : Except DiskError Bytes) :
    List (String × Value) → Prop
  | nothing : i.settingsFile = none → Gives i content []
  | file {file : Location} {text : String} {entries : List (String × Value)} :
    i.settingsFile = some file → content = .ok (Text.encode text) →
    Toml.read? text = some (Toml.document entries) → Gives i content entries

/-- An invocation gets no settings, because of this. -/
inductive Refused (i : Invocation) (content : Except DiskError Bytes) : Failure → Prop
  /-- The file cannot be read as a text. -/
  | unreadable {file : Location} {error : DiskError} : i.settingsFile = some file →
    (content = .error error ∨
      error = .notText ∧ ∃ bytes, content = .ok bytes ∧ ¬ Text.IsText bytes) →
    Refused i content ⟨["Failed to read config from " ++ file.display], .disk error⟩
  /-- It is no table, or an entry has a value that it may not have. -/
  | malformed {file : Location} {text : String} : i.settingsFile = some file →
    content = .ok (Text.encode text) →
    (∀ entries, Toml.read? text = some (Toml.document entries) →
      ∃ e ∈ entries, ¬ Settings.Takes e.1 e.2) →
    Refused i content ⟨["Failed to parse config from " ++ file.display], Settings.malformed⟩
  /-- What comes out of all layers lacks something. -/
  | incomplete {entries : List (String × Value)} {s : Settings} {message : String} :
    Gives i content entries → (∀ e ∈ entries, Settings.Takes e.1 e.2) →
    s.Layered entries i.overrides → s.Lacks message →
    Refused i content (.ofError (.configuration message))

variable {i : Invocation} {content : Except DiskError Bytes} {entries : List (String × Value)}

/-- A file has one entry of a name at most. -/
theorem Gives.nodup_keys (h : i.Gives content entries) : (entries.map (·.1)).Nodup := by
  cases h with
  | nothing => exact List.nodup_nil
  | file _ _ hread =>
    obtain ⟨entries', heq, hkeys⟩ := Toml.exists_document hread
    obtain rfl := Toml.document_inj heq
    exact hkeys

theorem settings_of_none (h : i.settingsFile = none) :
    i.settings content = (Settings.default.merge i.overrides).checked := by
  rw [settings, h]
  rfl

theorem settings_of_file {file : Location} (h : i.settingsFile = some file) :
    i.settings content =
      (Settings.ofFile file content).bind fun s => (s.merge i.overrides).checked := by
  rw [settings, h]
  simp only
  cases Settings.ofFile file content <;> rfl

/-- If its entries can be read, an invocation comes to what comes out of all layers, checked. -/
theorem Gives.settings_eq (h : i.Gives content entries)
    (htakes : ∀ e ∈ entries, Settings.Takes e.1 e.2) :
    ∃ s : Settings, s.Layered entries i.overrides ∧ i.settings content = s.checked := by
  obtain ⟨base, hbase⟩ := (Settings.exists_ofEntries_iff .default).2 htakes
  refine ⟨base.merge i.overrides, Settings.layered_merge h.nodup_keys hbase _, ?_⟩
  cases h with
  | nothing hnone =>
    obtain rfl : Settings.default = base := Except.ok.inj hbase
    exact settings_of_none hnone
  | file hsome hcontent hread =>
    rw [settings_of_file hsome, Settings.ofFile_eq_ok hcontent hread hbase]
    rfl

/-- Either a file gives entries that can be read, or an invocation is refused because of it. -/
theorem exists_gives_or_refused (i : Invocation) (content : Except DiskError Bytes) :
    (∃ entries, i.Gives content entries ∧ ∀ e ∈ entries, Settings.Takes e.1 e.2) ∨
      ∃ f, i.settings content = .error f ∧ i.Refused content f := by
  cases hfile : i.settingsFile with
  | none => exact .inl ⟨[], .nothing hfile, nofun⟩
  | some file =>
    cases htext : fileText content with
    | error error =>
      refine .inr ⟨_, ?_, .unreadable hfile (fileText_eq_error.1 htext)⟩
      rw [settings_of_file hfile, Settings.ofFile_eq_unreadable (fileText_eq_error.1 htext)]
      rfl
    | ok text =>
      have hcontent := fileText_eq_ok.1 htext
      by_cases h : ∃ entries, Toml.read? text = some (Toml.document entries) ∧
          ∀ e ∈ entries, Settings.Takes e.1 e.2
      · obtain ⟨entries, hread, htakes⟩ := h
        exact .inl ⟨entries, .file hfile hcontent hread, htakes⟩
      · have hmalformed (entries : List (String × Value))
            (hread : Toml.read? text = some (Toml.document entries)) :
            ∃ e ∈ entries, ¬ Settings.Takes e.1 e.2 := by
          by_contra hall
          exact h ⟨entries, hread, by simpa using hall⟩
        refine .inr ⟨_, ?_, .malformed hfile hcontent hmalformed⟩
        rw [settings_of_file hfile, Settings.ofFile_eq_malformed hcontent hmalformed]
        rfl

/-- Settings are given exactly as they come out of all layers, if the file can be read and they
    have all that the service cannot do without. -/
theorem settings_eq_ok {s : Settings} :
    i.settings content = .ok s ↔ ∃ entries, i.Gives content entries ∧
      (∀ e ∈ entries, Settings.Takes e.1 e.2) ∧ s.Layered entries i.overrides ∧ s.Sound := by
  constructor
  · intro h
    rcases exists_gives_or_refused i content with ⟨entries, hgives, htakes⟩ | ⟨f, hf, -⟩
    · obtain ⟨s', hlayered, heq⟩ := hgives.settings_eq htakes
      obtain ⟨hsound, rfl⟩ := Settings.checked_eq_ok.1 (heq.symm.trans h)
      exact ⟨entries, hgives, htakes, hlayered, hsound⟩
    · cases hf.symm.trans h
  · rintro ⟨entries, hgives, htakes, hlayered, hsound⟩
    obtain ⟨s', hlayered', heq⟩ := hgives.settings_eq htakes
    obtain rfl := hlayered.unique hgives.nodup_keys hlayered'
    exact heq.trans (Settings.checked_eq_ok.2 ⟨hsound, rfl⟩)

/-- Otherwise an invocation is refused, and in one way. -/
theorem settings_eq_error {f : Failure} :
    i.settings content = .error f ↔ i.Refused content f := by
  constructor
  · intro h
    rcases exists_gives_or_refused i content with ⟨entries, hgives, htakes⟩ | ⟨f', hf', hrefused⟩
    · obtain ⟨s, hlayered, heq⟩ := hgives.settings_eq htakes
      obtain ⟨message, hlacks, rfl⟩ := Settings.checked_eq_error.1 (heq.symm.trans h)
      exact .incomplete hgives htakes hlayered hlacks
    · cases hf'.symm.trans h
      exact hrefused
  · rintro (⟨hfile, hread⟩ | ⟨hfile, hcontent, hmalformed⟩ | ⟨hgives, htakes, hlayered, hlacks⟩)
    · rw [settings_of_file hfile, Settings.ofFile_eq_unreadable hread]
      rfl
    · rw [settings_of_file hfile, Settings.ofFile_eq_malformed hcontent hmalformed]
      rfl
    · obtain ⟨s', hlayered', heq⟩ := hgives.settings_eq htakes
      obtain rfl := hlayered.unique hgives.nodup_keys hlayered'
      exact heq.trans (Settings.checked_eq_error.2 ⟨_, hlacks, rfl⟩)

/-! ## The law of the layers -/

/-- What the command line gives is of no use: a blank address, or a time that is zero. -/
def Spoils (o : Overrides) : Prop :=
  (∃ url, o.catalogUrl = some url ∧ Text.isBlankText url = true) ∨
    o.refreshInterval = some 0 ∨ o.gitTimeout = some 0

/-- The settings of an invocation, by its layers. -/
structure Layering (i : Invocation) : Prop where
  /-- They are given exactly if the file can be read, each of its entries has a value that it may
      have, and what comes out of all layers lacks nothing. Each comes from the uppermost layer that
      has it. -/
  given : ∀ content s, i.settings content = .ok s ↔ ∃ entries, i.Gives content entries ∧
    (∀ e ∈ entries, Settings.Takes e.1 e.2) ∧ s.Layered entries i.overrides ∧ s.Sound
  /-- There is one way to be refused for each thing that may be wrong, and the first counts. -/
  refused : ∀ content f, i.settings content = .error f ↔ i.Refused content f
  /-- What a file says of a setting that the command line has does not matter, unless it cannot be
      read. -/
  covered : ∀ content content' entries entries',
    i.Gives content entries → (∀ e ∈ entries, Settings.Takes e.1 e.2) →
    i.Gives content' entries' → (∀ e ∈ entries', Settings.Takes e.1 e.2) →
    (∀ name, ¬ i.overrides.Covers name → ∀ v, (name, v) ∈ entries ↔ (name, v) ∈ entries') →
    i.settings content = i.settings content'
  /-- No file makes up for what the command line spoils. -/
  unrescued : Spoils i.overrides → ∀ content s, i.settings content ≠ .ok s
  /-- The file that is named is asked for its content, and nothing else is asked. -/
  asked : ∀ told r, (readSettings i).ComesTo told r ↔
    (i.settingsFile = none ∧ told = [] ∧ ∀ content, r = i.settings content) ∨
    ∃ file content, i.settingsFile = some file ∧
      told = [⟨.work (.ask (.content file)), content⟩] ∧ r = i.settings content

/-- The file that is named is asked for its content, and nothing else is asked. -/
theorem comesTo_readSettings {told : List Gesture} {r : Except Failure Settings} :
    (readSettings i).ComesTo told r ↔
      (i.settingsFile = none ∧ told = [] ∧ ∀ content, r = i.settings content) ∨
      ∃ file content, i.settingsFile = some file ∧
        told = [⟨.work (.ask (.content file)), content⟩] ∧ r = i.settings content := by
  rw [readSettings]
  cases hfile : i.settingsFile with
  | none =>
    -- Without a file the settings do not depend on any content.
    have hsame (content : Except DiskError Bytes) :
        i.settings (.error .notFound) = i.settings content := by
      rw [settings_of_none hfile, settings_of_none hfile]
    simp only [Interaction.comesTo_pure_iff, true_and, reduceCtorEq, false_and, exists_false,
      or_false]
    refine and_congr_right fun _ => ⟨?_, fun h => h _⟩
    rintro rfl content
    exact hsame content
  | some file =>
    simp only [reduceCtorEq, false_and, false_or, Option.some.injEq, exists_and_left,
      exists_eq_left']
    constructor
    · intro h
      obtain ⟨told₁, content, told₂, rfl, hask, hpure⟩ := Interaction.comesTo_bind.1 h
      obtain rfl := Interaction.comesTo_question_iff.1 hask
      obtain ⟨rfl, rfl⟩ := Interaction.comesTo_pure_iff.1 hpure
      exact ⟨content, rfl, rfl⟩
    · rintro ⟨content, rfl, rfl⟩
      exact .ask content (.done _)

/-- **Layers of settings**: every invocation gets its settings layer by layer, and command lines on
    top of each other are one that combines them. -/
theorem layering (i : Invocation) :
    i.Layering ∧ ∀ (s : Settings) (a b : Overrides),
      (s.merge a).merge b = s.merge (Settings.combine a b) := by
  refine ⟨?_, Settings.merge_merge⟩
  exact
    { given := fun content s => settings_eq_ok
      refused := fun content f => settings_eq_error
      covered := fun content content' entries entries' h htakes h' htakes' hsame => by
        obtain ⟨s, hlayered, heq⟩ := h.settings_eq htakes
        obtain ⟨s', hlayered', heq'⟩ := h'.settings_eq htakes'
        obtain rfl := (hlayered.congr hsame).unique h'.nodup_keys hlayered'
        exact heq.trans heq'.symm
      unrescued := fun hspoils content s h => by
        obtain ⟨_, -, -, hlayered, hsound⟩ := settings_eq_ok.1 h
        rcases hspoils with ⟨url, hurl, hblank⟩ | hinterval | htimeout
        · obtain ⟨url', hsome, hblank'⟩ := hsound.url
          have hgiven := hlayered.catalogUrl.eq_of_given (congrArg (Option.map some) hurl)
          cases hsome.symm.trans hgiven
          cases hblank.symm.trans hblank'
        · exact hsound.refreshInterval (hlayered.refreshInterval.eq_of_given hinterval)
        · exact hsound.gitTimeout (hlayered.gitTimeout.eq_of_given htimeout)
      asked := fun told r => comesTo_readSettings }

/-- A command line over a settings file. -/
def overFile (o : Overrides) : Invocation := ⟨o, some (.ofString "catalog.toml"), .serve false⟩

/-- Whether a file is read as one entry, which is a text. -/
def isEntry (key text : String) : Option Value → Bool
  | some (.mapping [(.string k, .string s)]) => k = key ∧ s = text
  | _ => false

/-- Then it is read as that entry. -/
theorem eq_of_isEntry {key text : String} {read : Option Value}
    (h : isEntry key text read = true) : read = some (Toml.document [(key, .string text)]) := by
  unfold isEntry at h
  split at h
  · obtain ⟨rfl, rfl⟩ := of_decide_eq_true h
    rfl
  · cases h

/-- The file says that the address is empty. -/
theorem gives_overFile (o : Overrides) : (overFile o).Gives
    (.ok (Text.encode "catalog_url = \"\"")) [("catalog_url", .string "")] :=
  .file rfl rfl (eq_of_isEntry (by decide +kernel))

/-- An empty address in a file does not matter if the command line gives another; but if it does
    not, this is told, and not that the time it gives is zero. -/
theorem layering_overFile :
    (∃ s, (overFile { Overrides.none with catalogUrl := some "file:///c.git" }).settings
        (.ok (Text.encode "catalog_url = \"\"")) = .ok s ∧
      s.catalogUrl = some "file:///c.git" ∧ s.refreshInterval = 60) ∧
    (overFile { Overrides.none with refreshInterval := some 0 }).settings
        (.ok (Text.encode "catalog_url = \"\"")) =
      .error (.ofError
        (.configuration "catalog_url is required (set --catalog-url or CATALOG_URL)")) := by
  have htakes : ∀ e ∈ [("catalog_url", Value.string "")], Settings.Takes e.1 e.2 :=
    List.forall_mem_singleton.2 ⟨_, rfl⟩
  constructor
  · have hgives := gives_overFile { Overrides.none with catalogUrl := some "file:///c.git" }
    obtain ⟨s, hlayered, -⟩ := hgives.settings_eq htakes
    have hurl := hlayered.catalogUrl.eq_of_given rfl
    -- The file says nothing of the times.
    have hinterval := hlayered.refreshInterval.unique hgives.nodup_keys (.default rfl (by simp))
    have htimeout := hlayered.gitTimeout.unique hgives.nodup_keys (.default rfl (by simp))
    have hsound : s.Sound :=
      ⟨⟨_, hurl, by decide⟩, by rw [hinterval]; decide, by rw [htimeout]; decide⟩
    exact ⟨s, ((layering _).1.given _ s).2 ⟨_, hgives, htakes, hlayered, hsound⟩, hurl, hinterval⟩
  · have hgives := gives_overFile { Overrides.none with refreshInterval := some 0 }
    obtain ⟨s, hlayered, -⟩ := hgives.settings_eq htakes
    have hurl := hlayered.catalogUrl.unique hgives.nodup_keys
      (.file rfl (List.mem_singleton_self _) rfl)
    refine ((layering _).1.refused _ _).2
      (.incomplete hgives htakes hlayered (.url fun url hsome => ?_))
    cases hurl.symm.trans hsome
    decide

end Invocation

end CommandLine

end TemplateCatalog
