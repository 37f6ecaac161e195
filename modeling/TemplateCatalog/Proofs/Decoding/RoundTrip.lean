import TemplateCatalog.Proofs.Decoding.Fieldwise
import TemplateCatalog.Proofs.Text.Utf8
import TemplateCatalog.Settings
import TemplateCatalog.Template.Question
import TemplateCatalog.Template.Summary

/-!
# Reading what was written

What is written of a summary, of a question or of settings is read as the same again, whatever
texts and numbers they hold. Neither the order of the members matters to that, nor members that
they do not have. A text that looks like a number or like `null` is written as a text and stays one.

* `Summary.fieldwise`, `Question.fieldwise`, `Settings.fieldwise`: each reads every field into a
  place of its own;
* `Summary.tells`, `Question.tells`, `Settings.tells`: their members tell them;
* `Settings.toJson?_eq_some`: only settings whose locations are texts are written;
* `restored`: what was written is restored.
-/

namespace TemplateCatalog

open Decoding Yaml

/-! ## Summaries -/

namespace Decoding

/-- The texts of a mapping are read one by one. -/
theorem textsOf_mapping (l : List (String × String)) :
    textsOf (.mapping (entriesOf (l.map fun e => (e.1, .string e.2)))) =
      .ok (Dictionary.ofList l) := by
  have hread : (entriesOf (l.map fun e => (e.1, .string e.2))).mapM
      (fun e => do return (← textOf e.1, ← textOf e.2)) = .ok l := by
    induction l with
    | nil => rfl
    | cons e l ih =>
      rw [List.map_cons, entriesOf, List.map_cons, List.mapM_cons]
      rw [entriesOf] at ih
      rw [ih]
      rfl
  simp only [textsOf]
  rw [hread]
  rfl

/-- The texts of a dictionary are read as they are written, in whatever order. -/
theorem textsOf_ofJson {d : Dictionary String} {links : List (String × String)}
    (h : links.Perm d.entries) :
    textsOf (Decoding.ofJson (.object (links.map fun e => (e.1, .string e.2)))) = .ok d := by
  have hsorted : (d.entries.map fun e => (e.1, Value.string e.2)).Pairwise fun a b => a.1 < b.1 :=
    List.pairwise_map.2 d.sorted
  have hvalues : valuesOf (links.map fun e => (e.1, .string e.2)) =
      links.map fun e => (e.1, Value.string e.2) := by
    rw [valuesOf, List.map_map]
    rfl
  rw [ofJson_object, hvalues, Dictionary.ofList_of_perm (d := ⟨_, hsorted⟩) (h.map _),
    textsOf_mapping, Dictionary.ofList_of_perm (.refl _)]

end Decoding

namespace Summary

variable {s : Summary} {links : List (String × String)}

theorem fieldwise : record.Fieldwise where
  nodup := by decide
  passed := by
    intro s key v hkey
    show Draft.set s key v = .ok s
    unfold Draft.set
    split
    case h_9 => rfl
    all_goals exact absurd (by decide) hkey
  swap := by
    intro s a b key key' v v' hkey hkey' hne ha hb
    show ∃ mid, Draft.set s key' v' = .ok mid ∧ Draft.set mid key v = .ok b
    change Draft.set s key v = .ok a at ha
    change Draft.set a key' v' = .ok b at hb
    unfold Draft.set at ha hb
    split at ha
    case h_9 => simp_all [record]
    all_goals
      obtain ⟨x, hx, rfl⟩ := bind_pure_eq_ok.1 ha
      split at hb
      case h_9 => simp_all [record]
      all_goals
        first
          | exact absurd rfl hne
          | obtain ⟨y, hy, rfl⟩ := bind_pure_eq_ok.1 hb
            exact ⟨_, bind_pure_eq_ok.2 ⟨y, hy, rfl⟩, bind_pure_eq_ok.2 ⟨x, hx, rfl⟩⟩

/-- What is written of a summary, with its links in some order. -/
def members (s : Summary) (links : List (String × String)) : List (String × Json) :=
  [("id", .string s.id), ("path", .string s.path), ("name", .string s.name),
    ("category", .string s.category), ("description", .string s.description),
    ("defaultVersion", .string s.defaultVersion)]
    ++ member? "iconPath" Json.string s.iconPath
    ++ [("versionLinks", .object (links.map fun e => (e.1, .string e.2)))]

theorem names_members : ((s.members links).map (·.1)).Sublist record.fields := by
  rw [members, List.map_append, List.map_append]
  exact ((List.Sublist.refl _).append (names_member s.iconPath)).append (.refl _)

theorem tells (h : links.Perm s.versionLinks.entries) : record.Tells (s.members links) s := by
  obtain ⟨id, path, name, category, description, defaultVersion, iconPath, versionLinks⟩ := s
  have hicon : record.Takes _ (member? "iconPath" Json.string iconPath) _ :=
    .member (fun icon => ⟨id, path, name, category, description, defaultVersion, icon, .empty⟩)
      fun _ => rfl
  have hlinks : Draft.set ⟨id, path, name, category, description, defaultVersion, iconPath, .empty⟩
      "versionLinks" (Decoding.ofJson (.object (links.map fun e => (e.1, .string e.2)))) = .ok _ :=
    bind_pure_eq_ok.2 ⟨versionLinks, textsOf_ofJson h, rfl⟩
  exact fieldwise.tells names_members
    (.append (.append rfl hicon) (.cons hlinks .nil)) rfl

end Summary

/-! ## Questions -/

namespace Question

theorem fieldwise : record.Fieldwise where
  nodup := by decide
  passed := by
    intro s key v hkey
    show Draft.set s key v = .ok s
    unfold Draft.set
    split
    case h_7 => rfl
    all_goals exact absurd (by decide) hkey
  swap := by
    intro s a b key key' v v' hkey hkey' hne ha hb
    show ∃ mid, Draft.set s key' v' = .ok mid ∧ Draft.set mid key v = .ok b
    change Draft.set s key v = .ok a at ha
    change Draft.set a key' v' = .ok b at hb
    unfold Draft.set at ha hb
    split at ha
    case h_7 => simp_all [record]
    all_goals
      obtain ⟨x, hx, rfl⟩ := bind_pure_eq_ok.1 ha
      split at hb
      case h_7 => simp_all [record]
      all_goals
        first
          | exact absurd rfl hne
          | obtain ⟨y, hy, rfl⟩ := bind_pure_eq_ok.1 hb
            exact ⟨_, bind_pure_eq_ok.2 ⟨y, hy, rfl⟩, bind_pure_eq_ok.2 ⟨x, hx, rfl⟩⟩

/-- What is written of a question. -/
def members (q : Question) : List (String × Json) :=
  [("variable", .string q.setting), ("description", .string q.description),
    ("label", .string q.label), ("required", .bool q.required)]
    ++ member? "default" Json.string q.default ++ [("type", .string q.kind)]

theorem names_members {q : Question} : (q.members.map (·.1)).Sublist record.fields := by
  rw [members, List.map_append, List.map_append]
  exact ((List.Sublist.refl _).append (names_member q.default)).append (.refl _)

theorem tells (q : Question) : record.Tells q.members q := by
  obtain ⟨setting, description, label, required, default, kind⟩ := q
  have hdefault : record.Takes _ (member? "default" Json.string default) _ :=
    .member (fun default => ⟨some setting, some description, some label, some required,
      default.map some, none⟩) fun _ => rfl
  exact fieldwise.tells names_members (.append (.append rfl hdefault) rfl)
    (by cases default <;> rfl)

end Question

/-! ## Settings -/

/-- A location is shown as a text exactly if it is that text. -/
theorem Location.text?_eq_some {l : Location} {t : String} :
    l.text? = some t ↔ l = .ofString t := by
  rw [Location.text?, Text.decode?_eq_some]
  cases l
  simp [Location.ofString, eq_comm]

theorem Location.mapM_text?_eq_some {l : Option Location} {t : Option String} :
    l.mapM Location.text? = some t ↔ l = t.map Location.ofString := by
  cases l with
  | none => cases t <;> simp
  | some l => cases t <;> simp [Location.text?_eq_some]

/-- A word is read as it is written. -/
theorem Decoding.wordOf_ofNat (w : UInt64) :
    wordOf (Decoding.ofJson (.ofNat w.toNat)) = .ok w := by
  have hw : w.toNat < 2 ^ 64 := w.toNat_lt
  have hfits : (decide (0 ≤ (w.toNat : Int)) &&
      decide ((w.toNat : Int) < Decimal.unsignedBound 64)) = true := by
    have hbound : Decimal.unsignedBound 64 = ((2 ^ 64 : Nat) : Int) := rfl
    rw [Bool.and_eq_true, decide_eq_true_eq, decide_eq_true_eq, hbound]
    omega
  rw [Json.ofNat, Decoding.ofJson, wordOf, if_pos hfits, Int.toNat_natCast, UInt64.ofNat_toNat]

namespace Settings

variable {s : Settings} {dataDir templatesDir : String} {logFile : Option String}

theorem fieldwise : record.Fieldwise where
  nodup := by decide
  passed := by
    intro s key v hkey
    show set s key v = .ok s
    unfold set
    split
    case h_9 => rfl
    all_goals exact absurd (by decide) hkey
  swap := by
    intro s a b key key' v v' hkey hkey' hne ha hb
    show ∃ mid, set s key' v' = .ok mid ∧ set mid key v = .ok b
    change set s key v = .ok a at ha
    change set a key' v' = .ok b at hb
    unfold set at ha hb
    split at ha
    case h_9 => simp_all [record]
    all_goals
      obtain ⟨x, hx, rfl⟩ := bind_pure_eq_ok.1 ha
      split at hb
      case h_9 => simp_all [record]
      all_goals
        first
          | exact absurd rfl hne
          | obtain ⟨y, hy, rfl⟩ := bind_pure_eq_ok.1 hb
            exact ⟨_, bind_pure_eq_ok.2 ⟨y, hy, rfl⟩, bind_pure_eq_ok.2 ⟨x, hx, rfl⟩⟩

/-- All locations in settings are texts. -/
structure Legible (s : Settings) : Prop where
  dataDir : ∃ t, s.dataDir = .ofString t
  templatesDir : ∃ t, s.templatesDir = .ofString t
  logFile : ∃ t, s.logFile = Option.map .ofString t

/-- What is written of settings whose locations are these texts. -/
def members (s : Settings) (dataDir templatesDir : String) (logFile : Option String) :
    List (String × Json) :=
  member? "catalog_url" Json.string s.catalogUrl
    ++ [("refresh_interval", .ofNat s.refreshInterval.toNat), ("data_dir", .string dataDir),
      ("templates_dir", .string templatesDir)]
    ++ member? "branch" Json.string s.branch
    ++ [("git_timeout", .ofNat s.gitTimeout.toNat)]
    ++ member? "log_file" Json.string logFile
    ++ [("debug", .bool s.debug)]

/-- Settings have a JSON form exactly if their locations are texts. -/
theorem toJson?_eq_some {j : Json} : s.toJson? = some j ↔ ∃ dataDir templatesDir logFile,
    s.dataDir = .ofString dataDir ∧ s.templatesDir = .ofString templatesDir ∧
      s.logFile = Option.map .ofString logFile ∧
      .object (s.members dataDir templatesDir logFile) = j := by
  simp only [toJson?, Option.bind_eq_bind, Option.bind_eq_some_iff, Location.text?_eq_some,
    Location.mapM_text?_eq_some]
  constructor
  · rintro ⟨dataDir, hdata, templatesDir, htemplates, logFile, hlog, hj⟩
    exact ⟨dataDir, templatesDir, logFile, hdata, htemplates, hlog, Option.some.inj hj⟩
  · rintro ⟨dataDir, templatesDir, logFile, hdata, htemplates, hlog, hj⟩
    exact ⟨dataDir, hdata, templatesDir, htemplates, logFile, hlog, congrArg some hj⟩

theorem names_members :
    ((s.members dataDir templatesDir logFile).map (·.1)).Sublist record.fields := by
  simp only [members, List.map_append]
  exact (((((names_member s.catalogUrl).append (.refl _)).append (names_member s.branch)).append
    (.refl _)).append (names_member logFile)).append (.refl _)

theorem tells (hdata : s.dataDir = .ofString dataDir)
    (htemplates : s.templatesDir = .ofString templatesDir)
    (hlog : s.logFile = Option.map .ofString logFile) :
    record.Tells (s.members dataDir templatesDir logFile) s := by
  obtain ⟨catalogUrl, refreshInterval, _, _, branch, gitTimeout, _, debug⟩ := s
  cases hdata
  cases htemplates
  cases hlog
  have hurl : record.Takes .default (member? "catalog_url" Json.string catalogUrl) _ :=
    .member (fun url => { Settings.default with catalogUrl := url }) fun _ => rfl
  have hword (before : Settings) : set before "refresh_interval"
      (Decoding.ofJson (.ofNat refreshInterval.toNat)) = .ok _ :=
    bind_pure_eq_ok.2 ⟨refreshInterval, wordOf_ofNat _, rfl⟩
  have htimeout (before : Settings) : set before "git_timeout"
      (Decoding.ofJson (.ofNat gitTimeout.toNat)) = .ok _ :=
    bind_pure_eq_ok.2 ⟨gitTimeout, wordOf_ofNat _, rfl⟩
  have hbranch : record.Takes _ (member? "branch" Json.string branch) _ :=
    .member (fun branch => ⟨catalogUrl, refreshInterval, .ofString dataDir,
      .ofString templatesDir, branch, Settings.default.gitTimeout, none, false⟩) fun _ => rfl
  have hlog : record.Takes _ (member? "log_file" Json.string logFile) _ :=
    .member (fun logFile => ⟨catalogUrl, refreshInterval, .ofString dataDir,
      .ofString templatesDir, branch, gitTimeout, Option.map .ofString logFile, false⟩) fun _ => rfl
  exact fieldwise.tells names_members
    (.append (.append (.append (.append (.append hurl (.cons (hword _) rfl)) hbranch)
      (.cons (htimeout _) .nil)) hlog) rfl) rfl

end Settings

/-! ## What was written -/

/-- Every summary and every question is restored from what was written of it, a summary also with
    its links in another order; so are all settings of which something can be written, and those are
    the ones whose locations are texts. -/
theorem restored :
    (∀ s : Summary, Summary.record.Restores s.toJson s ∧
      ∀ links, links.Perm s.versionLinks.entries →
        Summary.record.Restores (.object (s.members links)) s) ∧
    (∀ q : Question, Question.record.Restores q.toJson q) ∧
    ∀ s : Settings, (s.toJson?.isSome = true ↔ s.Legible) ∧
      ∀ j, s.toJson? = some j → Settings.record.Restores j s := by
  refine ⟨fun s => ⟨(Summary.tells (.refl _)).restores, fun links h => (Summary.tells h).restores⟩,
    fun q => q.tells.restores, fun s => ⟨?_, fun j h => ?_⟩⟩
  · rw [Option.isSome_iff_exists]
    constructor
    · intro ⟨j, h⟩
      obtain ⟨dataDir, templatesDir, logFile, hdata, htemplates, hlog, -⟩ :=
        Settings.toJson?_eq_some.1 h
      exact ⟨⟨dataDir, hdata⟩, ⟨templatesDir, htemplates⟩, ⟨logFile, hlog⟩⟩
    · intro ⟨⟨dataDir, hdata⟩, ⟨templatesDir, htemplates⟩, ⟨logFile, hlog⟩⟩
      exact ⟨_, Settings.toJson?_eq_some.2 ⟨dataDir, templatesDir, logFile, hdata, htemplates, hlog,
        rfl⟩⟩
  · obtain ⟨dataDir, templatesDir, logFile, hdata, htemplates, hlog, rfl⟩ :=
      Settings.toJson?_eq_some.1 h
    exact (Settings.tells hdata htemplates hlog).restores

/-- A summary whose texts could be taken for something else. -/
def Summary.odd : Summary :=
  ⟨"007", "é", "null", "~", "", "1.10", none, .ofList [("1", "true"), ("2", "null")]⟩

/-- Settings with the least and the greatest word. -/
def Settings.odd : Settings :=
  ⟨some "", 0xFFFFFFFFFFFFFFFF, .ofString "", .ofString "true", none, 0, some (.ofString "null"),
    true⟩

/-- They are restored from what is written backwards, with a member too many. -/
theorem restored_backwards :
    Summary.ofJson (.object (Summary.odd.members [("2", "null"), ("1", "true")] ++
      [("colour", Json.null)]).reverse) = .ok Summary.odd ∧
    Settings.ofJson (.object (Settings.odd.members "" "true" (some "null") ++
      [("colour", Json.null)]).reverse) = .ok Settings.odd := by
  constructor
  · obtain ⟨members, hmembers, htells⟩ :=
      ((restored.1 Summary.odd).2 [("2", "null"), ("1", "true")] (by decide)).told
    obtain rfl := Json.object.inj hmembers
    exact (htells [("colour", Json.null)] _ (by decide) (List.reverse_perm _)).sorted
  · obtain ⟨members, hmembers, htells⟩ := ((restored.2.2 Settings.odd).2 _
      (Settings.toJson?_eq_some.2 ⟨"", "true", some "null", rfl, rfl, rfl, rfl⟩)).told
    obtain rfl := Json.object.inj hmembers
    exact (htells [("colour", Json.null)] _ (by decide) (List.reverse_perm _)).sorted

end TemplateCatalog
