import TemplateCatalog.CommandLine.Program
import TemplateCatalog.Failure.Explanation
import TemplateCatalog.Proofs.CommandLine.Console
import TemplateCatalog.Proofs.Service.Startup

/-!
# Which setting is advised about

The advice for an error of the configuration is picked by the first name of a setting that occurs in
its message (`Setting.sought`). Settings that are refused are named by fixed messages, each of which
holds one such name. The message about a log that cannot be opened holds its location as well, and
a location may hold anything: if it holds the name of another setting, that is taken for the one at
fault.

* `Explanation.mentions_iff`: one text is mentioned in another if it is a part of it;
* `Explanation.configurationAdvice_eq`: the advice is that of the first setting that is named;
* `Setting.named_openLogMessage_iff`: what the message about a log names;
* `CommandLine.advised_iff`: when the advice is about the setting at fault.
-/

namespace TemplateCatalog

/-! ## Parts of texts -/

namespace Explanation

variable {part a b : List Char} {sep : Char}

theorem occursIn_iff {text : List Char} : occursIn part text = true ↔ part <:+: text := by
  induction text with
  | nil => rw [occursIn, List.isEmpty_iff, List.infix_nil]
  | cons c rest ih =>
    rw [occursIn, Bool.or_eq_true, ih, List.isPrefixOf_iff_prefix, List.infix_cons_iff]

/-- A text is mentioned in another exactly if it is a part of it. -/
theorem mentions_iff {text part : String} :
    mentions text part = true ↔ part.toList <:+: text.toList := occursIn_iff

/-- What begins with a part without some character, has that part before the character. -/
theorem prefix_append_cons_iff (h : sep ∉ part) : part <+: a ++ sep :: b ↔ part <+: a := by
  induction a generalizing part with
  | nil =>
    cases part with
    | nil => simp
    | cons c part =>
      have hc : c ≠ sep := fun heq => h (heq ▸ List.mem_cons_self)
      simp [hc]
  | cons c a ih =>
    cases part with
    | nil => simp
    | cons d part =>
      rw [List.cons_append, List.cons_prefix_cons, List.cons_prefix_cons,
        ih fun hsep => h (List.mem_cons_of_mem _ hsep)]

/-- A part without some character is on one side of it. -/
theorem infix_append_cons_iff (h : sep ∉ part) :
    part <:+: a ++ sep :: b ↔ part <:+: a ∨ part <:+: b := by
  induction a with
  | nil =>
    rw [List.nil_append, List.infix_cons_iff, List.infix_nil, ← List.prefix_nil]
    exact or_congr_left (prefix_append_cons_iff (a := []) h)
  | cons c a ih =>
    rw [List.cons_append, List.infix_cons_iff, ih, List.infix_cons_iff, ← List.cons_append,
      prefix_append_cons_iff h, or_assoc]

end Explanation

/-! ## Settings and their names -/

/-- A setting that may be at fault. -/
inductive Setting where
  | catalogUrl
  | refreshInterval
  | gitTimeout
  | logFile
  deriving DecidableEq

namespace Setting

/-- The name by which a setting is found in a message. -/
def name : Setting → String
  | catalogUrl => "catalog_url"
  | refreshInterval => "refresh_interval"
  | gitTimeout => "git_timeout"
  | logFile => "log file"

/-- What is advised about a setting. -/
def advice : Setting → String
  | catalogUrl =>
    "Pass the catalog repository with --catalog-url or set catalog_url in the --config file"
  | refreshInterval =>
    "Pass --refresh-interval (or set refresh_interval) to a number of seconds, at least 1"
  | gitTimeout => "Pass --git-timeout (or set git_timeout) to a number of seconds, at least 1"
  | logFile => "Check that the directory of --log-file exists and is writable"

/-- The settings in the order in which they are looked for. -/
def sought : List Setting := [catalogUrl, refreshInterval, gitTimeout, logFile]

/-- A text names a setting. -/
def Named (setting : Setting) (text : String) : Prop := setting.name.toList <:+: text.toList

instance (setting : Setting) (text : String) : Decidable (setting.Named text) :=
  decidable_of_iff _ Explanation.mentions_iff

/-- A text names a setting other than the log. -/
def NamesOther (text : String) : Prop := ∃ other, other ≠ logFile ∧ Named other text

theorem namesOther_iff {text : String} : NamesOther text ↔
    catalogUrl.Named text ∨ refreshInterval.Named text ∨ gitTimeout.Named text := by
  constructor
  · rintro ⟨other, hother, hnamed⟩
    cases other with
    | catalogUrl => exact .inl hnamed
    | refreshInterval => exact .inr (.inl hnamed)
    | gitTimeout => exact .inr (.inr hnamed)
    | logFile => exact absurd rfl hother
  · rintro (h | h | h)
    · exact ⟨catalogUrl, nofun, h⟩
    · exact ⟨refreshInterval, nofun, h⟩
    · exact ⟨gitTimeout, nofun, h⟩

instance : DecidablePred NamesOther := fun _ => decidable_of_iff _ namesOther_iff.symm

variable {setting : Setting}

theorem advice_injective : Function.Injective advice := by
  intro a b h
  cases a <;> cases b <;> first | rfl | exact absurd h (by decide)

end Setting

/-- The advice is about the first setting that is named. -/
theorem Explanation.configurationAdvice_eq (message : String) : configurationAdvice message =
    match Setting.sought.find? (·.Named message) with
    | some setting => setting.advice
    | none => "Check the file passed with --config and the command-line flags" := by
  have hmentions (setting : Setting) :
      mentions message setting.name = decide (setting.Named message) := by
    rw [Bool.eq_iff_iff, mentions_iff, decide_eq_true_iff, Setting.Named]
  have hurl := hmentions .catalogUrl
  have hinterval := hmentions .refreshInterval
  have htimeout := hmentions .gitTimeout
  have hlog := hmentions .logFile
  simp only [Setting.name] at hurl hinterval htimeout hlog
  rw [configurationAdvice, hurl, hinterval, htimeout, hlog]
  by_cases hurl : Setting.catalogUrl.Named message
  · simp [Setting.sought, hurl, Setting.advice]
  by_cases hinterval : Setting.refreshInterval.Named message
  · simp [Setting.sought, hurl, hinterval, Setting.advice]
  by_cases htimeout : Setting.gitTimeout.Named message
  · simp [Setting.sought, hurl, hinterval, htimeout, Setting.advice]
  by_cases hlog : Setting.logFile.Named message
  · simp [Setting.sought, hurl, hinterval, htimeout, hlog, Setting.advice]
  · simp [Setting.sought, hurl, hinterval, htimeout, hlog]

namespace Setting

variable {setting : Setting} {message path reason : String}

/-- A message that names the log is taken to be about it unless it names another setting. -/
theorem advice_logFile_iff (h : logFile.Named message) :
    Explanation.configurationAdvice message = logFile.advice ↔ ¬ NamesOther message := by
  rw [Explanation.configurationAdvice_eq]
  constructor
  · -- The log is sought last, so another setting that is named is found before it.
    rintro hadvice ⟨other, hother, hnamed⟩
    have hbefore : other ∈ [catalogUrl, refreshInterval, gitTimeout] := by
      cases other <;> first | decide | exact absurd rfl hother
    obtain ⟨found, hfound⟩ : ∃ found, [catalogUrl, refreshInterval, gitTimeout].find?
        (fun setting => decide (setting.Named message)) = some found :=
      Option.isSome_iff_exists.1
        (List.find?_isSome.2 ⟨other, hbefore, decide_eq_true hnamed⟩)
    have hfind : sought.find? (·.Named message) = some found := by
      rw [show sought = [catalogUrl, refreshInterval, gitTimeout] ++ [logFile] from rfl,
        List.find?_append, hfound, Option.some_or]
    rw [hfind] at hadvice
    have hmem := List.mem_of_find?_eq_some hfound
    rw [advice_injective hadvice] at hmem
    exact absurd hmem (by decide)
  · intro hnone
    have hother (other : Setting) (hother : other ≠ logFile) : ¬ other.Named message :=
      fun hnamed => hnone ⟨other, hother, hnamed⟩
    have hfind : sought.find? (·.Named message) = some logFile := by
      simp [sought, hother, h]
    rw [hfind]

/-- What is said about a log that cannot be opened. -/
def openLogMessage (path reason : String) : String :=
  "Failed to open log file " ++ path ++ ": " ++ reason

/-- It names the log, and whatever its location or the reason names. -/
theorem named_openLogMessage_iff : setting.Named (openLogMessage path reason) ↔
    setting = logFile ∨ setting.Named path ∨ setting.Named reason := by
  have htext : (openLogMessage path reason).toList = "Failed to open log file".toList ++
      ' ' :: (path.toList ++ ':' :: ([] ++ ' ' :: reason.toList)) := by
    have hstart : "Failed to open log file ".toList =
        "Failed to open log file".toList ++ [' '] := by
      decide +kernel
    have hcolon : ": ".toList = [':', ' '] := by decide
    show ("Failed to open log file " ++ path ++ ": " ++ reason).toList = _
    rw [String.toList_append, String.toList_append, String.toList_append, hstart, hcolon]
    simp only [List.append_assoc, List.cons_append, List.nil_append]
  rw [Named, htext]
  by_cases hlog : setting = logFile
  · subst hlog
    have hlogs : logFile.Named "Failed to open log file" := by decide +kernel
    exact iff_of_true (hlogs.trans (List.prefix_append _ _).isInfix) (.inl rfl)
  · -- Any other name has neither blank nor colon, so it cannot reach across a seam.
    have hspace : ' ' ∉ setting.name.toList := by
      cases setting with
      | logFile => exact absurd rfl hlog
      | _ => decide
    have hcolon : ':' ∉ setting.name.toList := by cases setting <;> decide
    have hstart : ¬ setting.Named "Failed to open log file" := by
      cases setting with
      | logFile => exact absurd rfl hlog
      | _ => decide +kernel
    have hempty : ¬ setting.name.toList <:+: [] := fun h =>
      absurd (List.infix_nil.1 h) (by cases setting <;> decide)
    rw [Named] at hstart
    rw [Explanation.infix_append_cons_iff hspace, Explanation.infix_append_cons_iff hcolon,
      Explanation.infix_append_cons_iff hspace]
    simp only [hstart, hempty, hlog, false_or]
    exact Iff.rfl

/-- So it names another setting exactly if one of these does. -/
theorem namesOther_openLogMessage_iff :
    NamesOther (openLogMessage path reason) ↔ NamesOther path ∨ NamesOther reason := by
  simp only [NamesOther, named_openLogMessage_iff, ← exists_or, ← and_or_left]
  exact exists_congr fun other => and_congr_right fun hother => or_iff_right hother

/-- What the disk says of a file names no other setting. -/
theorem not_namesOther_diskError (e : DiskError) : ¬ NamesOther e.text := by
  cases e <;> decide +kernel

end Setting

/-! ## Settings that are refused -/

namespace Settings

variable {s : Settings} {setting : Setting}

/-- The first setting with which the service cannot do. -/
inductive AtFault (s : Settings) : Setting → Prop where
  | catalogUrl : (∀ url, s.catalogUrl = some url → Text.isBlankText url = true) →
      AtFault s .catalogUrl
  | refreshInterval {url : String} : s.catalogUrl = some url → Text.isBlankText url = false →
      s.refreshInterval = 0 → AtFault s .refreshInterval
  | gitTimeout {url : String} : s.catalogUrl = some url → Text.isBlankText url = false →
      s.refreshInterval ≠ 0 → s.gitTimeout = 0 → AtFault s .gitTimeout

/-- Settings are refused with the advice about a setting exactly if that is the one at fault. -/
theorem advised_of_validate : (∃ e, s.validate = .error e ∧
    (Failure.ofError e).explain.suggestion = some setting.advice) ↔ s.AtFault setting := by
  have hurl : Explanation.configurationAdvice
      "catalog_url is required (set --catalog-url or CATALOG_URL)" = Setting.catalogUrl.advice := by
    decide +kernel
  have hinterval : Explanation.configurationAdvice
      "refresh_interval must be at least 1 second" = Setting.refreshInterval.advice := by
    decide +kernel
  have htimeout : Explanation.configurationAdvice
      "git_timeout must be at least 1 second" = Setting.gitTimeout.advice := by
    decide +kernel
  constructor
  · rintro ⟨e, hvalidate, hadvice⟩
    obtain ⟨message, hlacks, rfl⟩ := validate_eq_error.1 hvalidate
    have hmessage : Explanation.configurationAdvice message = setting.advice :=
      Option.some.inj hadvice
    cases hlacks with
    | url hnone =>
      obtain rfl := Setting.advice_injective (hurl.symm.trans hmessage)
      exact .catalogUrl hnone
    | refreshInterval hsome hblank hzero =>
      obtain rfl := Setting.advice_injective (hinterval.symm.trans hmessage)
      exact .refreshInterval hsome hblank hzero
    | gitTimeout hsome hblank hsound hzero =>
      obtain rfl := Setting.advice_injective (htimeout.symm.trans hmessage)
      exact .gitTimeout hsome hblank hsound hzero
  · intro h
    cases h with
    | catalogUrl hnone =>
      exact ⟨_, validate_eq_error.2 ⟨_, .url hnone, rfl⟩, congrArg some hurl⟩
    | refreshInterval hsome hblank hzero =>
      exact ⟨_, validate_eq_error.2 ⟨_, .refreshInterval hsome hblank hzero, rfl⟩,
        congrArg some hinterval⟩
    | gitTimeout hsome hblank hsound hzero =>
      exact ⟨_, validate_eq_error.2 ⟨_, .gitTimeout hsome hblank hsound hzero, rfl⟩,
        congrArg some htimeout⟩

/-- Whenever settings are refused, one of them is at fault. -/
theorem exists_atFault {e : CatalogError} (h : s.validate = .error e) :
    ∃ setting, s.AtFault setting := by
  obtain ⟨_, hlacks, -⟩ := validate_eq_error.1 h
  cases hlacks with
  | url hnone => exact ⟨_, .catalogUrl hnone⟩
  | refreshInterval hsome hblank hzero => exact ⟨_, .refreshInterval hsome hblank hzero⟩
  | gitTimeout hsome hblank hsound hzero => exact ⟨_, .gitTimeout hsome hblank hsound hzero⟩

/-- What is advised about them is about that one. -/
theorem advised_iff_atFault {e : CatalogError} (h : s.validate = .error e) :
    (Failure.ofError e).explain.suggestion = some setting.advice ↔ s.AtFault setting := by
  rw [← advised_of_validate]
  constructor
  · exact fun hadvice => ⟨e, h, hadvice⟩
  · rintro ⟨e', h', hadvice⟩
    obtain rfl := Except.error.inj (h'.symm.trans h)
    exact hadvice

end Settings

/-! ## Logs that cannot be opened -/

namespace CommandLine

variable {env : Environment} {s : Settings} {told : List Gesture} {f : Failure}

/-- Opening the log fails exactly if there is one and the disk does not let it be opened. -/
theorem comesTo_openLog_error : (openLog env s).ComesTo told (.error f) ↔
    ∃ l e, s.logFile = some l ∧ told = [⟨.openLog l, .error e⟩] ∧
      f = .ofError (.configuration (Setting.openLogMessage l.display e.text)) := by
  rw [openLog]
  cases s.logFile with
  | none => exact ⟨fun h => absurd (Interaction.comesTo_pure_iff.1 h).2 nofun, nofun⟩
  | some l =>
    simp only [Interaction.comesTo_bind]
    constructor
    · rintro ⟨told₁, answer, told₂, rfl, hopen, hrest⟩
      obtain rfl := Interaction.comesTo_question_iff.1 hopen
      cases answer with
      | ok => exact absurd (Interaction.comesTo_pure_iff.1 hrest).2 nofun
      | error e =>
        obtain ⟨rfl, hf⟩ := Interaction.comesTo_pure_iff.1 hrest
        exact ⟨l, e, rfl, rfl, Except.error.inj hf⟩
    · rintro ⟨_, e, hl, rfl, rfl⟩
      cases hl
      exact ⟨_, .error e, [], rfl, Interaction.comesTo_question_iff.2 rfl,
        Interaction.comesTo_pure_iff.2 ⟨rfl, rfl⟩⟩

/-- Settings that are refused are advised about as the setting at fault. A log that cannot be opened
    is advised about as the log exactly if neither its location nor the reason names another
    setting; the reasons that the disk gives never do. -/
theorem advised_iff (env : Environment) (s : Settings) (path reason : String) :
    (∀ e, s.validate = .error e → (∃ setting, s.AtFault setting) ∧
      ∀ setting, (Failure.ofError e).explain.suggestion = some setting.advice ↔
        s.AtFault setting) ∧
    ((Failure.ofError (.configuration (Setting.openLogMessage path reason))).explain.suggestion =
          some Setting.logFile.advice ↔
      ¬ Setting.NamesOther path ∧ ¬ Setting.NamesOther reason) ∧
    ∀ told f, (openLog env s).ComesTo told (.error f) →
      ∃ l e, s.logFile = some l ∧ told = [⟨.openLog l, .error e⟩] ∧
        (f.explain.suggestion = some Setting.logFile.advice ↔ ¬ Setting.NamesOther l.display) := by
  have hlog (path reason : String) : (Failure.ofError
      (.configuration (Setting.openLogMessage path reason))).explain.suggestion =
        some Setting.logFile.advice ↔
      ¬ Setting.NamesOther path ∧ ¬ Setting.NamesOther reason := by
    rw [← not_or, ← Setting.namesOther_openLogMessage_iff,
      ← Setting.advice_logFile_iff (Setting.named_openLogMessage_iff.2 (.inl rfl))]
    exact Option.some_inj
  refine ⟨fun e h => ⟨Settings.exists_atFault h, fun setting => Settings.advised_iff_atFault h⟩,
    hlog path reason, fun told f h => ?_⟩
  obtain ⟨l, e, hfile, htold, rfl⟩ := comesTo_openLog_error.1 h
  exact ⟨l, e, hfile, htold, (hlog _ _).trans (and_iff_left (Setting.not_namesOther_diskError e))⟩

/-- Settings that ask for a log at some location, and for nothing else. -/
def logSettings (location : String) : Settings :=
  { Settings.default with logFile := some (.ofString location) }

/-- Without an address one is advised to give one. Where a directory is missing for the log, one is
    advised to look at that, if it is not called like a setting. -/
theorem advised_nowhere :
    (∃ e, (logSettings "nowhere/x.log").validate = .error e ∧
      (Failure.ofError e).explain.suggestion = some Setting.catalogUrl.advice) ∧
    ∃ told f, (openLog (fun _ => none) (logSettings "nowhere/x.log")).ComesTo told (.error f) ∧
      f.explain.suggestion = some Setting.logFile.advice := by
  have hlog : (openLog (fun _ => none) (logSettings "nowhere/x.log")).ComesTo _ (.error _) :=
    comesTo_openLog_error.2 ⟨_, .notFound, rfl, rfl, rfl⟩
  obtain ⟨hrefused, -, hopen⟩ := advised_iff (fun _ => none) (logSettings "nowhere/x.log") "" ""
  obtain ⟨l, e, hfile, -, hadvice⟩ := hopen _ _ hlog
  cases hfile
  obtain ⟨-, hadvised⟩ := hrefused _ rfl
  exact ⟨⟨_, rfl, (hadvised _).2 (.catalogUrl nofun)⟩, _, _, hlog, hadvice.2 (by decide +kernel)⟩

/-- A directory called like a setting leads the advice astray. -/
theorem advised_astray : ¬ ∀ env s told f, (openLog env s).ComesTo told (.error f) →
    f.explain.suggestion = some Setting.logFile.advice := by
  intro h
  have hlog : (openLog (fun _ => none) (logSettings "catalog_url/x.log")).ComesTo _ (.error _) :=
    comesTo_openLog_error.2 ⟨_, .notFound, rfl, rfl, rfl⟩
  exact absurd (h _ _ _ _ hlog) (by decide +kernel)

end CommandLine

end TemplateCatalog
