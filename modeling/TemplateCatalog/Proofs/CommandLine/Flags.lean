import Mathlib.Data.List.Nodup
import TemplateCatalog.CommandLine.Invocation

/-!
# Settings on the command line

Every setting has a flag of its own, which may stand in front of the action or behind it, and a
variable of the environment. What stands behind the action counts more than what stands in front of
it, and either counts more than the variable.

* `Reading.Typed`: what is known of the flags that stand among arguments, kept by each argument
  (`Reading.Typed.take`) and so by all of them (`Reading.typed_of_reads`);
* `Reading.lookup_fill`: what the environment adds to that;
* `Reading.value?_of_fill`: so which value a flag comes to;
* `Invocation.parse_asks`: what an invocation asks for are the values of its own flags or variables.
-/

namespace TemplateCatalog.CommandLine

/-- A step is taken before the rest. -/
theorem bind_eq_ok {α β : Type} {x : Except Rejection α} {f : α → Except Rejection β} {b : β} :
    (x >>= f) = .ok b ↔ ∃ a, x = .ok a ∧ f a = .ok b := by
  cases x with
  | error e => exact ⟨nofun, nofun⟩
  | ok a =>
    constructor
    · exact fun h => ⟨a, rfl, h⟩
    · rintro ⟨a', h, h'⟩
      cases h
      exact h'

namespace Reading

variable {c : Command} {f : Flag} {r r' : Reading} {name value : String}
  {env : String → Option String} {flags : List Flag}

/-! ## What stands among the arguments -/

/-- What has been read of a command, if it was read of arguments only. -/
structure Typed (c : Command) (r : Reading) : Prop where
  /-- Every value is one that its flag takes, and a switch that stands there is on. -/
  given : ∀ e ∈ r.given, e.2.source = .commandLine ∧ ∃ f ∈ c.flags, f.name = e.1 ∧
    f.kind.check e.2.value = .ok () ∧ (f.kind = .switch → e.2.value = "true")
  pending : ∀ f v, r.pending = some (f, v) → f ∈ c.flags ∧ f.kind.takesValue = true

theorem give_eq_ok {source : Source} : r.give f source value = .ok r' ↔
    r.given.lookup f.name = none ∧ f.kind.check value = .ok () ∧
      r' = { r with given := (f.name, ⟨source, value⟩) :: r.given } := by
  rw [give]
  rcases hgiven : r.given.lookup f.name with _ | g
  · rcases hcheck : f.kind.check value with e | ⟨⟩
    · simp
    · simp [eq_comm]
  · simp

/-- A flag that takes a value is no switch. -/
theorem ne_switch (h : f.kind.takesValue = true) : f.kind ≠ .switch := by
  rintro hswitch
  rw [hswitch] at h
  cases h

theorem Typed.give (h : r.Typed c) (hf : f ∈ c.flags) (hon : f.kind = .switch → value = "true")
    (hr : r.give f .commandLine value = .ok r') : r'.Typed c := by
  obtain ⟨-, hcheck, rfl⟩ := give_eq_ok.1 hr
  exact ⟨List.forall_mem_cons.2 ⟨⟨rfl, f, hf, rfl, hcheck, hon⟩, h.given⟩, h.pending⟩

theorem Typed.settle (h : r.Typed c) (hr : r.settle = .ok r') : r'.Typed c := by
  rw [Reading.settle] at hr
  split at hr
  · cases hr
    exact h
  · cases hr
  · next f v hpending =>
    obtain ⟨hf, hvalue⟩ := h.pending f _ hpending
    have hnone : Typed c { r with pending := none } := ⟨h.given, nofun⟩
    exact hnone.give hf (fun hswitch => absurd hswitch (ne_switch hvalue)) hr

theorem Typed.takeSwitch (h : r.Typed c) (hf : f ∈ c.flags) (hr : r.takeSwitch f = .ok r') :
    r'.Typed c := by
  obtain ⟨mid, hmid, hr⟩ := bind_eq_ok.1 hr
  split at hr
  · cases hr
  · cases hr
  · exact (h.settle hmid).give hf (fun _ => rfl) hr

theorem Typed.takeFlag {value : Option String} (h : r.Typed c) (hf : f ∈ c.flags)
    (hr : r.takeFlag f value = .ok r') : r'.Typed c := by
  unfold Reading.takeFlag at hr
  split at hr
  · next hvalue =>
    obtain ⟨mid, hmid, hr⟩ := bind_eq_ok.1 hr
    have hsettled := h.settle hmid
    split at hr
    · exact hsettled.give hf (fun hswitch => absurd hswitch (ne_switch hvalue)) hr
    · cases hr
      refine ⟨hsettled.given, fun f' v heq => ?_⟩
      cases heq
      exact ⟨hf, hvalue⟩
  · split at hr
    · cases hr
    · exact h.takeSwitch hf hr

theorem Typed.takeLong {cs : List Char} (h : r.Typed c) (hr : r.takeLong c cs = .ok r') :
    r'.Typed c := by
  rw [Reading.takeLong] at hr
  split at hr
  · next f hfind => exact h.takeFlag (List.mem_of_find?_eq_some hfind) hr
  · cases hr

theorem Typed.takeLetters {cs : List Char} (h : r.Typed c) (hr : takeLetters c cs r = .ok r') :
    r'.Typed c := by
  induction cs generalizing r with
  | nil =>
    cases hr
    exact h
  | cons letter rest ih =>
    unfold Reading.takeLetters at hr
    split at hr
    · cases hr
    · next f hfind =>
      have hf := List.mem_of_find?_eq_some hfind
      split at hr
      · exact h.takeFlag hf hr
      · obtain ⟨mid, hmid, hr⟩ := bind_eq_ok.1 hr
        exact ih (h.takeSwitch hf hmid) hr

theorem Typed.takeWord {s : String} (h : r.Typed c) (hr : r.takeWord c s = .ok r') :
    r'.Typed c := by
  rw [Reading.takeWord] at hr
  split at hr
  · rcases hmid : r.settle with e | mid
    · rw [hmid] at hr
      cases hr
    · rw [hmid] at hr
      cases hr
      exact ⟨(h.settle hmid).given, (h.settle hmid).pending⟩
  split at hr
  · cases hr
  · cases hr

/-- Each argument keeps it, -/
theorem Typed.take {s : String} (h : r.Typed c) (hr : r.take c s = .ok r') : r'.Typed c := by
  rw [Reading.take] at hr
  split at hr
  · exact h.takeWord hr
  split at hr
  · cases hr
    exact ⟨h.given, h.pending⟩
  · exact h.takeLong hr
  · exact h.takeLetters hr
  · split at hr
    · next f hpending =>
      cases hr
      refine ⟨h.given, fun f' v heq => ?_⟩
      cases heq
      exact h.pending f none hpending
    · exact h.takeWord hr

/-- and so do all arguments of a command. -/
theorem Typed.run {args : List String} {sub : Option (String × List String)} (h : r.Typed c)
    (hr : run c args r = .ok (r', sub)) : r'.Typed c := by
  induction args generalizing r with
  | nil =>
    cases hr
    exact h
  | cons s rest ih =>
    rw [Reading.run] at hr
    split at hr
    · cases hr
      exact h
    · split at hr
      · next mid hmid => exact ih (h.take hmid) hr
      · cases hr

theorem mem_given {g : Given} (h : r.given.lookup name = some g) : (name, g) ∈ r.given := by
  obtain ⟨l₁, l₂, hsplit, -⟩ := List.lookup_eq_some_iff.1 h
  rw [hsplit]
  exact List.mem_append_right _ List.mem_cons_self

theorem typed_empty (c : Command) : empty.Typed c := ⟨nofun, nofun⟩

/-! ## What the environment adds -/

/-- What the environment has for a flag of this name. -/
def inEnvironment (env : String → Option String) (flags : List Flag) (name : String) :
    Option String :=
  flags.findSome? fun f => if f.name = name then f.variableName.bind env else none

theorem inEnvironment_of_mem (hnames : (flags.map (·.name)).Nodup) (hf : f ∈ flags) :
    inEnvironment env flags f.name = f.variableName.bind env := by
  induction flags with
  | nil => cases hf
  | cons first rest ih =>
    obtain ⟨hfirst, hrest⟩ := List.nodup_cons.1 hnames
    rw [inEnvironment, List.findSome?_cons]
    rcases List.mem_cons.1 hf with rfl | hf
    · rw [if_pos rfl]
      cases hvalue : f.variableName.bind env with
      | some v => rfl
      | none =>
        -- No other flag has this name.
        refine List.findSome?_eq_none_iff.2 fun other hother => if_neg fun hname => ?_
        exact hfirst (List.mem_map.2 ⟨other, hother, hname⟩)
    · rw [if_neg fun hname => hfirst (List.mem_map.2 ⟨f, hf, hname.symm⟩)]
      exact ih hrest hf

/-- A flag is passed over if its variable is not set or if it has a value, and otherwise its
    variable is one that it takes. -/
theorem fill_cons (h : fill env (f :: flags) r = .ok r') :
    ((f.variableName.bind env = none ∨ (r.given.lookup f.name).isSome = true) ∧
      fill env flags r = .ok r') ∨
    ∃ v, f.variableName.bind env = some v ∧ r.given.lookup f.name = none ∧
      f.kind.check v = .ok () ∧
      fill env flags { r with given := (f.name, ⟨.environment, v⟩) :: r.given } = .ok r' := by
  rw [fill] at h
  split at h
  · next v hvalue =>
    split at h
    · next hgiven => exact .inl ⟨.inr hgiven, h⟩
    · split at h
      · next mid hmid =>
        obtain ⟨hnone, hcheck, rfl⟩ := give_eq_ok.1 hmid
        exact .inr ⟨v, hvalue, hnone, hcheck, h⟩
      · cases h
  · next hvalue => exact .inl ⟨.inl hvalue, h⟩

/-- The environment gives values to the flags that have none. -/
theorem lookup_fill (h : fill env flags r = .ok r') (name : String) : r'.given.lookup name =
    (r.given.lookup name).or ((inEnvironment env flags name).map (⟨.environment, ·⟩)) := by
  induction flags generalizing r with
  | nil =>
    cases h
    exact (Option.or_none).symm
  | cons f rest ih =>
    rw [inEnvironment, List.findSome?_cons, ← inEnvironment]
    rcases fill_cons h with ⟨hpassed, h⟩ | ⟨v, hvalue, hnone, -, h⟩
    · rw [ih h]
      by_cases hname : f.name = name
      · rw [if_pos hname]
        rcases hpassed with hunset | hgiven
        · rw [hunset]
        · obtain ⟨g, hg⟩ := Option.isSome_iff_exists.1 hgiven
          rw [← hname, hg, Option.some_or, Option.some_or]
      · rw [if_neg hname]
    · rw [ih h]
      by_cases hname : f.name = name
      · obtain rfl := hname
        rw [List.lookup_cons_self, if_pos rfl, hvalue, hnone, Option.some_or, Option.none_or]
        rfl
      · rw [if_neg hname, List.lookup_cons, beq_eq_false_iff_ne.2 (Ne.symm hname)]

/-- Every value that a flag has is one that it takes. -/
def Checked (c : Command) (r : Reading) : Prop :=
  ∀ e ∈ r.given, ∃ f ∈ c.flags, f.name = e.1 ∧ f.kind.check e.2.value = .ok ()

theorem Typed.checked (h : r.Typed c) : r.Checked c := fun e he =>
  have ⟨_, f, hf, hname, hcheck, _⟩ := h.given e he
  ⟨f, hf, hname, hcheck⟩

/-- The environment is checked, too. -/
theorem Checked.fill (h : r.Checked c) (hflags : flags ⊆ c.flags)
    (hr : fill env flags r = .ok r') : r'.Checked c := by
  induction flags generalizing r with
  | nil =>
    cases hr
    exact h
  | cons f rest ih =>
    obtain ⟨hf, hrest⟩ := List.cons_subset.1 hflags
    rcases fill_cons hr with ⟨-, hr⟩ | ⟨v, -, -, hcheck, hr⟩
    · exact ih h hrest hr
    · have hmid : Checked c { r with given := (f.name, ⟨.environment, v⟩) :: r.given } :=
        List.forall_mem_cons.2 ⟨⟨f, hf, rfl, hcheck⟩, h⟩
      exact ih hmid hrest hr

/-- The value of a flag is one that it takes, if no other flag has its name. -/
theorem Checked.check (h : r.Checked c) (hnames : (c.flags.map (·.name)).Nodup) (hf : f ∈ c.flags)
    {g : Given} (hg : r.given.lookup f.name = some g) : f.kind.check g.value = .ok () := by
  obtain ⟨f', hf', hname, hcheck⟩ := h (f.name, g) (mem_given hg)
  obtain rfl := List.inj_on_of_nodup_map hnames hf' hf hname
  exact hcheck

/-- What stands among the arguments for a flag, in front of the action or behind it, where it counts
    more. -/
def typed? (outer inner : Reading) (name : String) : Option String :=
  ((inner.given.lookup name).or (outer.given.lookup name)).map (·.value)

theorem Typed.source {g : Given} (h : r.Typed c) (hg : r.given.lookup name = some g) :
    g.source = .commandLine := (h.given (name, g) (mem_given hg)).1

/-- A switch that stands there is on. -/
theorem Typed.switch {g : Given} (h : r.Typed c) (hnames : (c.flags.map (·.name)).Nodup)
    (hf : f ∈ c.flags) (hkind : f.kind = .switch) (hg : r.given.lookup f.name = some g) :
    g.value = "true" := by
  obtain ⟨-, f', hf', hname, -, hon⟩ := h.given (f.name, g) (mem_given hg)
  obtain rfl := List.inj_on_of_nodup_map hnames hf' hf hname
  exact hon hkind

/-- A flag comes to what stands among the arguments, or else to what the environment has for it. -/
theorem value?_of_fill {outer outer' inner inner' : Reading} {c' : Command} {flags' : List Flag}
    (houter : outer.Typed c) (hinner : inner.Typed c') (hfill : fill env flags outer = .ok outer')
    (hfill' : fill env flags' inner = .ok inner')
    (hsame : inEnvironment env flags' name = inEnvironment env flags name) :
    value? outer' inner' name = (typed? outer inner name).or (inEnvironment env flags name) := by
  rw [value?, typed?, lookup_fill hfill, lookup_fill hfill', hsame]
  rcases hi : inner.given.lookup name with _ | i <;> rcases ho : outer.given.lookup name with _ | o
  · cases inEnvironment env flags name <;> rfl
  · have hsource := houter.source ho
    cases inEnvironment env flags name <;> simp [hsource]
  · have hsource := hinner.source hi
    cases inEnvironment env flags name <;> simp [hsource]
  · have hsource := hinner.source hi
    simp [hsource]

/-- A value is one of the two that are given. -/
theorem value?_eq_some {outer inner : Reading} {text : String}
    (h : value? outer inner name = some text) :
    (∃ g, outer.given.lookup name = some g ∧ g.value = text) ∨
      ∃ g, inner.given.lookup name = some g ∧ g.value = text := by
  rw [value?] at h
  rcases ho : outer.given.lookup name with _ | o <;> rcases hi : inner.given.lookup name with _ | i <;>
    rw [ho, hi] at h
  · cases h
  · exact .inr ⟨i, rfl, Option.some.inj h⟩
  · exact .inl ⟨o, rfl, Option.some.inj h⟩
  · dsimp only at h
    split at h
    · exact .inl ⟨o, rfl, Option.some.inj h⟩
    · exact .inr ⟨i, rfl, Option.some.inj h⟩

theorem finish_eq_ok : r.finish c env = .ok r' ↔
    ∃ mid, r.settle = .ok mid ∧ mid.fill env c.flags = .ok r' := bind_eq_ok

end Reading

/-! ## What an invocation asks for -/

/-- What is read of the arguments of a command, up to its end or to a subcommand. -/
def Command.Reads (c : Command) (args : List String) (r : Reading)
    (sub : Option (String × List String)) : Prop :=
  ∃ mid, Reading.empty.run c args = .ok (mid, sub) ∧ mid.settle = .ok r

theorem Command.Reads.typed {c : Command} {args : List String} {r : Reading}
    {sub : Option (String × List String)} (h : c.Reads args r sub) : r.Typed c := by
  obtain ⟨mid, hrun, hsettle⟩ := h
  exact ((Reading.typed_empty c).run hrun).settle hsettle

theorem nodup_service : (service.flags.map (·.name)).Nodup := by decide

theorem nodup_command (action : String) : ((command action).flags.map (·.name)).Nodup := by
  unfold command
  split <;> decide

/-- Every setting has its flag in front of the action -/
theorem settingFlags_subset_service : settingFlags ⊆ service.flags := List.subset_append_left _ _

/-- and behind it. -/
theorem settingFlags_subset_command (action : String) :
    settingFlags ⊆ (command action).flags := by
  unfold command
  split
  · exact List.subset_cons_of_subset _ (List.subset_append_left _ _)
  · exact List.subset_cons_of_subset _
      (List.subset_cons_of_subset _ (List.subset_append_left _ _))
  · exact List.subset_cons_of_subset _ (List.subset_append_left _ _)

namespace Invocation

/-- What an invocation asks for, by what stands among its arguments for each flag and by its
    environment. -/
structure Asks (typed env : String → Option String) (i : Invocation) : Prop where
  catalogUrl : i.overrides.catalogUrl = (typed "catalog-url").or (env "CATALOG_URL")
  /-- A time is the number that the text denotes. -/
  refreshInterval : i.overrides.refreshInterval.map some =
    ((typed "refresh-interval").or (env "CATALOG_REFRESH_INTERVAL")).map word?
  dataDir : i.overrides.dataDir =
    ((typed "data-dir").or (env "CATALOG_DATA_DIR")).map Location.ofString
  templatesDir : i.overrides.templatesDir =
    ((typed "templates-dir").or (env "CATALOG_TEMPLATES_DIR")).map Location.ofString
  branch : i.overrides.branch = (typed "branch").or (env "CATALOG_BRANCH")
  gitTimeout : i.overrides.gitTimeout.map some =
    ((typed "git-timeout").or (env "CATALOG_GIT_TIMEOUT")).map word?
  logFile : i.overrides.logFile =
    ((typed "log-file").or (env "CATALOG_LOG_FILE")).map Location.ofString
  /-- The flag takes no value: it is enough that it stands there. -/
  debug : i.overrides.debug = true ↔
    (typed "debug").isSome = true ∨ env "CATALOG_DEBUG" = some "true"
  settingsFile : i.settingsFile =
    ((typed "config").or (env "CATALOG_CONFIG")).map Location.ofString

variable {env : String → Option String} {args : List String} {i : Invocation}

/-- An invocation is read in two parts, the second with the action. -/
theorem parse_eq_ok (h : parse env args = .ok i) :
    ∃ action rest outer inner sub outer' inner' act,
      service.Reads args outer (some (action, rest)) ∧ (command action).Reads rest inner sub ∧
      outer.fill env service.flags = .ok outer' ∧
      inner.fill env (command action).flags = .ok inner' ∧
      action? action inner' = .ok act ∧ i = ofReadings outer' inner' act := by
  obtain ⟨⟨outer, sub⟩, hrun, h⟩ := bind_eq_ok.1 h
  dsimp only at h
  split at h
  · cases h
  · next action rest _ =>
    obtain ⟨⟨inner, sub⟩, hrun', h⟩ := bind_eq_ok.1 h
    obtain ⟨inner', hinner, h⟩ := bind_eq_ok.1 h
    obtain ⟨act, hact, h⟩ := bind_eq_ok.1 h
    obtain ⟨outer', houter, h⟩ := bind_eq_ok.1 h
    obtain ⟨settled, hsettle, hfill⟩ := Reading.finish_eq_ok.1 houter
    obtain ⟨settled', hsettle', hfill'⟩ := Reading.finish_eq_ok.1 hinner
    cases h
    exact ⟨action, rest, settled, settled', sub, outer', inner', act, ⟨outer, hrun, hsettle⟩,
      ⟨inner, hrun', hsettle'⟩, hfill, hfill', hact, rfl⟩
  · obtain ⟨_, -, h⟩ := bind_eq_ok.1 h
    split at h <;> cases h

section

variable {action : String} {rest : List String} {outer outer' inner inner' : Reading}
  {sub sub' : Option (String × List String)} {f : Flag}

/-- A flag for a setting comes to what stands among the arguments, or else to what its variable
    holds. -/
theorem value?_of_reads (houter : service.Reads args outer sub)
    (hinner : (command action).Reads rest inner sub')
    (hfill : outer.fill env service.flags = .ok outer')
    (hfill' : inner.fill env (command action).flags = .ok inner') (hf : f ∈ settingFlags) :
    Reading.value? outer' inner' f.name =
      (Reading.typed? outer inner f.name).or (f.variableName.bind env) := by
  have henv : Reading.inEnvironment env service.flags f.name = f.variableName.bind env :=
    Reading.inEnvironment_of_mem nodup_service (settingFlags_subset_service hf)
  have henv' : Reading.inEnvironment env (command action).flags f.name = f.variableName.bind env :=
    Reading.inEnvironment_of_mem (nodup_command action) (settingFlags_subset_command action hf)
  rw [← henv]
  exact Reading.value?_of_fill houter.typed hinner.typed hfill hfill' (henv'.trans henv.symm)

/-- That is something that the flag takes. -/
theorem check_of_reads (houter : service.Reads args outer sub)
    (hinner : (command action).Reads rest inner sub')
    (hfill : outer.fill env service.flags = .ok outer')
    (hfill' : inner.fill env (command action).flags = .ok inner') (hf : f ∈ settingFlags)
    {text : String} (h : Reading.value? outer' inner' f.name = some text) :
    f.kind.check text = .ok () := by
  rcases Reading.value?_eq_some h with ⟨g, hg, rfl⟩ | ⟨g, hg, rfl⟩
  · exact (houter.typed.checked.fill (List.Subset.refl _) hfill).check nodup_service
      (settingFlags_subset_service hf) hg
  · exact (hinner.typed.checked.fill (List.Subset.refl _) hfill').check (nodup_command action)
      (settingFlags_subset_command action hf) hg

/-- A switch for a setting is on if it stands among the arguments. -/
theorem eq_true_of_typed? (houter : service.Reads args outer sub)
    (hinner : (command action).Reads rest inner sub') (hf : f ∈ settingFlags)
    (hkind : f.kind = .switch) {text : String}
    (h : Reading.typed? outer inner f.name = some text) : text = "true" := by
  obtain ⟨g, hg, rfl⟩ := Option.map_eq_some_iff.1 h
  rcases Option.or_eq_some_iff.1 hg with hg | ⟨-, hg⟩
  · exact hinner.typed.switch (nodup_command action) (settingFlags_subset_command action hf) hkind hg
  · exact houter.typed.switch nodup_service (settingFlags_subset_service hf) hkind hg

end

/-- A text that is taken for a number is one. -/
theorem map_some_bind_word? {o : Option String}
    (h : ∀ {text}, o = some text → Kind.word.check text = .ok ()) :
    (o.bind word?).map some = o.map word? := by
  cases o with
  | none => rfl
  | some text =>
    have hcheck := h rfl
    rw [Kind.check] at hcheck
    split at hcheck
    · next hword =>
      obtain ⟨w, hw⟩ := Option.isSome_iff_exists.1 hword
      simp [hw]
    · cases hcheck

/-- **Settings on the command line**: each setting that an invocation asks for is the value of its
    own flag, as it stands behind the action or else in front of it, or else that of its own
    variable; and so is the settings file. -/
theorem parse_asks (h : parse env args = .ok i) :
    ∃ action rest outer inner sub, service.Reads args outer (some (action, rest)) ∧
      (command action).Reads rest inner sub ∧ i.Asks (Reading.typed? outer inner) env := by
  obtain ⟨action, rest, outer, inner, sub, outer', inner', act, houter, hinner, hfill, hfill', -,
    rfl⟩ := parse_eq_ok h
  have hvalue (f : Flag) (hf : f ∈ settingFlags) := value?_of_reads houter hinner hfill hfill' hf
  have hlocation (f : Flag) (hf : f ∈ settingFlags) :=
    congrArg (Option.map Location.ofString) (hvalue f hf)
  have hword (f : Flag) (hf : f ∈ settingFlags) (hkind : f.kind = .word) :
      ((Reading.value? outer' inner' f.name).bind word?).map some =
        ((Reading.typed? outer inner f.name).or (f.variableName.bind env)).map word? := by
    rw [← hvalue f hf]
    refine map_some_bind_word? fun htext => ?_
    rw [← hkind]
    exact check_of_reads houter hinner hfill hfill' hf htext
  have hswitch : (⟨"debug", some 'v', some "CATALOG_DEBUG", .switch⟩ : Flag) ∈ settingFlags := by
    decide
  refine ⟨action, rest, outer, inner, sub, houter, hinner, ?_⟩
  exact
    { catalogUrl := hvalue ⟨"catalog-url", none, some "CATALOG_URL", .text⟩ (by decide)
      refreshInterval :=
        hword ⟨"refresh-interval", none, some "CATALOG_REFRESH_INTERVAL", .word⟩ (by decide) rfl
      dataDir := hlocation ⟨"data-dir", none, some "CATALOG_DATA_DIR", .location⟩ (by decide)
      templatesDir :=
        hlocation ⟨"templates-dir", none, some "CATALOG_TEMPLATES_DIR", .location⟩ (by decide)
      branch := hvalue ⟨"branch", none, some "CATALOG_BRANCH", .text⟩ (by decide)
      gitTimeout := hword ⟨"git-timeout", none, some "CATALOG_GIT_TIMEOUT", .word⟩ (by decide) rfl
      logFile := hlocation ⟨"log-file", none, some "CATALOG_LOG_FILE", .location⟩ (by decide)
      debug := by
        show decide (Reading.value? outer' inner' "debug" = some "true") = true ↔ _
        rw [decide_eq_true_iff, hvalue _ hswitch]
        rcases hstands : Reading.typed? outer inner "debug" with _ | text
        · simp
        · obtain rfl := eq_true_of_typed? houter hinner hswitch rfl hstands
          simp
      settingsFile := hlocation ⟨"config", some 'c', some "CATALOG_CONFIG", .location⟩ (by decide) }

/-- Behind the action a flag counts more than in front of it, and there more than its variable. -/
example : (parse (fun name => if name = "CATALOG_BRANCH" then some "main" else none)
    ["--data-dir=a", "list", "--data-dir", "b", "-v"]).map (·.overrides) =
      .ok { Overrides.none with
        dataDir := some (.ofString "b"), branch := some "main", debug := true } := by
  decide +kernel

end Invocation

end TemplateCatalog.CommandLine
