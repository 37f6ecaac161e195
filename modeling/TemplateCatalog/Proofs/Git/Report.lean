import TemplateCatalog.Proofs.Service.Presence

/-!
# What a failed command is reported as

A command fails if git ends with a code other than zero, or does not end in time. The error should
tell what failed: a clone its address, any other command its operation and what git said
(`Command.Typed`). It does so whenever git ends. What does not end in time is told by its operation
alone, so of a clone that takes too long the address is lost.

* `Command.Says`: the text that goes with a failure;
* `Command.interpret_eq_error_iff`: which failures are reported as which errors;
* `Command.typed_iff_of_reports`: an error tells what it should unless a clone takes too long;
* `Command.executed`: the same of a command as it is run.
-/

namespace TemplateCatalog.Git

/-- Git was started, whatever came of it. -/
def Outcome.Started (o : Outcome) : Prop := ∀ e, o ≠ .notStarted e

namespace Command

variable {c : Command} {o : Outcome} {e : CatalogError}

/-- What is said of a command that fails: what git wrote as errors, or what it wrote else if there
    are none; of a command that takes too long, that it does. -/
inductive Says (c : Command) : Outcome → String → Prop
  | errors {code : Option Nat} {stdout stderr : Bytes} : code ≠ some 0 →
    Text.decodeLossy stderr ≠ "" → Says c (.ended code stdout stderr) (Text.decodeLossy stderr)
  | output {code : Option Nat} {stdout stderr : Bytes} : code ≠ some 0 →
    Text.decodeLossy stderr = "" → Says c (.ended code stdout stderr) (Text.decodeLossy stdout)
  | late : Says c .timedOut ("Git command timed out after " ++
      toString ((c.timeout.getD 0) / 1000) ++ " seconds")

/-- An error that tells what failed: a clone by its address, any other command by its operation,
    which is its own first argument wherever git works, and by what is said of it. -/
inductive Typed (c : Command) (o : Outcome) : CatalogError → Prop
  | clone {url : String} (reason : String) : c.cloneUrl = some url →
    Typed c o (.cloneFailed url reason)
  | other {text : String} : c.cloneUrl = none → c.Says o text →
    Typed c o (.gitFailed (c.args.head?.getD "unknown") text)

/-- The error that a failure is reported as. -/
inductive Reports (c : Command) : Outcome → CatalogError → Prop
  /-- Git ended a clone, and its errors are the reason. -/
  | clone {url : String} {code : Option Nat} {stdout stderr : Bytes} : c.cloneUrl = some url →
    code ≠ some 0 → Reports c (.ended code stdout stderr) (.cloneFailed url (Text.decodeLossy stderr))
  | other {o : Outcome} {text : String} : c.cloneUrl = none → c.Says o text →
    Reports c o (.gitFailed (c.args.head?.getD "unknown") text)
  /-- A clone takes too long. -/
  | lateClone {url text : String} : c.cloneUrl = some url → c.Says .timedOut text →
    Reports c .timedOut (.gitFailed (c.args.head?.getD "unknown") text)

/-- What is said of a command that git ended. -/
theorem says_ended {code : Option Nat} {stdout stderr : Bytes} (hcode : code ≠ some 0) :
    c.Says (.ended code stdout stderr) (if (Text.decodeLossy stderr).isEmpty
      then Text.decodeLossy stdout else Text.decodeLossy stderr) := by
  by_cases hempty : Text.decodeLossy stderr = ""
  · rw [if_pos (String.isEmpty_iff.2 hempty)]
    exact .output hcode hempty
  · rw [if_neg (mt String.isEmpty_iff.1 hempty)]
    exact .errors hcode hempty

theorem Says.eq {text text' : String} (h : c.Says o text) (h' : c.Says o text') : text = text' := by
  cases h with
  | errors _ hsome => cases h' with
    | errors => rfl
    | output _ hnone => exact absurd hnone hsome
  | output _ hnone => cases h' with
    | errors _ hsome => exact absurd hnone hsome
    | output => rfl
  | late => cases h' with
    | late => rfl

theorem interpret_succeeds : (∃ output, c.interpret o = .ok output) ↔ o.Succeeded := by
  rw [← interpret_succeeds_iff (c := c)]
  rcases c.interpret o with f | output
  · exact ⟨nofun, nofun⟩
  · exact ⟨fun _ => rfl, fun _ => ⟨output, rfl⟩⟩

/-- Of a command that was started, every failure is an error of its own, without contexts. -/
theorem exists_reports (hstarted : o.Started) (hfailed : ¬ o.Succeeded) :
    ∃ e, c.interpret o = .error (.ofError e) ∧ c.Reports o e := by
  cases o with
  | notStarted e => exact absurd rfl (hstarted e)
  | timedOut =>
    refine ⟨_, rfl, ?_⟩
    cases hurl : c.cloneUrl with
    | none => exact .other hurl .late
    | some url => exact .lateClone hurl .late
  | ended code stdout stderr =>
    have hcode : code ≠ some 0 := fun hzero => hfailed ⟨stdout, stderr, by rw [hzero]⟩
    rw [interpret, if_neg hcode]
    cases hurl : c.cloneUrl with
    | none => exact ⟨_, rfl, .other hurl (says_ended hcode)⟩
    | some url => exact ⟨_, rfl, .clone hurl hcode⟩

/-- A failure is reported as one error. -/
theorem Reports.eq {e' : CatalogError} (h : c.Reports o e) (h' : c.Reports o e') : e = e' := by
  cases h with
  | clone hurl => cases h' with
    | clone hurl' => rw [Option.some.inj (hurl.symm.trans hurl')]
    | other hnone => exact absurd (hurl.symm.trans hnone) nofun
  | other hnone hsaid => cases h' with
    | clone hurl => exact absurd (hurl.symm.trans hnone) nofun
    | other _ hsaid' => rw [hsaid.eq hsaid']
    | lateClone hurl => exact absurd (hurl.symm.trans hnone) nofun
  | lateClone hurl hsaid => cases h' with
    | other hnone => exact absurd (hurl.symm.trans hnone) nofun
    | lateClone _ hsaid' => rw [hsaid.eq hsaid']

theorem Reports.not_succeeded (h : c.Reports o e) : ¬ o.Succeeded := by
  rintro ⟨stdout, stderr, rfl⟩
  cases h with
  | clone _ hcode => exact hcode rfl
  | other _ hsaid => cases hsaid with
    | errors hcode => exact hcode rfl
    | output hcode => exact hcode rfl

theorem interpret_eq_error_iff (hstarted : o.Started) {f : Failure} :
    c.interpret o = .error f ↔ ∃ e, f = .ofError e ∧ c.Reports o e := by
  constructor
  · intro h
    have hfailed : ¬ o.Succeeded := fun hsucceeded => by
      obtain ⟨output, hok⟩ := interpret_succeeds.2 hsucceeded
      exact absurd (hok.symm.trans h) nofun
    obtain ⟨e, herror, hreports⟩ := exists_reports hstarted hfailed
    exact ⟨e, Except.error.inj (h.symm.trans herror), hreports⟩
  · rintro ⟨e, rfl, hreports⟩
    obtain ⟨e', herror, hreports'⟩ := exists_reports hstarted hreports.not_succeeded
    rw [herror, hreports.eq hreports']

/-- An error tells what failed unless a clone takes too long. -/
theorem typed_iff_of_reports (h : c.Reports o e) :
    c.Typed o e ↔ ¬ (c.cloneUrl.isSome = true ∧ o = .timedOut) := by
  cases h with
  | clone hurl => exact iff_of_true (.clone _ hurl) fun h => nomatch h.2
  | other hnone hsaid =>
    refine iff_of_true (.other hnone hsaid) fun h => ?_
    rw [hnone] at h
    exact absurd h.1 nofun
  | lateClone hurl =>
    refine iff_of_false (fun h => ?_) fun h => h ⟨Option.isSome_of_mem hurl, rfl⟩
    cases h with
    | other hnone => exact absurd (hurl.symm.trans hnone) nofun

/-- What a command comes to that was started. -/
structure Executed (c : Command) (o : Outcome) (r : Except Failure Output) : Prop where
  /-- It succeeds exactly if git ends in time and well. -/
  succeeds : (∃ output, r = .ok output) ↔ o.Succeeded
  fails : ∀ f, r = .error f ↔ ∃ e, f = .ofError e ∧ c.Reports o e
  typed : ∀ e, r = .error (.ofError e) →
    (c.Typed o e ↔ ¬ (c.cloneUrl.isSome = true ∧ o = .timedOut))

/-- **How a command fails**: a command is run once, and may end in any way. Unless git could not be
    started, it succeeds exactly if git ends with the code zero. If it does not, the error tells
    what failed, a clone by its address and any other command by its operation with what git said,
    exactly if it is no clone that takes too long; that one is told by its operation. -/
theorem executed (c : Command) :
    (∀ o, ∃ told r, (Procedure.git c).ComesTo told r ∧ Deed.commands told = [(c, o)]) ∧
    ∀ told r, (Procedure.git c).ComesTo told r →
      ∃ o, Deed.commands told = [(c, o)] ∧ (o.Started → c.Executed o r) := by
  have hcommands (o : Outcome) : Deed.commands (c.notesBefore.map Deed.ofNote ++ ⟨.git c, o⟩ ::
      (c.notesAfter o).map Deed.ofNote) = [(c, o)] := by
    simp [Deed.command?]
  refine ⟨fun o => ⟨_, _, Procedure.comesTo_git.2 ⟨o, rfl, rfl⟩, hcommands o⟩, ?_⟩
  intro told r h
  obtain ⟨o, rfl, rfl⟩ := Procedure.comesTo_git.1 h
  refine ⟨o, hcommands o, fun hstarted => ⟨interpret_succeeds, fun f => ?_, fun e he => ?_⟩⟩
  · exact interpret_eq_error_iff hstarted
  · obtain ⟨e', heq, hreports⟩ := (interpret_eq_error_iff hstarted).1 he
    cases heq
    exact typed_iff_of_reports hreports

/-- A pull that git refuses without a word of its errors is told by its operation and by what git
    wrote else. -/
theorem executed_pull : ∃ told,
    (Procedure.git (.pull none (.ofString "DATA") 1000)).ComesTo told
      (.error (.ofError (.gitFailed "pull" "no"))) ∧
    Deed.commands told = [(.pull none (.ofString "DATA") 1000, .ended none [0x6E, 0x6F] [])] := by
  obtain ⟨hruns, hexecuted⟩ := executed (.pull none (.ofString "DATA") 1000)
  obtain ⟨told, r, hcomes, hcommands⟩ := hruns (.ended none [0x6E, 0x6F] [])
  obtain ⟨o, hcommands', hresult⟩ := hexecuted told r hcomes
  rw [hcommands] at hcommands'
  cases hcommands'
  have hsaid : (Command.pull none (.ofString "DATA") 1000).Says (.ended none [0x6E, 0x6F] [])
      (Text.decodeLossy [0x6E, 0x6F]) := .output nofun (by decide +kernel)
  rw [show Text.decodeLossy [0x6E, 0x6F] = "no" by decide +kernel] at hsaid
  obtain rfl := ((hresult nofun).fails _).2 ⟨_, rfl, .other rfl hsaid⟩
  exact ⟨told, hcomes, hcommands⟩

/-- Of a clone that takes too long the address is lost. -/
theorem executed_lateClone : ∃ told e,
    (Procedure.git (.clone "file:///c.git" (.ofString "DATA") 1000)).ComesTo told
      (.error (.ofError e)) ∧
    Deed.commands told = [(.clone "file:///c.git" (.ofString "DATA") 1000, .timedOut)] ∧
    e = .gitFailed "clone" "Git command timed out after 1 seconds" ∧
    ¬ (Command.clone "file:///c.git" (.ofString "DATA") 1000).Typed .timedOut e := by
  refine ⟨_, _, Procedure.comesTo_git.2 ⟨.timedOut, rfl, rfl⟩, by simp [Deed.command?], rfl, ?_⟩
  rintro (_ | ⟨hnone, -⟩)
  cases hnone

end Command

end TemplateCatalog.Git
