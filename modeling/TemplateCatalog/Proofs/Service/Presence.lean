import TemplateCatalog.Machine
import TemplateCatalog.Proofs.Disk.Coherence
import TemplateCatalog.Proofs.Procedure
import TemplateCatalog.Service

/-!
# What is taken for a mirror

Whether there is a mirror is told by its entry `.git` alone, whatever is in that. A clone that
was interrupted may leave an entry `.git` that git itself would not accept
(`Disk.Interrupted`), and it is taken for a mirror all the same: nothing clones it anew.

* `GitSource.commands_of_ensure`, `GitSource.commands_of_synchronize`: what the calls of a
  source run;
* `Service.comesTo_rebuild`, `Service.comesTo_cycle`: what a cycle does, from its first question
  to its end;
* `Service.taken_iff`: what is taken for no mirror, and what for one.
-/

namespace TemplateCatalog

/-! ## What git came to -/

namespace Git

/-- A command ended well. -/
def Outcome.Succeeded (o : Outcome) : Prop := ∃ stdout stderr, o = .ended (some 0) stdout stderr

/-- A call of a source succeeds exactly if its command ended well. -/
theorem Command.interpret_succeeds_iff {c : Command} {o : Outcome} :
    ((c.interpret o).map fun _ => ()) = .ok () ↔ o.Succeeded := by
  cases o with
  | notStarted e => exact ⟨nofun, nofun⟩
  | timedOut => exact ⟨nofun, nofun⟩
  | ended code stdout stderr =>
    rw [Command.interpret]
    by_cases hcode : code = some 0
    · rw [if_pos hcode, hcode]
      exact ⟨fun _ => ⟨stdout, stderr, rfl⟩, fun _ => rfl⟩
    · rw [if_neg hcode]
      refine ⟨fun h => ?_, fun ⟨_, _, h⟩ => ?_⟩
      · cases hurl : c.cloneUrl <;> rw [hurl] at h <;> cases h
      · cases h
        exact absurd rfl hcode

end Git

/-! ## What the calls of a source do -/

/-- The entry by which a mirror is known. -/
def Location.gitEntry (mirror : Location) : Location := mirror.child ".git"

/-- All that was told of the entry by which a mirror is known is what a disk says of it. -/
def Disk.TellsOfMirror (d : Disk) (mirror : Location) (told : List Deed) : Prop :=
  ∀ present, ⟨.isPresent mirror.gitEntry, present⟩ ∈ Deed.answers told →
    present = d.isPresent mirror.gitEntry

namespace GitSource

variable {s : GitSource} {remote : String} {mirror : Location} {told : List Deed}
  {r : Except Failure Unit}

/-- The command that makes a mirror. -/
def cloning (s : GitSource) (remote : String) (mirror : Location) : Git.Command :=
  .clone remote mirror s.timeout

/-- The command that brings a mirror up to date. -/
def pulling (s : GitSource) (mirror : Location) : Git.Command := .pull s.branch mirror s.timeout

/-- The disk is asked whether there is a mirror. -/
theorem comesTo_isPresent {present : Bool} :
    (Procedure.ofInquiry (isPresent mirror)).ComesTo told present ↔
      told = [⟨.ask (.isPresent mirror.gitEntry), present⟩] := by
  refine Procedure.comesTo_ofInquiry.trans ⟨?_, ?_⟩
  · rintro ⟨asked, rfl, h⟩
    obtain rfl := Interaction.comesTo_question_iff.1 h
    rfl
  · rintro rfl
    exact ⟨[⟨.isPresent mirror.gitEntry, present⟩], rfl, Interaction.comesTo_question_iff.2 rfl⟩

/-- What is there already is left alone; what is not is cloned, once. -/
theorem commands_of_ensure (h : (s.ensure remote mirror).ComesTo told r) :
    ∃ present, Deed.answers told = [⟨.isPresent mirror.gitEntry, present⟩] ∧
      ((present = true ∧ Deed.commands told = [] ∧ r = .ok ()) ∨
        (present = false ∧ ∃ outcome, Deed.commands told = [(s.cloning remote mirror, outcome)] ∧
          (r = .ok () ↔ outcome.Succeeded))) := by
  obtain ⟨told₁, present, told₂, rfl, hask, hrest⟩ := Interaction.comesTo_bind.1 h
  obtain rfl := comesTo_isPresent.1 hask
  refine ⟨present, ?_⟩
  cases present with
  | true =>
    obtain ⟨told₃, _, told₄, rfl, hnote, hpure⟩ := Interaction.comesTo_bind.1 hrest
    obtain rfl := Interaction.comesTo_question_iff.1 hnote
    obtain ⟨rfl, rfl⟩ := Interaction.comesTo_pure_iff.1 hpure
    exact ⟨rfl, .inl ⟨rfl, rfl, rfl⟩⟩
  | false =>
    obtain ⟨told₃, _, told₄, rfl, hnote, h₁⟩ := Interaction.comesTo_bind.1 hrest
    obtain rfl := Interaction.comesTo_question_iff.1 hnote
    obtain ⟨told₅, output, told₆, rfl, hgit, hpure⟩ := Interaction.comesTo_bind.1 h₁
    obtain ⟨rfl, rfl⟩ := Interaction.comesTo_pure_iff.1 hpure
    obtain ⟨outcome, rfl, rfl⟩ := Procedure.comesTo_git.1 hgit
    refine ⟨by simp [Deed.answer?], .inr ⟨rfl, outcome, by simp [Deed.command?, cloning], ?_⟩⟩
    exact Git.Command.interpret_succeeds_iff

/-- What making a mirror does as long as the disk says one thing of the entry `.git`. -/
theorem commands_of_ensure_of_tells {d : Disk} (h : (s.ensure remote mirror).ComesTo told r)
    (hd : d.TellsOfMirror mirror told) :
    (d.isPresent mirror.gitEntry = true → Deed.commands told = [] ∧ r = .ok ()) ∧
      (d.isPresent mirror.gitEntry = false → ∃ outcome,
        Deed.commands told = [(s.cloning remote mirror, outcome)] ∧
          (r = .ok () ↔ outcome.Succeeded)) := by
  obtain ⟨present, hasked, hensure⟩ := commands_of_ensure h
  have hpresent : present = d.isPresent mirror.gitEntry := hd present (by simp [hasked])
  rw [← hpresent]
  rcases hensure with ⟨rfl, hidle⟩ | ⟨rfl, hcloned⟩
  · exact ⟨fun _ => hidle, nofun⟩
  · exact ⟨nofun, fun _ => hcloned⟩

/-- A mirror is brought up to date by one pull. -/
theorem commands_of_synchronize (h : (s.synchronize mirror).ComesTo told r) :
    Deed.answers told = [] ∧ ∃ outcome, Deed.commands told = [(s.pulling mirror, outcome)] ∧
      (r = .ok () ↔ outcome.Succeeded) := by
  obtain ⟨told₁, _, told₂, rfl, hnote, h₁⟩ := Interaction.comesTo_bind.1 h
  obtain rfl := Interaction.comesTo_question_iff.1 hnote
  obtain ⟨told₃, output, told₄, rfl, hgit, hpure⟩ := Interaction.comesTo_bind.1 h₁
  obtain ⟨rfl, rfl⟩ := Interaction.comesTo_pure_iff.1 hpure
  obtain ⟨outcome, rfl, rfl⟩ := Procedure.comesTo_git.1 hgit
  exact ⟨by simp [Deed.answer?], outcome, by simp [Deed.command?, pulling],
    Git.Command.interpret_succeeds_iff⟩

end GitSource

/-! ## What a cycle does -/

namespace Service

variable {s s' : Service} {q : Request} {told : List Deed}

/-- A rebuild asks the disk what a walk asks, and publishes what the walk comes to; it runs no
    git command. -/
theorem comesTo_rebuild {report : Report} (h : s.rebuild.ComesTo told (s', report)) :
    ∃ survey now, (Survey.inquire s.root).ComesTo (Deed.answers told) survey ∧
      Deed.commands told = [] ∧ s' = { s with published := s.published.next now survey } ∧
      report = survey.report (s.published.generation + 1) := by
  obtain ⟨told₁, survey, told₂, rfl, hwalk, h₁⟩ := Interaction.comesTo_bind.1 h
  obtain ⟨told₃, _, told₄, rfl, hnotes, h₂⟩ := Interaction.comesTo_bind.1 h₁
  obtain ⟨told₅, now, told₆, rfl, hclock, h₃⟩ := Interaction.comesTo_bind.1 h₂
  obtain ⟨told₇, _, told₈, rfl, hnote, hpure⟩ := Interaction.comesTo_bind.1 h₃
  obtain ⟨asked, rfl, hsurvey⟩ := Procedure.comesTo_ofInquiry.1 hwalk
  obtain rfl := Procedure.comesTo_noteAll.1 hnotes
  obtain rfl := Interaction.comesTo_question_iff.1 hclock
  obtain rfl := Procedure.comesTo_noteAll.1 hnote
  obtain ⟨rfl, heq⟩ := Interaction.comesTo_pure_iff.1 hpure
  obtain ⟨rfl, rfl⟩ := Prod.mk.inj heq
  refine ⟨survey, now, ?_, by simp [Deed.command?, Deed.ofNote], rfl, rfl⟩
  simpa [Deed.answer?, Deed.ofNote] using hsurvey

/-- A cycle asks whether there is a mirror, and makes the call that goes with the answer. If its
    result is fatal the cycle is over, and nothing has changed; otherwise it rebuilds. -/
theorem comesTo_cycle {r : Except Failure Report} (h : (s.cycle q).ComesTo told (s', r)) :
    ∃ present result called rest,
      told = ⟨.ask (.isPresent s.mirror.gitEntry), present⟩ ::
        ((q.notesBefore s.remote s.mirror present).map Deed.ofNote ++ (called ++ rest)) ∧
      (s.source.call s.remote s.mirror (.ofPresence present)).ComesTo called result ∧
      ((∃ f, q.fatal? (.ofPresence present) result = some f ∧ rest = [] ∧ s' = s ∧ r = .error f) ∨
        q.fatal? (.ofPresence present) result = none ∧ ∃ rebuilt report,
          rest = (Request.notesAfter s.mirror (.ofPresence present) result).map Deed.ofNote ++
            rebuilt ∧
          s.rebuild.ComesTo rebuilt (s', report) ∧ r = .ok report) := by
  obtain ⟨told₁, present, told₂, rfl, hask, h₁⟩ := Interaction.comesTo_bind.1 h
  obtain ⟨told₃, _, told₄, rfl, hnotes, h₂⟩ := Interaction.comesTo_bind.1 h₁
  obtain ⟨told₅, result, told₆, rfl, hcall, hrest⟩ := Interaction.comesTo_bind.1 h₂
  obtain rfl := GitSource.comesTo_isPresent.1 hask
  obtain rfl := Procedure.comesTo_noteAll.1 hnotes
  refine ⟨present, result, told₅, told₆, rfl, hcall, ?_⟩
  -- Whether the result is fatal decides between the two ends of the cycle.
  cases hfatal : q.fatal? (.ofPresence present) result with
  | some f =>
    rw [hfatal] at hrest
    obtain ⟨rfl, heq⟩ := Interaction.comesTo_pure_iff.1 hrest
    obtain ⟨rfl, rfl⟩ := Prod.mk.inj heq
    exact .inl ⟨f, rfl, rfl, rfl, rfl⟩
  | none =>
    rw [hfatal] at hrest
    obtain ⟨told₇, _, told₈, rfl, hafter, h₃⟩ := Interaction.comesTo_bind.1 hrest
    obtain ⟨told₉, ⟨s₁, report⟩, told₁₀, rfl, hrebuild, hpure⟩ := Interaction.comesTo_bind.1 h₃
    obtain rfl := Procedure.comesTo_noteAll.1 hafter
    obtain ⟨rfl, heq⟩ := Interaction.comesTo_pure_iff.1 hpure
    obtain ⟨rfl, rfl⟩ := Prod.mk.inj heq
    exact .inr ⟨rfl, told₉, report, by rw [List.append_nil], hrebuild, rfl⟩

/-- As long as the disk says one thing of the entry `.git`, a cycle runs one git command: the pull
    of a mirror, or else the clone that makes one. -/
theorem commands_of_cycle {d : Disk} {r : Except Failure Report}
    (h : (s.cycle q).ComesTo told (s', r)) (hd : d.TellsOfMirror s.mirror told) :
    ∃ outcome, Deed.commands told = [(if d.isPresent s.mirror.gitEntry
      then s.source.pulling s.mirror else s.source.cloning s.remote s.mirror, outcome)] := by
  obtain ⟨present, result, called, rest, rfl, hcall, hrest⟩ := comesTo_cycle h
  -- Whatever comes after the call, it runs no command.
  have hidle : Deed.commands rest = [] := by
    rcases hrest with ⟨f, -, rfl, -, -⟩ | ⟨-, rebuilt, report, rfl, hrebuild, -⟩
    · rfl
    · obtain ⟨survey, now, -, hcommands, -, -⟩ := comesTo_rebuild hrebuild
      simp [hcommands]
  have hpresent : present = d.isPresent s.mirror.gitEntry := hd present (by simp [Deed.answer?])
  simp only [Deed.commands_cons, Deed.commands_append, Deed.commands_ofNote, hidle, List.append_nil,
    List.nil_append]
  cases present with
  | true =>
    obtain ⟨-, outcome, hcommands, -⟩ := GitSource.commands_of_synchronize hcall
    exact ⟨outcome, by rw [← hpresent, hcommands]; rfl⟩
  | false =>
    have hcalled : d.TellsOfMirror s.mirror called := fun present' h => hd present' (by simp [h])
    obtain ⟨outcome, hcommands, -⟩ :=
      (GitSource.commands_of_ensure_of_tells hcall hcalled).2 hpresent.symm
    exact ⟨outcome, by rw [← hpresent, hcommands]; rfl⟩

/-- What a disk holds is taken for no mirror: it is cloned, and only a clone that ended well makes
    a mirror of it. -/
structure TakesForNone (s : Service) (d : Disk) : Prop where
  absent : (GitSource.isPresent s.mirror).run d = false
  ensured : ∀ told r, (s.source.ensure s.remote s.mirror).ComesTo told r →
    d.TellsOfMirror s.mirror told → ∃ outcome,
      Deed.commands told = [(s.source.cloning s.remote s.mirror, outcome)] ∧
        (r = .ok () ↔ outcome.Succeeded)
  /-- Both the first cycle and every later one clone. -/
  cloned : ∀ q told s' r, (s.cycle q).ComesTo told (s', r) → d.TellsOfMirror s.mirror told →
    ∃ outcome, Deed.commands told = [(s.source.cloning s.remote s.mirror, outcome)]

/-- What a disk holds is taken for a mirror: it is never cloned. -/
structure TakesForMirror (s : Service) (d : Disk) : Prop where
  present : (GitSource.isPresent s.mirror).run d = true
  /-- Making a mirror succeeds, and runs nothing. -/
  ensured : ∀ told r, (s.source.ensure s.remote s.mirror).ComesTo told r →
    d.TellsOfMirror s.mirror told → Deed.commands told = [] ∧ r = .ok ()
  pulled : ∀ q told s' r, (s.cycle q).ComesTo told (s', r) → d.TellsOfMirror s.mirror told →
    ∃ outcome, Deed.commands told = [(s.source.pulling s.mirror, outcome)]

/-- **What is taken for a mirror**: whatever a clone has left behind, it is taken for no mirror
    exactly if there is no entry `.git`, and for a mirror exactly if there is one. -/
theorem taken_iff (s : Service) (d : Disk) :
    (s.TakesForNone d ↔ d.isPresent s.mirror.gitEntry = false) ∧
      (s.TakesForMirror d ↔ d.isPresent s.mirror.gitEntry = true) := by
  refine ⟨⟨fun h => h.absent, fun h => ?_⟩, ⟨fun h => h.present, fun h => ?_⟩⟩
  · refine ⟨h, fun told r hcomes hd => ?_, fun q told s' r hcomes hd => ?_⟩
    · exact (GitSource.commands_of_ensure_of_tells hcomes hd).2 h
    · simpa [h] using commands_of_cycle hcomes hd
  · refine ⟨h, fun told r hcomes hd => ?_, fun q told s' r hcomes hd => ?_⟩
    · exact (GitSource.commands_of_ensure_of_tells hcomes hd).1 h
    · simpa [h] using commands_of_cycle hcomes hd

end Service

/-! ## What an interrupted clone leaves behind -/

/-- Git would accept a directory as a repository: it holds a file `HEAD`, and directories `objects`
    and `refs`. -/
structure Disk.HoldsRepository (d : Disk) (git : Location) : Prop where
  head : d.isPresent (git.child "HEAD") = true ∧ d.isDirectory (git.child "HEAD") = false
  objects : d.isDirectory (git.child "objects") = true
  refs : d.isDirectory (git.child "refs") = true

/-- What an interrupted clone may leave behind: no entry `.git`, or a directory `.git` that git
    would not accept. -/
def Disk.Interrupted (d : Disk) (mirror : Location) : Prop :=
  d.isPresent mirror.gitEntry = false ∨
    d.isDirectory mirror.gitEntry = true ∧ ¬ d.HoldsRepository mirror.gitEntry

/-- A mirror with nothing but an empty directory `.git`. -/
def Volume.stump : Volume :=
  ⟨.directory [(Text.encode "DATA", .directory [(Text.encode ".git", .empty)])], []⟩

namespace Volume

theorem stump_get : stump.get (Location.ofString "DATA").gitEntry = .ok .empty :=
  get_of_straight (by decide) rfl fun target heq => by cases heq

theorem stump_isPresent : stump.disk.isPresent (Location.ofString "DATA").gitEntry = true := by
  show (stump.get (Location.ofString "DATA").gitEntry).toOption.isSome = true
  rw [stump_get]
  rfl

/-- Git would not accept it. -/
theorem stump_interrupted : stump.disk.Interrupted (.ofString "DATA") := by
  have hcoherent : stump.disk.Coherent :=
    coherent (by simp [stump, Tree.WellNamed, Tree.WellNamedEntries, Tree.empty]; decide)
  have hnames : stump.disk.names (Location.ofString "DATA").gitEntry = .ok [] :=
    names_of_get stump_get
  refine .inr ⟨hcoherent.listable hnames, fun h => ?_⟩
  exact List.not_mem_nil (hcoherent.listed hnames (by decide) h.refs)

end Volume

/-- A service over the stump. -/
def Service.stump : Service :=
  { source := ⟨none, 300000⟩
    remote := "catalog.git"
    mirror := .ofString "DATA"
    root := .ofString "DATA/templates"
    refreshInterval := 60
    published := .empty }

/-- The stump is taken for a mirror: making a mirror succeeds without a clone, and every cycle
    pulls. -/
theorem Service.taken_stump :
    Volume.stump.disk.Interrupted stump.mirror ∧ ¬ stump.TakesForNone Volume.stump.disk ∧
    (∃ told, (stump.source.ensure stump.remote stump.mirror).ComesTo told (.ok ()) ∧
      (∀ x ∈ Deed.answers told, x.2 = Volume.stump.disk x.1) ∧ Deed.commands told = []) ∧
    ∀ q, ∃ told s' r outcome, (stump.cycle q).ComesTo told (s', r) ∧
      (∀ x ∈ Deed.answers told, x.2 = Volume.stump.disk x.1) ∧
      Deed.commands told = [(stump.source.pulling stump.mirror, outcome)] := by
  refine ⟨Volume.stump_interrupted, fun h => ?_, ?_, fun q => ?_⟩
  · have habsent : Volume.stump.disk.isPresent stump.mirror.gitEntry = false := h.absent
    exact absurd (habsent.symm.trans Volume.stump_isPresent) (by decide)
  · obtain ⟨told, hcomes, htold⟩ := Procedure.exists_comesTo_still
      (stump.source.ensure stump.remote stump.mirror) Volume.stump.disk .timedOut
    obtain ⟨hcommands, hresult⟩ := (GitSource.commands_of_ensure_of_tells hcomes
      fun present hp => htold _ hp).1 Volume.stump_isPresent
    exact ⟨told, hresult ▸ hcomes, htold, hcommands⟩
  · obtain ⟨told, hcomes, htold⟩ :=
      Procedure.exists_comesTo_still (stump.cycle q) Volume.stump.disk .timedOut
    obtain ⟨outcome, hcommands⟩ := commands_of_cycle hcomes fun present hp => htold _ hp
    have hpresent : Volume.stump.disk.isPresent stump.mirror.gitEntry = true :=
      Volume.stump_isPresent
    rw [if_pos hpresent] at hcommands
    exact ⟨told, _, _, outcome, hcomes, htold, hcommands⟩

end TemplateCatalog
