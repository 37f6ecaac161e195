import TemplateCatalog.Proofs.Catalog.Lookup
import TemplateCatalog.Proofs.Interaction
import TemplateCatalog.Proofs.Refresh.Surroundings

/-!
# Cycles and failures

A source may fail in any way, but a cycle that was admitted comes to an end (`Ending`), and
what it comes to depends on the failure in one case only. If a bootstrap finds no mirror and
cannot make one, it fails with that error: it has made this one call and no walk, and has
published nothing. In every other case the cycle publishes what a walk over the disk came to
after the call, and completes; so a refresh never fails. Either way its permit goes back
(`Outcome`).

* `Stage.goes`, `Stage.others`: what a cycle has done when it has come to a phase;
* `Stage.outcome`: what it has done when it has ended;
* `ending`: every phase leads to an end;
* `shows_of_run`: while the disk does not change, what is published is what is on it;
* `resilient`: what becomes of a cycle that was admitted, in any surroundings.
-/

namespace TemplateCatalog

/-- The one case in which a failed call of the source is fatal. -/
theorem Request.fatal?_eq_some {r : Request} {call : SourceCall} {result : Except Failure Unit}
    {f : Failure} :
    r.fatal? call result = some f ↔ r = .bootstrap ∧ call = .ensure ∧ result = .error f := by
  cases r <;> cases call <;> cases result <;> simp [fatal?]

theorem SourceCall.ofPresence_eq_ensure {present : Bool} :
    ofPresence present = .ensure ↔ present = false := by
  cases present <;> decide

namespace Schedule

variable {ι : Type}

/-- What a cycle has published: all that its walk came to, with what others published before
    and after it. -/
structure Rebuilt (root : Location) (caller : ι) (p₀ p : Snapshot) (log : List (Act ι))
    (survey : Survey) (report : Report) : Prop where
  walk : (Survey.inquire root).follow (looks log) = .done survey
  published : ∃ first last d now,
    log = first ++ .step (.published caller report.generation) d :: last ∧
    report = survey.report ((p₀.after (foreign first)).generation + 1) ∧
    p = ((p₀.after (foreign first)).next now survey).after (foreign last)

/-- What a cycle has done that has come to a phase, since it was admitted, when `p₀` was
    published; and what is published now. -/
def Stage (root : Location) (caller : ι) (r : Request) (p₀ : Snapshot) (log : List (Act ι))
    (p : Snapshot) : Phase → Prop
  | .admitted => work log = [] ∧ looks log = [] ∧ p = p₀.after (foreign log)
  | .calling call =>
    ∃ present, call = .ofPresence present ∧ work log = [.called caller r present call] ∧
      looks log = [] ∧ p = p₀.after (foreign log)
  | .walking walk =>
    ∃ present result, r.fatal? (.ofPresence present) result = none ∧
      work log = walkBegun caller r present result (looks log).length ∧
      walk = (Survey.inquire root).follow (looks log) ∧ p = p₀.after (foreign log)
  | .published report =>
    ∃ present result survey, r.fatal? (.ofPresence present) result = none ∧
      work log = walkBegun caller r present result (looks log).length ++
        [.published caller report.generation] ∧
      Rebuilt root caller p₀ p log survey report

/-- What becomes of a cycle that has ended, with the presence of a mirror and the result of its
    call, while the bootstraps in `queue` were waiting. -/
structure Outcome [DecidableEq ι] (root : Location) (caller : ι) (r : Request) (p₀ : Snapshot)
    (queue : List ι) (present : Bool) (result : Except Failure Unit) (log : List (Act ι))
    (answer : Answer) (s : Schedule ι) : Prop where
  /-- A refresh does not fail. -/
  refresh : r = .refresh → ∃ report, answer = .completed report
  /-- A bootstrap fails exactly if there is no mirror and it cannot be made, with that error. -/
  failed_iff : ∀ f, answer = .failed f ↔ r = .bootstrap ∧ present = false ∧ result = .error f
  /-- What has failed has made this one call, no walk and no publication: what is published is
      as it was, but for what others have published. -/
  failed : ∀ f, answer = .failed f →
    work log = [.called caller .bootstrap false .ensure,
      .returned caller (.error f) (some (.failed f))] ∧
    s.published = p₀.after (foreign log)
  /-- What has completed has made one call, and then one walk, and has published all that the
      walk came to: if the disk was `d` since the call, what `d` shows. -/
  completed : ∀ report, answer = .completed report → ∃ survey,
    work log = walkBegun caller r present result (looks log).length ++
      [.published caller report.generation, .ended caller (some (.completed report))] ∧
    Rebuilt root caller p₀ s.published log survey report ∧
    ∀ d, (∀ seen ∈ looks log, seen = d) → survey = (Survey.inquire root).run d
  /-- It always ends in one of these ways. -/
  answered : answer ≠ .skipped
  /-- The gate is open, and the next refresh that is asked for is admitted. -/
  released : queue = [] → s.gate = .ofPermits 1 ∧ ∀ other, (s.request other .refresh).2 = .admitted
  /-- If bootstraps wait, the one that has waited longest is admitted before that. -/
  passedOn : ∀ next rest, queue = next :: rest →
    s.cycle? next = some ⟨next, .bootstrap, .admitted⟩ ∧ s.gate.queue = rest
  /-- Whatever happens after that, the gate is not left shut: a refresh that is asked for while
      no cycle is in flight is admitted. -/
  reopens : ∀ later s', Run (Evolves root) s later s' → s'.cycles = [] →
    ∀ other, (s'.request other .refresh).2 = .admitted

/-! ## What a cycle does -/

section

variable {root : Location} {caller : ι} {r : Request} {p₀ p p' : Snapshot} {log : List (Act ι)}
  {phase phase' : Phase} {a : Act ι} {e : Event ι} {d : Disk} {survey : Survey} {report : Report}

theorem work_concat (log : List (Act ι)) (a : Act ι) :
    work (log ++ [a]) = work log ++ a.work?.toList := by
  rw [work_append]
  cases a with
  | step e d => cases e <;> rfl
  | _ => rfl

theorem looks_concat (log : List (Act ι)) (a : Act ι) :
    looks (log ++ [a]) = looks log ++ a.look?.toList := by
  rw [looks_append]
  cases a with
  | step e d => cases e <;> rfl
  | _ => rfl

theorem foreign_concat (log : List (Act ι)) (a : Act ι) :
    foreign (log ++ [a]) = foreign log ++ a.foreign?.toList := by
  rw [foreign_append]
  cases a <;> rfl

/-- What was published stays, but for what others publish after it. -/
theorem Rebuilt.concat (h : Rebuilt root caller p₀ p log survey report) (hl : a.look? = none) :
    Rebuilt root caller p₀ (p.after a.foreign?.toList) (log ++ [a]) survey report := by
  obtain ⟨hwalk, first, last, d, now, rfl, hreport, rfl⟩ := h
  refine ⟨?_, first, last ++ [a], d, now, by simp, hreport, ?_⟩
  · rw [looks_concat, hl]
    simpa using hwalk
  · rw [foreign_concat, Snapshot.after_append]

/-- What others do leaves a cycle at its stage. -/
theorem Stage.others (h : Stage root caller r p₀ log p phase) (hw : a.work? = none)
    (hl : a.look? = none) :
    Stage root caller r p₀ (log ++ [a]) (p.after a.foreign?.toList) phase := by
  have hwork : work (log ++ [a]) = work log := by rw [work_concat, hw]; exact List.append_nil _
  have hlooks : looks (log ++ [a]) = looks log := by rw [looks_concat, hl]; exact List.append_nil _
  have hafter : p = p₀.after (foreign log) →
      p.after a.foreign?.toList = p₀.after (foreign (log ++ [a])) := by
    rintro rfl
    rw [foreign_concat, Snapshot.after_append]
  -- The work and the looks stay as they were, and what others publish is taken up in `p`.
  cases phase with
  | admitted =>
    obtain ⟨h₁, h₂, h₃⟩ := h
    exact ⟨hwork.trans h₁, hlooks.trans h₂, hafter h₃⟩
  | calling call =>
    obtain ⟨present, hcall, h₁, h₂, h₃⟩ := h
    exact ⟨present, hcall, hwork.trans h₁, hlooks.trans h₂, hafter h₃⟩
  | walking walk =>
    obtain ⟨present, result, hf, h₁, h₂, h₃⟩ := h
    refine ⟨present, result, hf, ?_, ?_, hafter h₃⟩
    · rw [hwork, hlooks, h₁]
    · rw [hlooks, h₂]
  | published report =>
    obtain ⟨present, result, survey, hf, h₁, h₂⟩ := h
    refine ⟨present, result, survey, hf, ?_, h₂.concat hl⟩
    rw [hwork, hlooks, h₁]

/-- A cycle that goes on comes to the stage of its next phase. -/
theorem Stage.goes (h : Stage root caller r p₀ log p phase)
    (hg : Goes root caller r phase p e d phase' p') :
    Stage root caller r p₀ (log ++ [.step e d]) p' phase' := by
  -- The act is the cycle's own, so the foreign ones stay as they were.
  have hforeign : foreign (log ++ [.step e d]) = foreign log := by
    rw [foreign_concat]
    exact List.append_nil _
  cases hg with
  | call _ present =>
    obtain ⟨h₁, h₂, h₃⟩ := h
    refine ⟨present, rfl, ?_, ?_, ?_⟩
    · rw [work_concat, h₁]
      rfl
    · rw [looks_concat, h₂]
      rfl
    · rw [hforeign, h₃]
  | @walk _ result _ _ hf =>
    obtain ⟨present, rfl, h₁, h₂, h₃⟩ := h
    refine ⟨present, result, hf, ?_, ?_, ?_⟩
    · rw [work_concat, looks_concat, h₁, h₂]
      rfl
    · rw [looks_concat, h₂]
      rfl
    · rw [hforeign, h₃]
  | look next =>
    obtain ⟨present, result, hf, h₁, h₂, h₃⟩ := h
    have hlooks : looks (log ++ [.step (.looked caller) d]) = looks log ++ [d] := looks_concat ..
    refine ⟨present, result, hf, ?_, ?_, ?_⟩
    · rw [work_concat, hlooks, h₁, List.length_append, walkBegun, walkBegun, List.length_singleton,
        List.replicate_succ']
      rfl
    · rw [hlooks, Interaction.follow_concat, ← h₂]
      rfl
    · rw [hforeign, h₃]
  | publish survey _ now =>
    obtain ⟨present, result, hf, h₁, h₂, rfl⟩ := h
    refine ⟨present, result, survey, hf, ?_, ?_, log, [], d, now, rfl, rfl, rfl⟩
    · rw [work_concat, looks_concat, h₁]
      simp [Act.work?, Act.look?, Event.isWork, Survey.report]
    · rw [looks_concat, h₂]
      simp [Act.look?]

/-- Where a cycle stands in a schedule since it was admitted. -/
def InFlight (root : Location) (caller : ι) (r : Request) (p₀ : Snapshot) (log : List (Act ι))
    (s : Schedule ι) : Prop :=
  ∃ queue phase p o, s = busy queue ⟨caller, r, phase⟩ p o ∧ Stage root caller r p₀ log p phase

/-- An act after which a cycle of a caller is in flight still: it gives no answer, and it is not
    that the caller goes away. -/
def Act.Keeps (caller : ι) (a : Act ι) : Prop := a.answer? = none ∧ a ≠ .left caller

theorem Goes.answer? (h : Goes root caller r phase p e d phase' p') (d' : Disk) :
    (Act.step e d').answer? = none := by
  cases h <;> rfl

theorem Ends.answer? {answer : Answer} (h : Ends caller r phase e answer) (d' : Disk) :
    (Act.step e d').answer? = some answer := by
  cases h <;> rfl

end

variable [DecidableEq ι] {root : Location} {caller : ι} {r : Request} {p₀ p : Snapshot}
  {log : List (Act ι)} {phase : Phase} {a : Act ι} {e : Event ι} {s₀ s s' : Schedule ι}

theorem InFlight.evolves (h : InFlight root caller r p₀ log s) (he : Evolves root s a s')
    (hkeeps : a.Keeps caller) : InFlight root caller r p₀ (log ++ [a]) s' := by
  obtain ⟨queue, phase, p, o, rfl, hstage⟩ := h
  rcases he.of_busy hkeeps.2 with ⟨e, d, phase', p', rfl, hgoes, rfl⟩ |
    ⟨e, d, answer, rfl, hends, -⟩ | ⟨hw, hl, -, queue', o', rfl⟩
  · exact ⟨queue, phase', p', o, rfl, hstage.goes hgoes⟩
  · have hnone := hkeeps.1
    rw [hends.answer? d] at hnone
    cases hnone
  · exact ⟨queue', phase, _, o', rfl, hstage.others hw hl⟩

/-- A cycle that was admitted is in flight until it ends. -/
theorem inFlight_of_run {queue : List ι} {o : Nat}
    (h : Run (Evolves root) (busy queue ⟨caller, r, .admitted⟩ p₀ o) log s)
    (hkeeps : ∀ a ∈ log, a.Keeps caller) : InFlight root caller r p₀ log s := by
  induction h with
  | nil => exact ⟨queue, .admitted, p₀, o, rfl, rfl, rfl, rfl⟩
  | step _ he ih =>
    obtain ⟨hbefore, hlast⟩ := List.forall_mem_append.1 hkeeps
    exact (ih hbefore).evolves he (List.forall_mem_singleton.1 hlast)

/-! ## How a cycle ends -/

section

variable {queue : List ι} {o : Nat}

omit [DecidableEq ι] in
/-- With nobody waiting the gate is open, -/
theorem released_handedOver (hqueue : queue = []) :
    (handedOver queue p o).gate = .ofPermits 1 ∧
      ∀ other, ((handedOver queue p o).request other .refresh).2 = .admitted := by
  subst hqueue
  exact ⟨rfl, fun _ => rfl⟩

/-- and otherwise the bootstrap that has waited longest is in. -/
theorem passedOn_handedOver {next : ι} {rest : List ι} (hqueue : queue = next :: rest) :
    (handedOver queue p o).cycle? next = some ⟨next, .bootstrap, .admitted⟩ ∧
      (handedOver queue p o).gate.queue = rest := by
  subst hqueue
  exact ⟨cycle?_busy, rfl⟩

/-- Whatever happens then, a refresh is admitted while no cycle is in flight. -/
theorem reopens_handedOver {later : List (Act ι)}
    (h : Run (Evolves root) (handedOver queue p o) later s') (hs : s'.cycles = []) (other : ι) :
    (s'.request other .refresh).2 = .admitted :=
  (onePermit_of_run h (handedOver_onePermit queue p o)).admits hs other

/-- A cycle whose call is fatal fails. -/
theorem Stage.outcome_fail {call : SourceCall} {result : Except Failure Unit} {f : Failure}
    (h : Stage root caller r p₀ log p (.calling call)) (hf : r.fatal? call result = some f)
    (d : Disk) :
    ∃ present, Outcome root caller r p₀ queue present result
      (log ++ [.step (.returned caller result (some (.failed f))) d]) (.failed f)
      (handedOver queue p o) := by
  obtain ⟨present, rfl, hwork, hlooks, hp⟩ := h
  obtain ⟨rfl, hcall, rfl⟩ := Request.fatal?_eq_some.1 hf
  obtain rfl := SourceCall.ofPresence_eq_ensure.1 hcall
  refine ⟨false, nofun, fun f' => ?_, fun f' hfailed => ?_, nofun, nofun, released_handedOver,
    fun _ _ => passedOn_handedOver, fun _ _ => reopens_handedOver⟩
  · constructor
    · intro h
      cases h
      exact ⟨rfl, rfl, rfl⟩
    · rintro ⟨-, -, h⟩
      cases h
      rfl
  · cases hfailed
    refine ⟨?_, ?_⟩
    · rw [work_concat, hwork]
      rfl
    · rw [published_handedOver, hp, foreign_concat]
      exact congrArg _ (List.append_nil _).symm

/-- A cycle that has published completes. -/
theorem Stage.outcome_finish {report : Report}
    (h : Stage root caller r p₀ log p (.published report)) (d : Disk) :
    ∃ present result, Outcome root caller r p₀ queue present result
      (log ++ [.step (.ended caller (some (.completed report))) d]) (.completed report)
      (handedOver queue p o) := by
  obtain ⟨present, result, survey, hf, hwork, hrebuilt⟩ := h
  refine ⟨present, result, fun _ => ⟨report, rfl⟩, fun f => ?_, nofun, fun report' hreport => ?_,
    nofun, released_handedOver, fun _ _ => passedOn_handedOver, fun _ _ => reopens_handedOver⟩
  · constructor
    · intro h
      cases h
    · rintro ⟨rfl, rfl, rfl⟩
      exact absurd hf (Option.some_ne_none f)
  · cases hreport
    have hlooks :
        looks (log ++ [.step (.ended caller (some (.completed report))) d]) = looks log := by
      rw [looks_concat]
      exact List.append_nil _
    refine ⟨survey, ?_, ?_, fun d' hsame => ?_⟩
    · rw [work_concat, hlooks, hwork, List.append_assoc]
      rfl
    · rw [published_handedOver]
      exact hrebuilt.concat (a := .step (.ended caller (some (.completed report))) d) rfl
    · rw [hlooks] at hsame
      have hrun := Interaction.run_follow hsame (Survey.inquire root)
      rw [hrebuilt.walk] at hrun
      exact hrun

end

/-- A cycle that ends has failed or completed. -/
theorem Stage.outcome {answer : Answer} (h : Stage root caller r p₀ log p phase)
    (he : Ends caller r phase e answer) (queue : List ι) (o : Nat) (d : Disk) :
    ∃ present result, Outcome root caller r p₀ queue present result (log ++ [.step e d]) answer
      (handedOver queue p o) := by
  cases he with
  | @fail _ result f hf =>
    obtain ⟨present, hfailed⟩ := h.outcome_fail hf d
    exact ⟨present, result, hfailed⟩
  | finish report => exact h.outcome_finish d

/-- The act that answers the request of a cycle in flight is its end. -/
theorem InFlight.outcome {answer : Answer} (h : InFlight root caller r p₀ log s)
    (he : Evolves root s a s') (hanswer : a.answer? = some answer) :
    ∃ present result, Outcome root caller r p₀ s.gate.queue present result (log ++ [a]) answer
      s' := by
  obtain ⟨queue, phase, p, o, rfl, hstage⟩ := h
  have hstay : a ≠ .left caller := by
    rintro rfl
    cases hanswer
  rcases he.of_busy hstay with ⟨e, d, phase', p', rfl, hgoes, -⟩ |
    ⟨e, d, answer', rfl, hends, rfl⟩ | ⟨-, -, hnone, -⟩
  · rw [hgoes.answer? d] at hanswer
    cases hanswer
  · rw [hends.answer? d] at hanswer
    cases hanswer
    exact hstage.outcome hends queue o d
  · rw [hnone] at hanswer
    cases hanswer

/-- A cycle comes to an end from a phase, whatever its source comes to and whatever is on the
    disk: it can go on or end there, and however it goes on, it comes to an end from where it
    is then. -/
inductive Ending (root : Location) (caller : ι) (r : Request) : Phase → Prop
  | intro {phase : Phase} :
    (∀ p d, (∃ e phase' p', Goes root caller r phase p e d phase' p') ∨
      ∃ e answer, Ends caller r phase e answer) →
    (∀ p e d phase' p', Goes root caller r phase p e d phase' p' → Ending root caller r phase') →
    Ending root caller r phase

omit [DecidableEq ι] in
theorem ending_published (report : Report) : Ending root caller r (.published report) := by
  refine .intro (fun p d => .inr ⟨_, _, .finish report⟩) fun p e d phase' p' h => ?_
  cases h

omit [DecidableEq ι] in
/-- A walk asks only so many questions. -/
theorem ending_walking (walk : Inquiry Survey) : Ending root caller r (.walking walk) := by
  induction walk with
  | done survey =>
    refine .intro (fun p d => .inl ⟨_, _, _, .publish survey p 0 d⟩) fun p e d phase' p' h => ?_
    cases h
    exact ending_published _
  | ask q next ih =>
    refine .intro (fun p d => .inl ⟨_, _, _, .look next p d⟩) fun p e d phase' p' h => ?_
    cases h with
    | look _ => exact ih (d q)

omit [DecidableEq ι] in
/-- A source may come to any result, of which none keeps the cycle from its end. -/
theorem ending_calling (call : SourceCall) : Ending root caller r (.calling call) := by
  have hok : r.fatal? call (.ok ()) = none := by cases r <;> cases call <;> rfl
  refine .intro (fun p d => .inl ⟨_, _, _, .walk p d hok⟩) fun p e d phase' p' h => ?_
  cases h
  exact ending_walking _

omit [DecidableEq ι] in
/-- Every phase leads to an end. -/
theorem ending (phase : Phase) : Ending root caller r phase := by
  cases phase with
  | admitted =>
    refine .intro (fun p d => .inl ⟨_, _, _, .call p true d⟩) fun p e d phase' p' h => ?_
    cases h
    exact ending_calling _
  | calling call => exact ending_calling call
  | walking walk => exact ending_walking walk
  | published report => exact ending_published report

/-- A cycle that comes to an end is not stuck: whatever is on the disk, it can take a step. -/
theorem Ending.exists_evolves (h : Ending root caller r phase) (queue : List ι) (p : Snapshot)
    (o : Nat) (d : Disk) :
    ∃ e s', Evolves root (busy queue ⟨caller, r, phase⟩ p o) (.step e d) s' ∧ e.isWork = true := by
  obtain ⟨hstep, -⟩ := h
  rcases hstep p d with ⟨e, phase', p', hgoes⟩ | ⟨e, answer, hends⟩
  · refine ⟨e, _, hgoes.evolves queue o, ?_⟩
    cases hgoes <;> rfl
  · refine ⟨e, _, hends.evolves queue p o d, ?_⟩
    cases hends <;> rfl

/-! ## A disk that does not change -/

/-- What is published is what a walk over a disk comes to. -/
def Shows (root : Location) (d : Disk) (p : Snapshot) : Prop :=
  p.templates = ((Survey.inquire root).run d).templates

/-- A walk that is under way comes to what is on a disk, if that answers the rest of it. -/
def OnDisk (root : Location) (d : Disk) (s : Schedule ι) : Prop :=
  ∀ c ∈ s.cycles, ∀ walk, c.phase = .walking walk → walk.run d = (Survey.inquire root).run d

/-- An act while a disk stays as it is and nobody else publishes. -/
def Act.Still (d : Disk) : Act ι → Prop
  | step _ d' => d' = d
  | left _ => True
  | orphan .. => False
  | outside .. => False

/-- Since the last rebuild began its walk, the disk has been `d`, and nobody else has
    published. -/
def Unchanged (d : Disk) (log : List (Act ι)) : Prop :=
  ∃ earlier caller result since, log = earlier ++ .step (.returned caller result none) d :: since ∧
    (∃ c g d', .step (.published c g) d' ∈ since) ∧ ∀ a ∈ since, a.Still d

/-- An act in which a walk sees `d`, if it looks at a disk. What is on the disk while nobody
    looks makes no difference. -/
def Act.Sees (d : Disk) (a : Act ι) : Prop := ∀ d', a.look? = some d' → d' = d

/-- An act that publishes something, in a cycle or not. -/
def Act.Publishes : Act ι → Prop
  | step (.published ..) _ => True
  | step .. => False
  | left _ => False
  | orphan .. => True
  | outside .. => True

/-- What others publish is what a walk over `d` comes to, if they publish anything. -/
def Act.Agrees (root : Location) (d : Disk) (a : Act ι) : Prop :=
  ∀ now survey, a.foreign? = some (now, survey) →
    survey.templates = ((Survey.inquire root).run d).templates

omit [DecidableEq ι] in
theorem Act.Still.sees {d : Disk} (h : a.Still d) : a.Sees d := by
  intro d' hlook
  cases a with
  | step e d'' =>
    obtain rfl : d'' = d := h
    cases e with
    | looked => exact (Option.some.inj hlook).symm
    | _ => cases hlook
  | _ => cases hlook

omit [DecidableEq ι] in
theorem Act.Still.foreign? {d : Disk} (h : a.Still d) : a.foreign? = none := by
  cases a with
  | orphan => cases h
  | outside => cases h
  | _ => rfl

omit [DecidableEq ι] in
theorem Act.Still.agrees {d : Disk} (h : a.Still d) : a.Agrees root d := by
  intro now survey hforeign
  rw [h.foreign?] at hforeign
  cases hforeign

omit [DecidableEq ι] in
theorem onDisk_busy {queue : List ι} {d : Disk} {o : Nat} :
    OnDisk root d (busy queue ⟨caller, r, phase⟩ p o) ↔
      ∀ walk, phase = .walking walk → walk.run d = (Survey.inquire root).run d := by
  simp [OnDisk, busy]

/-- While walks see one disk, they come to what is on it, and that is what they publish. -/
theorem OnePermit.onDisk {d : Disk} (h : s.OnePermit) (he : Evolves root s a s') (ha : a.Sees d)
    (hs : OnDisk root d s) :
    OnDisk root d s' ∧ ∀ c g d', a = .step (.published c g) d' → Shows root d s'.published := by
  rcases h.goes_or_rests he with
    ⟨queue, caller, r, phase, phase', p, p', o, e, d', rfl, rfl, hgoes, rfl⟩ | hrests
  · rw [onDisk_busy] at hs ⊢
    cases hgoes with
    | call => exact ⟨nofun, nofun⟩
    | walk _ _ hf =>
      refine ⟨fun walk hwalk => ?_, nofun⟩
      cases hwalk
      rfl
    -- The walk is answered by `d` itself, so what it comes to on `d` is the same.
    | look next =>
      obtain rfl := ha d' rfl
      have hask := hs _ rfl
      refine ⟨fun walk hwalk => ?_, nofun⟩
      cases hwalk
      exact hask
    | publish survey _ now =>
      have hsurvey : survey = (Survey.inquire root).run d := hs _ rfl
      exact ⟨nofun, fun c g d'' _ => congrArg Survey.templates hsurvey⟩
  · refine ⟨fun c hc walk hwalk => ?_, fun c g d' heq => absurd heq (hrests.quiet c g d')⟩
    rcases hrests.cycles c hc with hbefore | hadmitted
    · exact hs c hbefore walk hwalk
    · rw [hadmitted] at hwalk
      cases hwalk

/-- What is published stays unless something is published. -/
theorem OnePermit.published_eq (h : s.OnePermit) (he : Evolves root s a s') (ha : ¬ a.Publishes) :
    s'.published = s.published := by
  rcases h.goes_or_rests he with
    ⟨queue, caller, r, phase, phase', p, p', o, e, d, rfl, rfl, hgoes, rfl⟩ | hrests
  · cases hgoes with
    | publish => exact absurd trivial ha
    | _ => rfl
  · rw [hrests.published]
    cases a with
    | orphan => exact absurd trivial ha
    | outside => exact absurd trivial ha
    | _ => rfl

/-- What others publish is published. -/
theorem Evolves.published_of_foreign {now : Nat} {survey : Survey} (he : Evolves root s a s')
    (ha : a.foreign? = some (now, survey)) : s'.published = s.published.next now survey := by
  cases he with
  | step => cases ha
  | left => cases ha
  | orphan now survey ho =>
    cases ha
    rw [orphanRebuilt_of_pos ho]
    rfl
  | outside now survey =>
    cases ha
    rfl

/-- What is published stays while nothing is published. -/
theorem published_of_run (h : Run (Evolves root) s₀ log s) (hp : s₀.OnePermit)
    (hlog : ∀ a ∈ log, ¬ a.Publishes) : s.published = s₀.published := by
  induction h with
  | nil => rfl
  | step hrun he ih =>
    obtain ⟨hbefore, hlast⟩ := List.forall_mem_append.1 hlog
    have hlast := hlast _ (List.mem_singleton_self _)
    exact ((onePermit_of_run hrun hp).published_eq he hlast).trans (ih hbefore)

/-- While walks see one disk, they come to what is on it. -/
theorem onDisk_of_run {d : Disk} (h : Run (Evolves root) s₀ log s) (hp : s₀.OnePermit)
    (hs : OnDisk root d s₀) (hsees : ∀ a ∈ log, a.Sees d) : OnDisk root d s := by
  induction h with
  | nil => exact hs
  | step hrun he ih =>
    obtain ⟨hbefore, hlast⟩ := List.forall_mem_append.1 hsees
    exact ((onePermit_of_run hrun hp).onDisk he (hlast _ (List.mem_singleton_self _))
      (ih hbefore)).1

/-- While walks see one disk and others agree with them, whatever is published is what is on
    it. -/
theorem shows_of_run {d : Disk} (h : Run (Evolves root) s₀ log s) (hp : s₀.OnePermit)
    (hs : OnDisk root d s₀) (hsees : ∀ a ∈ log, a.Sees d ∧ a.Agrees root d)
    (hpublished : ∃ a ∈ log, a.Publishes) : Shows root d s.published := by
  induction h with
  | nil => simp at hpublished
  | @step log s s' a hrun he ih =>
    obtain ⟨hbefore, hlast⟩ := List.forall_mem_append.1 hsees
    obtain ⟨hseen, hagrees⟩ := hlast a (List.mem_singleton_self a)
    have hone := onePermit_of_run hrun hp
    have hdisk := onDisk_of_run hrun hp hs fun b hb => (hbefore b hb).1
    by_cases ha : a.Publishes
    · -- The last act publishes, in a cycle or not.
      cases a with
      | step e d' =>
        cases e with
        | published c g => exact (hone.onDisk he hseen hdisk).2 c g d' rfl
        | _ => cases ha
      | left => cases ha
      | orphan now survey =>
        rw [Shows, he.published_of_foreign rfl]
        exact hagrees now survey rfl
      | outside now survey =>
        rw [Shows, he.published_of_foreign rfl]
        exact hagrees now survey rfl
    · -- The last act publishes nothing, so what was published before it stands.
      rw [Shows, hone.published_eq he ha]
      refine ih hbefore ?_
      obtain ⟨b, hb, hpublishes⟩ := hpublished
      rcases List.mem_append.1 hb with hb | hb
      · exact ⟨b, hb, hpublishes⟩
      · obtain rfl := List.mem_singleton.1 hb
        exact absurd hpublishes ha

/-- The walk of a cycle whose call has returned has everything to ask still. -/
theorem onDisk_of_returned {result : Except Failure Unit} {d d₀ : Disk} (h : s.OnePermit)
    (he : Evolves root s (.step (.returned caller result none) d₀) s') : OnDisk root d s' := by
  cases he with
  | step hs _ =>
    cases h.turn hs with
    | walk queue p o hf =>
      refine onDisk_busy.2 fun walk hwalk => ?_
      cases hwalk
      rfl

/-- If the disk has not changed since the last rebuild, what is published is what is on it. -/
theorem shows_of_unchanged {d : Disk} (h : Run (Evolves root) .empty log s)
    (hlog : Unchanged d log) : Shows root d s.published := by
  obtain ⟨earlier, caller, result, since, hlog, ⟨c, g, d', hpublished⟩, hstill⟩ := hlog
  obtain ⟨s₁, s₂, hearlier, hreturned, hsince⟩ := h.split_through hlog
  have hone := onePermit_of_run hearlier (idle_onePermit _ _)
  exact shows_of_run hsince (hone.evolves hreturned) (onDisk_of_returned hone hreturned)
    (fun a ha => ⟨(hstill a ha).sees, (hstill a ha).agrees⟩) ⟨_, hpublished, trivial⟩

/-- If the disk shows what was published and stays as it is, a cycle that ends leaves the same
    to be listed, whatever its source came to. -/
theorem Outcome.list_eq {queue : List ι} {present : Bool} {result : Except Failure Unit}
    {answer : Answer} {d : Disk}
    (h : Outcome root caller r s₀.published queue present result log answer s)
    (hrun : Run (Evolves root) s₀ log s) (hp : s₀.OnePermit) (hdisk : OnDisk root d s₀)
    (hshows : Shows root d s₀.published) (hstill : ∀ a ∈ log, a.Still d) :
    s.published.list = s₀.published.list := by
  cases answer with
  | completed report =>
    -- Its walk came to what is on the disk, as did the walk of the last rebuild.
    obtain ⟨survey, -, ⟨-, first, last, d', now, rfl, -⟩, -⟩ := h.completed report rfl
    have hafter := shows_of_run hrun hp hdisk
      (fun a ha => ⟨(hstill a ha).sees, (hstill a ha).agrees⟩)
      ⟨_, List.mem_append_right _ List.mem_cons_self, trivial⟩
    exact congrArg Dictionary.values (hafter.trans hshows.symm)
  | skipped => exact absurd rfl h.answered
  | failed f =>
    have hforeign : foreign log = [] :=
      List.filterMap_eq_nil_iff.2 fun a ha => (hstill a ha).foreign?
    rw [(h.failed f rfl).2, hforeign]
    rfl

/-! ## What becomes of a cycle -/

/-- What becomes of a cycle that was admitted after a run with the log `before`. -/
structure Resilient (root : Location) (before : List (Act ι)) (caller : ι) (r : Request)
    (s₀ : Schedule ι) : Prop where
  /-- Until it is answered it is in flight, it can take a step, and it comes to an end. -/
  ends : ∀ log s, Run (Evolves root) s₀ log s → (∀ a ∈ log, a.Keeps caller) →
    ∃ phase, s.cycle? caller = some ⟨caller, r, phase⟩ ∧ Ending root caller r phase ∧
      ∀ d, ∃ e s', Evolves root s (.step e d) s' ∧ e.isWork = true
  /-- Meanwhile a refresh that is asked for is skipped, and nothing else happens. -/
  skipped : ∀ log s, Run (Evolves root) s₀ log s → (∀ a ∈ log, a.Keeps caller) →
    ∀ other, s.request other .refresh = (s, .skipped)
  /-- What it does and what it is answered depends on the presence of a mirror and the result
      of its call. -/
  outcome : ∀ log s a s' answer, Run (Evolves root) s₀ log s → (∀ a ∈ log, a.Keeps caller) →
    Evolves root s a s' → a.answer? = some answer →
    ∃ present result, Outcome root caller r s₀.published s.gate.queue present result (log ++ [a])
      answer s'
  /-- If the disk has not changed since the last rebuild, it shows what is published. -/
  shows : ∀ d, Unchanged d before → Shows root d s₀.published
  /-- If it shows that still when the cycle has ended, the same is listed as before, though the
      source has failed. -/
  unchanged : ∀ d log s a s' answer, Shows root d s₀.published → Run (Evolves root) s₀ log s →
    (∀ a ∈ log, a.Keeps caller) → Evolves root s a s' → a.answer? = some answer →
    (∀ b ∈ log ++ [a], b.Still d) → s'.published.list = s₀.published.list

/-- **Failures of a cycle**: whatever a source comes to, a cycle that was admitted in any state
    that a schedule can come to ends. A refresh publishes what is on the disk then and
    completes; a bootstrap does too, unless it finds no mirror and cannot make one. Then it
    returns that error, and all is as it was before, with the gate open for the next. -/
theorem resilient {before : List (Act ι)} (h : Run (Evolves root) .empty before s₀)
    (hc : s₀.cycle? caller = some ⟨caller, r, .admitted⟩) :
    Resilient root before caller r s₀ := by
  have hone := onePermit_of_run h (idle_onePermit _ _)
  obtain ⟨queue, hbusy⟩ := hone.eq_busy hc
  have hflight (log : List (Act ι)) (s : Schedule ι) (hrun : Run (Evolves root) s₀ log s)
      (hkeeps : ∀ a ∈ log, a.Keeps caller) : InFlight root caller r s₀.published log s := by
    rw [hbusy] at hrun
    exact inFlight_of_run hrun hkeeps
  refine
    { ends := fun log s hrun hkeeps => ?_
      skipped := fun log s hrun hkeeps other => ?_
      outcome := fun log s a s' answer hrun hkeeps => (hflight log s hrun hkeeps).outcome
      shows := fun d => shows_of_unchanged h
      unchanged := fun d log s a s' answer hshows hrun hkeeps he hanswer hstill => ?_ }
  · obtain ⟨queue, phase, p, o, rfl, -⟩ := hflight log s hrun hkeeps
    exact ⟨phase, cycle?_busy, ending phase, fun d => (ending phase).exists_evolves queue p o d⟩
  · obtain ⟨queue, phase, p, o, rfl, -⟩ := hflight log s hrun hkeeps
    rfl
  · have hdisk : OnDisk root d s₀ := by
      rw [hbusy]
      exact onDisk_busy.2 nofun
    obtain ⟨present, result, hout⟩ := (hflight log s hrun hkeeps).outcome he hanswer
    exact hout.list_eq (hrun.step he) hone hdisk hshows hstill

/-- After a refresh has published, a bootstrap cannot make the mirror: the first generation is
    published still, and the next refresh is admitted. -/
theorem resilient_mirrorless :
    ∃ (before log : List (Act Nat)) (s₀ s s' : Schedule Nat) (a : Act Nat),
    Run (Evolves ⟨[]⟩) .empty before s₀ ∧ Resilient ⟨[]⟩ before 1 .bootstrap s₀ ∧
      Run (Evolves ⟨[]⟩) s₀ log s ∧ Evolves ⟨[]⟩ s a s' ∧
      a.answer? = some (.failed (.ofError .gitMissing)) ∧ s₀.published.generation = 1 ∧
      s'.published = s₀.published ∧ (s'.request 2 .refresh).2 = .admitted := by
  have hnil : Run (Evolves ⟨[]⟩) (.empty : Schedule Nat) [] .empty := .nil
  -- A refresh walks over the disk and publishes what that comes to, the first generation.
  let survey := (Survey.inquire ⟨[]⟩).run Disk.bare
  let p := Snapshot.empty.next 7 survey
  have hasked : Run (Evolves ⟨[]⟩) .empty _ (busy [] ⟨0, .refresh, .admitted⟩ .empty 0) :=
    hnil.step (.of_step (d := Disk.bare) (.ask 0 .refresh) rfl)
  have hok : Request.refresh.fatal? .synchronize (.ok ()) = none := rfl
  have hbegun := (hasked.step ((Goes.call .empty true Disk.bare).evolves [] 0)).step
    ((Goes.walk .empty Disk.bare hok).evolves [] 0)
  have hlooked : Run (Evolves ⟨[]⟩) .empty _
      (busy [] ⟨0, .refresh, .walking (.done survey)⟩ .empty 0) :=
    hbegun.step ((Goes.look _ .empty Disk.bare).evolves [] 0)
  have hended := (hlooked.step ((Goes.publish survey .empty 7 Disk.bare).evolves [] 0)).step
    ((Ends.finish _).evolves [] p 0 Disk.bare)
  -- Then a bootstrap is admitted, and its call fails.
  have hadmitted : Run (Evolves ⟨[]⟩) .empty _ (busy [] ⟨1, .bootstrap, .admitted⟩ p 0) :=
    hended.step (.of_step (d := Disk.bare) (.ask 1 .bootstrap) rfl)
  have hcalled : Run (Evolves ⟨[]⟩) (busy [] ⟨1, .bootstrap, .admitted⟩ p 0) _ _ :=
    Run.nil.step ((Goes.call p false Disk.bare).evolves [] 0)
  have hfatal : Request.bootstrap.fatal? .ensure (.error (.ofError .gitMissing)) =
    some (.ofError .gitMissing) := rfl
  exact ⟨_, _, _, _, _, _, hadmitted, resilient hadmitted cycle?_busy, hcalled,
    (Ends.fail hfatal).evolves [] p 0 Disk.bare, rfl, rfl, rfl, rfl⟩

end Schedule

end TemplateCatalog
