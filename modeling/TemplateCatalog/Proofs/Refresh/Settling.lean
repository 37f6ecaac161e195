import TemplateCatalog.Proofs.Refresh.Rehearsed

/-!
# How rehearsals come to rest

A rehearsal takes a bounded number of steps at a time, and answers a bounded number of ticks while
its clock moves. Both bounds are enough: when a rehearsal has done what it was made to do, nothing
is left that could go on.

* `Rehearsal.step_lt`: a cycle that does not wait has fewer steps before it after each;
* `Rehearsal.settle_waits`: so a rehearsal takes all the steps that it can, and then only a
  synchronization that is held is in flight, if anything is;
* `Rehearsal.step_beyond`, `Rehearsal.toTick_beyond`: no step takes the next tick back, and each
  tick that is answered puts it off by an interval;
* `Rehearsal.Made.prompt`, `Rehearsal.prompt_of_made`: so no tick that can be answered is ever left.
-/

namespace TemplateCatalog

namespace Poll

variable {p : Poll} {now : Nat}

/-- After a tick is answered, the next one is still to come. -/
theorem lt_next_answered (hp : 0 < p.interval) : now < (p.answered now).next := by
  have hlate : (now - p.next) % p.interval < p.interval := Nat.mod_lt _ hp
  show now < now + p.interval - (now - p.next) % p.interval
  omega

/-- It comes an interval later at least. -/
theorem next_le_answered (h : p.next ≤ now) : p.next + p.interval ≤ (p.answered now).next := by
  have hlate : (now - p.next) % p.interval ≤ now - p.next := Nat.mod_le ..
  show p.next + p.interval ≤ now + p.interval - (now - p.next) % p.interval
  omega

end Poll

namespace Rehearsal

open Schedule

variable {r r' : Rehearsal} {interval : Nat}

/-! ## How many steps there are until everything waits -/

/-- Nothing goes on: no cycle is in flight, or it waits for a release. -/
inductive Waits (r : Rehearsal) : Prop
  | idle : r.schedule.cycles = [] → Waits r
  | held {caller : Caller} {q : Request} :
    r.schedule.cycles = [⟨caller, q, .calling .synchronize⟩] → r.source.held = true →
    r.source.releases = 0 → Waits r

/-- What waits goes on waiting. -/
theorem Waits.step (h : r.Waits) : r.step = r := by
  cases h with
  | idle hnone => rw [Rehearsal.step, hnone]
  | held hone hheld hreleases =>
    rw [Rehearsal.step, hone]
    simp only [stepOf, synchronize, hheld, hreleases, if_true]

/-- The steps that a cycle has before it, its end included. -/
def stepsFrom : Phase → Nat
  | .admitted => 4
  | .calling _ => 3
  | .walking _ => 2
  | .published _ => 1

/-- The steps of the cycle that the poll asks for if a tick has fallen due. -/
def owed (r : Rehearsal) : Nat := if r.poll.any (·.next ≤ r.now) then 4 else 0

/-- No more steps than these can be taken at one time. -/
def stepsLeft (r : Rehearsal) : Nat :=
  match r.schedule.cycles with
  | [] => 0
  | c :: _ => stepsFrom c.phase + 4 * r.schedule.gate.queue.length + r.owed

theorem stepsLeft_le (r : Rehearsal) : r.stepsLeft ≤ r.stepLimit := by
  have howed : r.owed ≤ 4 := by
    rw [owed]
    split <;> decide
  rw [stepsLeft, stepLimit]
  split
  · exact Nat.zero_le _
  · next c _ _ =>
    have hphase : stepsFrom c.phase ≤ 4 := by cases c.phase <;> simp [stepsFrom]
    omega

section

variable {queue : List Caller} {caller : Caller} {q : Request} {p : Snapshot} {o : Nat}

theorem stepsLeft_busy {phase : Phase} (h : r.schedule = busy queue ⟨caller, q, phase⟩ p o) :
    r.stepsLeft = stepsFrom phase + 4 * queue.length + r.owed := by
  rw [stepsLeft, h]
  rfl

/-- A cycle that has gone on to a later phase has fewer steps before it. -/
theorem entered_lt {phase phase' : Phase} {p' : Snapshot}
    (h : r.schedule = busy queue ⟨caller, q, phase⟩ p o)
    (h' : r'.schedule = busy queue ⟨caller, q, phase'⟩ p' o) (howed : r'.owed = r.owed)
    (hphase : stepsFrom phase' < stepsFrom phase) : r'.stepsLeft < r.stepsLeft := by
  rw [stepsLeft_busy h, stepsLeft_busy h', howed]
  omega

/-- Those who waited have all their steps before them. -/
theorem stepsLeft_handedOver (h : r.schedule = handedOver queue p o) :
    r.stepsLeft ≤ 4 * queue.length + r.owed := by
  cases queue with
  | nil =>
    rw [stepsLeft, h]
    exact Nat.zero_le _
  | cons next rest =>
    rw [stepsLeft_busy h, stepsFrom, List.length_cons]
    omega

/-- After a tick the poll owes nothing. -/
theorem owed_answered {poll : Poll} (hp : 0 < poll.interval) (r : Rehearsal) :
    owed (request { r with poll := some (poll.answered r.now) } .poll .refresh) = 0 := by
  have hnext : ¬ (poll.answered r.now).next ≤ r.now := Nat.not_le_of_gt (Poll.lt_next_answered hp)
  obtain ⟨answers, poll', hpoll', hrequest⟩ :=
    request_eq { r with poll := some (poll.answered r.now) } .poll .refresh
  rw [hrequest]
  rcases hpoll' with rfl | ⟨-, rfl⟩ <;> simp [owed, Poll.idle, hnext]

/-- A tick has no more steps before it than the poll owed. -/
theorem stepsLeft_tick (hp : 0 < interval) (hpaced : r.Paced interval)
    (h : r.schedule = handedOver queue p o) : r.tick.stepsLeft ≤ 4 * queue.length + r.owed := by
  rw [tick]
  split
  · next poll hpoll =>
    split
    · next hdue =>
      have howed : r.owed = 4 := by simp [owed, hpoll, (Poll.isDue_iff.1 hdue).2]
      have hnone := owed_answered ((hpaced.poll poll hpoll).symm ▸ hp) r
      obtain ⟨answers, poll', -, hrequest⟩ :=
        request_eq { r with poll := some (poll.answered r.now) } .poll .refresh
      rw [hrequest] at hnone ⊢
      cases queue with
      | nil =>
        -- The permit is free, so the poll is let in.
        have hbusy : (r.schedule.request .poll .refresh).1 =
            busy [] ⟨.poll, .refresh, .admitted⟩ p o := by
          rw [h]
          rfl
        rw [stepsLeft_busy hbusy, hnone, stepsFrom, howed]
        exact Nat.le_refl _
      | cons next rest =>
        -- Someone else has it, so the tick is skipped.
        have hbusy : (r.schedule.request .poll .refresh).1 =
            busy rest ⟨next, .bootstrap, .admitted⟩ p o := by
          rw [h]
          rfl
        rw [stepsLeft_busy hbusy, hnone, stepsFrom, List.length_cons]
        omega
    · exact stepsLeft_handedOver h
  · exact stepsLeft_handedOver h

/-- When a cycle is over, those who wait and the poll have their steps before them. -/
theorem stepsLeft_ended (hp : 0 < interval) (hpaced : r.Paced interval)
    (h : r.schedule = handedOver queue p o) (caller : Caller) (answer : Answer) :
    (r.ended caller (some answer)).stepsLeft ≤ 4 * queue.length + r.owed := by
  cases caller with
  | task name => exact stepsLeft_handedOver h
  | poll =>
    have howed : owed { r with poll := r.poll.map Poll.idle } = r.owed := by
      cases hpoll : r.poll <;> simp [owed, hpoll, Poll.idle]
    rw [← howed]
    exact stepsLeft_tick hp (hpaced.idle (.inr rfl)) h

/-- A cycle that has ended leaves fewer steps than one that has not. -/
theorem handedOver_lt (hp : 0 < interval) (hpaced : r.Paced interval) {phase : Phase}
    (h : r.schedule = busy queue ⟨caller, q, phase⟩ p o) (answer : Answer) :
    (ended { r with schedule := handedOver queue p o } caller (some answer)).stepsLeft <
      r.stepsLeft := by
  have hended : _ ≤ 4 * queue.length + r.owed :=
    stepsLeft_ended (r := { r with schedule := handedOver queue p o }) hp
      ⟨hpaced.next, hpaced.poll⟩ rfl caller answer
  have hphase : 0 < stepsFrom phase := by cases phase <;> exact Nat.succ_pos _
  rw [stepsLeft_busy h]
  omega

/-- So does a call that is over, whatever it came to. -/
theorem returned_lt (hp : 0 < interval) (hpaced : r.Paced interval) {call : SourceCall}
    (h : r.schedule = busy queue ⟨caller, q, .calling call⟩ p o) (result : Except Failure Unit) :
    (ended { r with schedule := (r.schedule.returned caller r.root result).1 } caller
      (r.schedule.returned caller r.root result).2).stepsLeft < r.stepsLeft := by
  have hreturned : r.schedule.returned caller r.root result =
      (busy queue ⟨caller, q, .calling call⟩ p o).returned caller r.root result := by rw [h]
  rw [hreturned]
  cases hf : q.fatal? call result with
  | some f =>
    rw [returned_busy_of_fatal hf]
    exact handedOver_lt hp hpaced h _
  | none =>
    rw [returned_busy hf]
    exact entered_lt h rfl rfl (Nat.lt_succ_self _)

/-- A cycle that does not wait has fewer steps before it after each. -/
theorem stepOf_lt (hp : 0 < interval) (hpaced : r.Paced interval) {phase : Phase}
    (h : r.schedule = busy queue ⟨caller, q, phase⟩ p o) :
    r.Waits ∨ (r.stepOf ⟨caller, q, phase⟩).stepsLeft < r.stepsLeft := by
  cases phase with
  | admitted =>
    have hbegun : (r.begin caller).schedule =
        busy queue ⟨caller, q, .calling (.ofPresence r.hasMirror)⟩ p o := by
      rw [begin, h]
      exact call_busy _
    exact .inr (entered_lt h hbegun rfl (Nat.lt_succ_self _))
  | calling call =>
    simp only [stepOf]
    cases call with
    | ensure =>
      obtain ⟨volume, source, hensure⟩ := r.ensure_fst
      simp only [hensure]
      exact .inr (returned_lt (r := { r with volume, source }) hp ⟨hpaced.next, hpaced.poll⟩ h _)
    | synchronize =>
      -- Only a call that a gate holds back does not return.
      rcases r.synchronize_cases with ⟨hnone, hheld, hreleases⟩ | ⟨source, result, hsome⟩
      · exact .inl (.held (congrArg Schedule.cycles h) hheld hreleases)
      · simp only [hsome]
        exact .inr (returned_lt (r := { r with source }) hp ⟨hpaced.next, hpaced.poll⟩ h _)
  | walking walk =>
    have hwalked : (r.schedule.lookAll caller r.volume.disk).rebuilt caller (r.now * 1000) = _ :=
      h ▸ rebuilt_lookAll_busy walk r.volume.disk (r.now * 1000)
    exact .inr (entered_lt h hwalked rfl (Nat.lt_succ_self _))
  | published report =>
    have hfinished : r.schedule.finish caller =
        (handedOver queue p o, some (.completed report)) := by rw [h, finish_busy]
    simp only [stepOf, hfinished]
    exact .inr (handedOver_lt hp hpaced h _)

end

/-- A rehearsal waits, or it has fewer steps before it after each. -/
theorem step_lt (hp : 0 < interval) (hpaced : r.Paced interval) (h : r.schedule.OnePermit) :
    r.Waits ∨ r.step.stepsLeft < r.stepsLeft := by
  rcases h.idle_or_busy with hidle | ⟨queue, c, hbusy⟩
  · exact .inl (.idle (hidle ▸ rfl))
  · rw [step_busy hbusy]
    exact stepOf_lt hp hpaced hbusy

/-- After some steps a rehearsal waits, or it has that many fewer before it. -/
theorem waits_repeat (hp : 0 < interval) (hpaced : r.Paced interval) (h : r.schedule.OnePermit)
    (n : Nat) :
    (Nat.repeat step n r).Waits ∨ (Nat.repeat step n r).stepsLeft + n ≤ r.stepsLeft := by
  induction n with
  | zero => exact .inr (Nat.le_refl _)
  | succ n ih =>
    have hleads : r.Leads (Nat.repeat step n r) := repeat_leads (fun _ => step_leads) n h
    rw [Nat.repeat]
    rcases ih with hwaits | hfewer
    · exact .inl (hwaits.step.symm ▸ hwaits)
    · rcases step_lt hp (hleads.paced hpaced) (hleads.onePermit h) with hwaits | hlt
      · exact .inl (hwaits.step.symm ▸ hwaits)
      · exact .inr (by omega)

/-- **Rehearsals settle**: the steps that a rehearsal takes are enough. Whatever went on in it, then
    no cycle is in flight but for one whose synchronization is held, and nothing more happens until
    the rehearsal is made to do something. -/
theorem settle_waits (hp : 0 < interval) (hpaced : r.Paced interval) (h : r.schedule.OnePermit) :
    r.settle.Waits ∧ r.settle.step = r.settle := by
  have hwaits : r.settle.Waits := by
    rcases waits_repeat hp hpaced h r.stepLimit with hwaits | hfewer
    · exact hwaits
    · -- No steps are left, and so no cycle is.
      have hleads := settle_leads h
      rcases step_lt hp (hleads.paced hpaced) (hleads.onePermit h) with hwaits | hlt
      · exact hwaits
      · have hlimit := r.stepsLeft_le
        rw [← settle] at hfewer
        omega
  exact ⟨hwaits, hwaits.step⟩

/-! ## How many ticks there are until a time -/

/-- The poll has no tick until after a time. -/
def Beyond (r : Rehearsal) (time : Nat) : Prop := ∀ p, r.poll = some p → time < p.next

/-- No tick that can be answered comes until after a time. -/
def Free (r : Rehearsal) (time : Nat) : Prop :=
  ∀ p, r.poll = some p → p.busy = false → time < p.next

/-- No tick that can be answered has been left. -/
def Prompt (r : Rehearsal) : Prop := r.Free r.now

variable {time : Nat}

theorem Beyond.free (h : r.Beyond time) : r.Free time := fun p hp _ => h p hp

/-- What a request leaves of the poll: its next tick. -/
theorem exists_poll_request (r : Rehearsal) (caller : Caller) (q : Request) {p' : Poll}
    (hp' : (r.request caller q).poll = some p') : ∃ p, r.poll = some p ∧ p'.next = p.next := by
  obtain ⟨answers, poll, hpoll, hrequest⟩ := r.request_eq caller q
  rw [hrequest] at hp'
  rcases hpoll with rfl | ⟨-, rfl⟩
  · exact ⟨p', hp', rfl⟩
  · obtain ⟨p, hp, rfl⟩ := Option.map_eq_some_iff.1 hp'
    exact ⟨p, hp, rfl⟩

theorem request_now (r : Rehearsal) (caller : Caller) (q : Request) :
    (r.request caller q).now = r.now := by
  obtain ⟨answers, poll, -, hrequest⟩ := r.request_eq caller q
  rw [hrequest]

theorem request_beyond (h : r.Beyond time) (caller : Caller) (q : Request) :
    (r.request caller q).Beyond time := by
  intro p' hp'
  obtain ⟨p, hp, hnext⟩ := r.exists_poll_request caller q hp'
  exact hnext ▸ h p hp

/-- A tick takes no tick back. -/
theorem tick_beyond (h : r.Beyond time) : r.tick.Beyond time := by
  rw [tick]
  split
  · next p hp =>
    split
    · next hdue =>
      refine request_beyond (fun p' hp' => ?_) .poll .refresh
      cases hp'
      have hanswered := Poll.next_le_answered (Poll.isDue_iff.1 hdue).2
      have hnext := h p hp
      omega
    · exact h
  · exact h

/-- When a tick has been answered, none is left. -/
theorem tick_prompt (hp : 0 < interval) (hpaced : r.Paced interval) : r.tick.Prompt := by
  rw [tick]
  split
  · next p hpoll =>
    split
    · rw [Prompt, request_now]
      refine (request_beyond (fun p' hp' => ?_) .poll .refresh).free
      cases hp'
      exact Poll.lt_next_answered ((hpaced.poll p hpoll).symm ▸ hp)
    · next hdue =>
      intro p' hp' hidle
      cases hpoll.symm.trans hp'
      exact Nat.lt_of_not_le fun hle => hdue (Poll.isDue_iff.2 ⟨hidle, hle⟩)
  · next hnone =>
    intro p hp
    cases hnone.symm.trans hp

/-- All that an answer does to the poll and the clock: if it is the poll's, a tick that has fallen
    due is answered. -/
theorem ended_poll (r : Rehearsal) (caller : Caller) (answer : Option Answer) :
    ((r.ended caller answer).poll = r.poll ∧ (r.ended caller answer).now = r.now) ∨
      ∃ r' : Rehearsal, r'.poll = r.poll.map Poll.idle ∧ r'.now = r.now ∧
        r'.interval = r.interval ∧ r.ended caller answer = r'.tick := by
  cases answer with
  | none => exact .inl ⟨rfl, rfl⟩
  | some answer =>
    cases caller with
    | task name => exact .inl ⟨rfl, rfl⟩
    | poll => exact .inr ⟨{ r with poll := r.poll.map Poll.idle }, rfl, rfl, rfl, rfl⟩

/-- And all that a step does. -/
theorem step_poll (r : Rehearsal) :
    (r.step.poll = r.poll ∧ r.step.now = r.now) ∨
      ∃ r' : Rehearsal, r'.poll = r.poll.map Poll.idle ∧ r'.now = r.now ∧
        r'.interval = r.interval ∧ r.step = r'.tick := by
  rw [step]
  split
  · exact .inl ⟨rfl, rfl⟩
  · next c _ _ =>
    simp only [stepOf]
    cases c.phase with
    | admitted => exact .inl ⟨rfl, rfl⟩
    | calling call =>
      cases call with
      | ensure =>
        obtain ⟨volume, source, hensure⟩ := r.ensure_fst
        simp only [hensure]
        exact ended_poll _ c.caller _
      | synchronize =>
        rcases r.synchronize_cases with ⟨hnone, -, -⟩ | ⟨source, result, hsome⟩
        · simp only [hnone]
          exact .inl ⟨trivial, trivial⟩
        · simp only [hsome]
          exact ended_poll _ c.caller _
    | walking walk => exact .inl ⟨rfl, rfl⟩
    | published report => exact ended_poll _ c.caller _

/-- No step takes a tick back. -/
theorem step_beyond (h : r.Beyond time) : r.step.Beyond time := by
  rcases r.step_poll with ⟨hpoll, -⟩ | ⟨r', hpoll, -, -, hstep⟩
  · rw [Beyond, hpoll]
    exact h
  · rw [hstep]
    refine tick_beyond fun p hp => ?_
    obtain ⟨p, hsome, rfl⟩ := Option.map_eq_some_iff.1 (hpoll.symm.trans hp)
    exact h p hsome

/-- Nor does one leave a tick that can be answered. -/
theorem step_prompt (hp : 0 < interval) (hpaced : r.Paced interval) (h : r.Prompt) :
    r.step.Prompt := by
  rcases r.step_poll with ⟨hpoll, hnow⟩ | ⟨r', hpoll, -, hinterval, hstep⟩
  · rw [Prompt, Free, hpoll, hnow]
    exact h
  · have hpaced' : r'.Paced interval :=
      ⟨hinterval.trans hpaced.next, hpoll ▸ (hpaced.idle (.inr rfl)).poll⟩
    rw [hstep]
    exact tick_prompt hp hpaced'

theorem settle_beyond (h : r.Beyond time) : r.settle.Beyond time :=
  repeat_keeps (P := (Beyond · time)) (fun _ => step_beyond) r.stepLimit h

theorem settle_prompt (hp : 0 < interval) (hpaced : r.Paced interval) (hone : r.schedule.OnePermit)
    (h : r.Prompt) : r.settle.Prompt := by
  have hkept : r.Leads r.settle ∧ r.settle.Prompt :=
    repeat_keeps (P := fun r' => r.Leads r' ∧ r'.Prompt)
      (fun _ ⟨hled, hprompt⟩ => ⟨hled.trans (step_leads (hled.onePermit hone)),
        step_prompt hp (hled.paced hpaced) hprompt⟩) r.stepLimit ⟨.refl r, h⟩
  exact hkept.2

/-- Until a time there is no tick to answer, or the one that is answered puts the next one off by an
    interval. -/
theorem toTick_beyond (hpaced : r.Paced interval) (deadline : Nat) (h : r.Beyond time) :
    (r.Free deadline ∧ r.toTick deadline = r) ∨ (r.toTick deadline).Beyond (time + interval) := by
  rw [toTick]
  split
  · next p hpoll =>
    split
    · next hdue =>
      simp only [Bool.and_eq_true, Bool.not_eq_true', decide_eq_true_iff] at hdue
      have hlater : p.next ≤ max r.now p.next := Nat.le_max_right ..
      have hticks : Poll.isDue p (max r.now p.next) = true := Poll.isDue_iff.2 ⟨hdue.1, hlater⟩
      refine .inr (settle_beyond ?_)
      simp only [tick, hpoll, hticks, if_true]
      refine request_beyond (fun p' hp' => ?_) .poll .refresh
      cases hp'
      have hanswered := Poll.next_le_answered hlater
      rw [hpaced.poll p hpoll] at hanswered
      have hnext := h p hpoll
      omega
    · next hdue =>
      refine .inl ⟨fun p' hp' hidle => ?_, rfl⟩
      cases hpoll.symm.trans hp'
      simpa [hidle] using hdue
  · next hnone =>
    refine .inl ⟨fun p hp => ?_, rfl⟩
    cases hnone.symm.trans hp

/-- What has no tick to answer until a time waits for that time. -/
theorem Free.toTick {deadline : Nat} (h : r.Free deadline) : r.toTick deadline = r := by
  rw [Rehearsal.toTick]
  split
  · next p hpoll =>
    split
    · next hdue =>
      simp only [Bool.and_eq_true, Bool.not_eq_true', decide_eq_true_iff] at hdue
      exact absurd hdue.2 (Nat.not_le_of_gt (h p hpoll hdue.1))
    · rfl
  · rfl

/-- After some ticks there is none left to answer until a time, or the next one is as many
    intervals off. -/
theorem free_or_beyond (hpaced : r.Paced interval) (hone : r.schedule.OnePermit) (h : r.Prompt)
    (deadline n : Nat) :
    (Nat.repeat (toTick deadline) n r).Free deadline ∨
      (Nat.repeat (toTick deadline) n r).Beyond (r.now + n * interval) := by
  induction n with
  | zero =>
    cases hpoll : r.poll with
    | none =>
      refine .inl fun p hp => ?_
      cases hpoll.symm.trans hp
    | some p =>
      cases hbusy : p.busy with
      | true =>
        -- Time does not end the refresh that the poll waits for.
        refine .inl fun p' hp' hidle => ?_
        cases hpoll.symm.trans hp'
        cases hbusy.symm.trans hidle
      | false =>
        refine .inr fun p' hp' => ?_
        cases hpoll.symm.trans hp'
        rw [Nat.zero_mul, Nat.add_zero]
        exact h p hpoll hbusy
  | succ n ih =>
    have hleads := repeat_leads (fun _ => toTick_leads deadline) n hone
    rw [Nat.repeat]
    rcases ih with hfree | hbeyond
    · exact .inl (hfree.toTick.symm ▸ hfree)
    · rcases toTick_beyond (hleads.paced hpaced) deadline hbeyond with ⟨hfree, hsame⟩ | hlater
      · exact .inl (hsame.symm ▸ hfree)
      · rw [Nat.succ_mul, ← Nat.add_assoc]
        exact .inr hlater

/-- When the clock has moved, all ticks have been answered that could be. -/
theorem advance_prompt (hp : 0 < interval) (hpaced : r.Paced interval)
    (hone : r.schedule.OnePermit) (h : r.Prompt) (time : Nat) : (r.advance time).Prompt := by
  have hmax : max 1 r.interval = interval := by
    rw [hpaced.next]
    exact Nat.max_eq_right hp
  have henough : time < (time / interval + 1) * interval :=
    (Nat.div_lt_iff_lt_mul hp).1 (Nat.lt_succ_self _)
  rw [Prompt, advance, hmax]
  rcases free_or_beyond hpaced hone h (r.now + time) (time / interval + 1) with hfree | hbeyond
  · exact hfree
  · exact fun p hpoll _ => Nat.lt_trans (Nat.add_lt_add_left henough r.now) (hbeyond p hpoll)

/-! ## Rehearsals -/

/-- The request of a task leaves the poll. -/
theorem request_task_prompt (h : r.Prompt) (name : String) (q : Request) :
    (r.request (.task name) q).Prompt := by
  obtain ⟨answers, poll, hpoll, hrequest⟩ := r.request_eq (.task name) q
  rw [hrequest]
  rcases hpoll with rfl | ⟨hcaller, -⟩
  · exact h
  · cases hcaller

/-- Whatever a rehearsal is made to do, no tick that can be answered is left. -/
theorem Made.prompt (hmade : Made r r') (hp : 0 < interval) (hpaced : r.Paced interval)
    (hone : r.schedule.OnePermit) (h : r.Prompt) : r'.Prompt := by
  cases hmade with
  | asked name q =>
    have hforgotten : Prompt { r with answers := r.answers.filter (·.1 ≠ name) } := h
    have hask := request_task_prompt hforgotten name q
    have hleads : r.Leads _ := (Leads.forgotten r name).trans (request_leads _ (.task name) q)
    exact settle_prompt hp (hleads.paced hpaced) (hleads.onePermit hone) hask
  | released =>
    have hleads := Leads.surroundings r r.volume { r.source with releases := r.source.releases + 1 }
    exact settle_prompt hp (hleads.paced hpaced) hone h
  | advanced time => exact advance_prompt hp hpaced hone h time
  | pollStarted =>
    intro p hpoll _
    cases hpoll
    rw [Poll.starting, hpaced.next]
    exact Nat.lt_add_of_pos_right hp
  | pollStopped =>
    have hleads := Leads.stopped r
    exact settle_prompt hp (hleads.paced hpaced) (hleads.onePermit hone) nofun
  | rebuilt => exact h
  | changed volume source => exact h

/-- **Ticks are answered in time**: wherever a rehearsal comes to, its poll waits for a refresh or for
    a tick that is still to come. -/
theorem prompt_of_made (hp : 0 < interval) (hempty : r.schedule = .empty)
    (hpaced : r.Paced interval) (hprompt : r.Prompt) (h : Relation.ReflTransGen Made r r') :
    r'.Prompt := by
  have hkept : r.Leads r' ∧ r'.Prompt := by
    induction h with
    | refl => exact ⟨.refl r, hprompt⟩
    | tail _ hmade ih =>
      obtain ⟨hled, hprompt⟩ := ih
      have hone := hled.onePermit (hempty ▸ idle_onePermit _ _)
      exact ⟨hled.trans (hmade.leads hone), hmade.prompt hp (hled.paced hpaced) hone hprompt⟩
  exact hkept.2

end Rehearsal

end TemplateCatalog
