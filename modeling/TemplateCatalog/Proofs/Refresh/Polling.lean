import TemplateCatalog.Proofs.Catalog.Lookup
import TemplateCatalog.Proofs.Refresh.Surroundings
import TemplateCatalog.Refresh.Rehearsal

/-!
# The ticks of a poll

A poll asks a schedule for a refresh at each of its ticks, which are the multiples of its
interval after its start. It waits for the refresh before it goes on to the next tick. A tick
that lands on the cycle of somebody else is dropped: the refresh is skipped, and the poll goes
on with the next multiple. But a tick that falls due while its own refresh is in flight is
deferred: the poll answers it when the refresh has ended, at whatever time that is.

* `Poll.answered_eq`: a poll that answers a tick goes on with the first one after that;
* `Polled.Step`: a schedule that is polled, in its surroundings and in time;
* `Polled.Steady.step`: what a step keeps of the history of the poll;
* `Polled.punctual`: when each attempt is made, and that it is made at a tick of its own exactly
  if no tick fell due while the refresh before was in flight.
-/

namespace TemplateCatalog

/-! ## Ticks -/

namespace Poll

/-- The ticks of a poll that has started at `start`. -/
def IsTick (start interval t : Nat) : Prop := ∃ k, 1 ≤ k ∧ t = start + k * interval

/-- The first tick after a time. -/
def tickAfter (start interval t : Nat) : Nat := start + ((t - start) / interval + 1) * interval

variable {start interval t : Nat}

theorem isTick_tickAfter : IsTick start interval (tickAfter start interval t) :=
  ⟨_, Nat.le_add_left 1 _, rfl⟩

theorem lt_tickAfter (hp : 0 < interval) : t < tickAfter start interval t := by
  have hlt : t - start < ((t - start) / interval + 1) * interval :=
    (Nat.div_lt_iff_lt_mul hp).1 (Nat.lt_succ_self _)
  rw [tickAfter]
  omega

/-- No tick comes before it. -/
theorem tickAfter_le (hp : 0 < interval) {u : Nat} (hu : IsTick start interval u) (h : t < u) :
    tickAfter start interval t ≤ u := by
  obtain ⟨k, hk, rfl⟩ := hu
  have hlt : (t - start) / interval < k := by
    rw [Nat.div_lt_iff_lt_mul hp]
    have := Nat.mul_pos hk hp
    omega
  exact Nat.add_le_add_left (Nat.mul_le_mul_right interval hlt) start

/-- The first tick comes one interval after the start. -/
theorem isTick_first : IsTick start interval (start + interval) :=
  ⟨1, Nat.le_refl 1, by rw [Nat.one_mul]⟩

/-- A tick is due when its time has come, unless the poll waits for its refresh. -/
theorem isDue_iff {p : Poll} {now : Nat} :
    p.isDue now = true ↔ p.busy = false ∧ p.next ≤ now := by
  rw [isDue, Bool.and_eq_true, Bool.not_eq_true', decide_eq_true_iff]

/-- A poll that answers a tick waits then, and goes on with the first tick after that. -/
theorem answered_eq {p : Poll} {now : Nat} (hp : 0 < p.interval)
    (hnext : IsTick p.start p.interval p.next) (hnow : p.next ≤ now) :
    p.answered now = ⟨p.start, p.interval, tickAfter p.start p.interval now, true⟩ := by
  obtain ⟨k, -, hk⟩ := hnext
  obtain ⟨late, rfl⟩ := Nat.exists_eq_add_of_le hnow
  -- The time since the start is made of whole intervals, and of what is over in the last one.
  have hsince : p.next + late - p.start = late + k * p.interval := by omega
  have hlate : late / p.interval * p.interval + late % p.interval = late := Nat.div_add_mod' ..
  have hmod : late % p.interval < p.interval := Nat.mod_lt _ hp
  have hafter : p.next + late + p.interval - late % p.interval =
      tickAfter p.start p.interval (p.next + late) := by
    rw [tickAfter, hsince, Nat.add_mul_div_right _ _ hp, Nat.add_right_comm, Nat.add_mul,
      Nat.add_mul, Nat.one_mul]
    omega
  rw [answered, Nat.add_sub_cancel_left, hafter]

end Poll

/-! ## Who is in flight -/

namespace Schedule

variable {ι : Type}

/-- Those whose cycles are in flight. -/
def callers (s : Schedule ι) : List ι := s.cycles.map (·.caller)

@[simp] theorem callers_idle (p : Snapshot) (o : Nat) : (idle p o : Schedule ι).callers = [] := rfl

@[simp] theorem callers_busy (queue : List ι) (c : Cycle ι) (p : Snapshot) (o : Nat) :
    (busy queue c p o).callers = [c.caller] := rfl

/-- The caller whose request is answered in an event. -/
def Event.answered? : Event ι → Option ι
  | returned caller _ (some _) => some caller
  | ended caller (some _) => some caller
  | _ => none

/-- The caller whose request is answered in an act. -/
def Act.answered? : Act ι → Option ι
  | step e _ => e.answered?
  | _ => none

/-- An act in which a caller neither asks for anything nor goes away. -/
def Act.Spares (caller : ι) : Act ι → Prop
  | step (.asked other ..) _ => other ≠ caller
  | left other => other ≠ caller
  | _ => True

/-- Where a caller stands who waits in no queue: it stays in flight until it is answered, and
    nobody is answered who is not in flight. -/
structure Stands (caller : ι) (answered : Option ι) (s s' : Schedule ι) : Prop where
  waits : caller ∉ s'.gate.queue
  callers : caller ∈ s'.callers ↔ caller ∈ s.callers ∧ answered ≠ some caller
  answered : answered = some caller → caller ∈ s.callers

variable {root : Location} {s s' : Schedule ι} {caller : ι} {e : Event ι} {a : Act ι}

/-- Where a caller stands if nobody is answered and it is in flight as before. -/
theorem Stands.unanswered (waits : caller ∉ s'.gate.queue)
    (callers : caller ∈ s'.callers ↔ caller ∈ s.callers) : Stands caller none s s' where
  waits := waits
  callers := by simp [callers]
  answered h := by cases h

/-- Who has not waited is not next, and does not wait either. -/
theorem not_mem_handedOver {queue : List ι} {p : Snapshot} {o : Nat} (hq : caller ∉ queue) :
    caller ∉ (handedOver queue p o).gate.queue ∧ caller ∉ (handedOver queue p o).callers := by
  cases queue with
  | nil => exact ⟨List.not_mem_nil, List.not_mem_nil⟩
  | cons next rest =>
    rw [List.mem_cons, not_or] at hq
    exact ⟨hq.2, by simpa [handedOver] using hq.1⟩

/-- Where a caller stands after a cycle has ended, which may be its own. -/
theorem stands_handedOver {queue : List ι} {owner : ι} {r : Request} {phase : Phase}
    {p p' : Snapshot} {o o' : Nat} (hq : caller ∉ queue) :
    Stands caller (some owner) (busy queue ⟨owner, r, phase⟩ p o) (handedOver queue p' o') where
  waits := (not_mem_handedOver hq).1
  callers := by simp [(not_mem_handedOver hq).2, eq_comm]
  answered h := by simp [Option.some.inj h]

/-- Where a caller stands after a turn. -/
theorem Turn.stands (h : Turn root s e s') (he : ∀ r adm, e ≠ .asked caller r adm)
    (hq : caller ∉ s.gate.queue) : Stands caller e.answered? s s' := by
  cases h with
  | letIn other r p o =>
    have hne : caller ≠ other := by
      rintro rfl
      exact he r _ rfl
    exact .unanswered List.not_mem_nil (by simp [hne])
  | wait other queue c p o =>
    have hne : caller ≠ other := by
      rintro rfl
      exact he _ _ rfl
    have hq : caller ∉ queue := hq
    exact .unanswered (by simp [busy, hq, hne]) Iff.rfl
  | fail queue p o => exact stands_handedOver hq
  | finish other r report queue p o => exact stands_handedOver hq
  | _ => exact .unanswered hq Iff.rfl

variable [DecidableEq ι]

/-- Where a caller stands after somebody else has gone away. -/
theorem OnePermit.stands_abandon (h : s.OnePermit) {other : ι} (hne : other ≠ caller)
    (hq : caller ∉ s.gate.queue) : Stands caller none s (s.abandon other) := by
  rcases h.idle_or_busy with hs | ⟨queue, ⟨owner, r, phase⟩, hs⟩
  · rw [hs]
    exact .unanswered List.not_mem_nil (by simp [callers, idle, abandon, cycle?])
  · rw [hs] at hq ⊢
    have hfilter : caller ∉ queue.filter (· ≠ other) := fun hmem => hq (List.mem_filter.1 hmem).1
    by_cases howner : owner = other
    · subst howner
      rw [abandon_busy_self]
      obtain ⟨hwaits, hcallers⟩ := not_mem_handedOver hfilter
      refine .unanswered hwaits (iff_of_false hcallers fun hin => ?_)
      exact hne (List.mem_singleton.1 hin).symm
    · rw [abandon_busy_of_ne howner]
      exact .unanswered hfilter Iff.rfl

/-- Where a caller stands after an act of others, or of its own cycle. -/
theorem Evolves.stands (he : Evolves root s a s') (h : s.OnePermit) (ha : a.Spares caller)
    (hq : caller ∉ s.gate.queue) : Stands caller a.answered? s s' := by
  cases he with
  | @step _ e _ hs _ =>
    refine (h.turn hs).stands (fun r adm heq => ?_) hq
    subst heq
    exact ha rfl
  | left other => exact h.stands_abandon ha hq
  | orphan now survey ho =>
    rw [orphanRebuilt_of_pos ho]
    exact .unanswered hq Iff.rfl
  | outside now survey => exact .unanswered hq Iff.rfl

end Schedule

/-! ## A schedule that is polled -/

/-- A schedule with a poll that asks it for refreshes, and the time. -/
structure Polled (ι : Type) where
  schedule : Schedule ι
  poll : Poll
  now : Nat

namespace Polled

open Schedule

variable {ι : Type}

/-- The poll answers a tick: it asks for a refresh. It goes on at once if that is skipped, and
    otherwise when it has ended. -/
def attempt (x : Polled ι) (poller : ι) : Polled ι × Admission :=
  match x.schedule.request poller .refresh with
  | (schedule, .skipped) => (⟨schedule, (x.poll.answered x.now).idle, x.now⟩, .skipped)
  | (schedule, admission) => (⟨schedule, x.poll.answered x.now, x.now⟩, admission)

/-- What happens to a schedule that is polled. -/
inductive Moment (ι : Type) where
  /-- Time goes on. -/
  | passed (time : Nat)
  /-- The poll answers a tick. -/
  | attempted (now : Nat) (admission : Admission)
  /-- Anything else that happens to the schedule. -/
  | acted (now : Nat) (a : Act ι)

/-- What a schedule that is polled comes to. Time does not pass by a tick that can be answered.
    The poll itself asks for nothing but a refresh at a tick, and does not go away. -/
inductive Step [DecidableEq ι] (root : Location) (poller : ι) :
    Polled ι → Moment ι → Polled ι → Prop
  | pass {x : Polled ι} (time : Nat) :
    (x.poll.busy = false → x.now + time ≤ x.poll.next) →
    Step root poller x (.passed time) { x with now := x.now + time }
  | attempt {x : Polled ι} :
    x.poll.isDue x.now = true →
    Step root poller x (.attempted x.now (x.attempt poller).2) (x.attempt poller).1
  | act {x : Polled ι} {a : Act ι} {s' : Schedule ι} :
    Evolves root x.schedule a s' → a.Spares poller →
    Step root poller x (.acted x.now a)
      ⟨s', if a.answered? = some poller then x.poll.idle else x.poll, x.now⟩

/-- What a poll remembers: when it has asked for a refresh, and when one that was not skipped
    has ended. -/
inductive Mark where
  | attempted (now : Nat) (admission : Admission)
  | settled (now : Nat)

/-- What a poll remembers of a moment. -/
def Moment.mark? [DecidableEq ι] (poller : ι) : Moment ι → Option Mark
  | passed _ => none
  | attempted now admission => some (.attempted now admission)
  | acted now a => if a.answered? = some poller then some (.settled now) else none

/-- What a poll remembers of a run. -/
def history [DecidableEq ι] (poller : ι) (log : List (Moment ι)) : List Mark :=
  log.filterMap (Moment.mark? poller)

/-- When the last attempt was made, and when it was over, unless its refresh is in flight. -/
def lastAttempt? (history : List Mark) : Option (Nat × Nat) :=
  match history.reverse with
  | .attempted t .skipped :: _ => some (t, t)
  | .settled e :: .attempted t _ :: _ => some (t, e)
  | _ => none

/-- A tick has fallen due while the refresh of the last attempt was in flight. -/
def Overrun (start interval : Nat) (history : List Mark) : Prop :=
  ∃ b e, lastAttempt? history = some (b, e) ∧ ∃ u, Poll.IsTick start interval u ∧ b < u ∧ u < e

/-- An attempt at this time is deferred: the refresh of the last attempt has ended now, and a
    tick has fallen due while it was in flight. -/
def Deferred (start interval : Nat) (history : List Mark) (now : Nat) : Prop :=
  ∃ b, lastAttempt? history = some (b, now) ∧ ∃ u, Poll.IsTick start interval u ∧ b < u ∧ u < now

/-- When an attempt is made, given what the poll remembers. -/
structure Punctual (start interval : Nat) (history : List Mark) (now : Nat) : Prop where
  /-- The first is made at the first tick. -/
  first : history = [] → now = start + interval
  /-- Any other is made at the first tick after the last attempt, or when that is over, if that
      is later. -/
  next : ∀ b e, lastAttempt? history = some (b, e) →
    now = max (Poll.tickAfter start interval b) e
  /-- There is no other. -/
  complete : history = [] ∨ ∃ b e, lastAttempt? history = some (b, e)
  /-- It is made at a tick and not deferred exactly if no tick has fallen due while the refresh
      of the last attempt was in flight. -/
  tick_iff : (Poll.IsTick start interval now ∧ ¬ Deferred start interval history now) ↔
    ¬ Overrun start interval history

/-! ## What a poll remembers -/

section

variable {start interval now time b e : Nat} {marks : List Mark} {p : Poll}

theorem lastAttempt?_skipped : lastAttempt? (marks ++ [.attempted b .skipped]) = some (b, b) := by
  simp [lastAttempt?]

theorem lastAttempt?_settled {admission : Admission} :
    lastAttempt? (marks ++ [.attempted b admission] ++ [.settled e]) = some (b, e) := by
  simp [lastAttempt?]

/-- Where a poll stands at a time, given what it remembers. -/
inductive Stage (start interval : Nat) : List Mark → Poll → Nat → Prop
  /-- It has answered no tick. -/
  | fresh {now : Nat} : now ≤ start + interval →
    Stage start interval [] ⟨start, interval, start + interval, false⟩ now
  /-- It waits for its refresh. -/
  | flying {marks : List Mark} {b now : Nat} : b ≤ now →
    Stage start interval (marks ++ [.attempted b .admitted])
      ⟨start, interval, Poll.tickAfter start interval b, true⟩ now
  /-- It waits for the next tick, or has missed it. -/
  | settled {marks : List Mark} {b e now : Nat} : lastAttempt? marks = some (b, e) → e ≤ now →
    now ≤ max (Poll.tickAfter start interval b) e →
    Stage start interval marks ⟨start, interval, Poll.tickAfter start interval b, false⟩ now

/-- Time goes on, but not by a tick that can be answered. -/
theorem Stage.pass (h : Stage start interval marks p now)
    (htime : p.busy = false → now + time ≤ p.next) :
    Stage start interval marks p (now + time) := by
  cases h with
  | fresh _ => exact .fresh (htime rfl)
  | flying hb => exact .flying (Nat.le_add_right_of_le hb)
  | settled hlast he _ =>
    exact .settled hlast (Nat.le_add_right_of_le he) (Nat.le_trans (htime rfl) (Nat.le_max_left ..))

/-- A poll goes on when its refresh has ended. -/
theorem Stage.settle (h : Stage start interval marks p now) (hbusy : p.busy = true) :
    Stage start interval (marks ++ [.settled now]) p.idle now := by
  cases h with
  | fresh _ => cases hbusy
  | flying hb => exact .settled lastAttempt?_settled (Nat.le_refl now) (Nat.le_max_right ..)
  | settled => cases hbusy

/-- A poll that answers a tick waits then, and goes on with the first tick after that. -/
theorem Stage.answered (h : Stage start interval marks p now) (hp : 0 < interval)
    (hdue : p.isDue now = true) :
    p.answered now = ⟨start, interval, Poll.tickAfter start interval now, true⟩ := by
  have hnow : p.next ≤ now := (Poll.isDue_iff.1 hdue).2
  cases h with
  | fresh _ => exact Poll.answered_eq hp Poll.isTick_first hnow
  | flying hb => cases hdue
  | settled hlast he hle => exact Poll.answered_eq hp Poll.isTick_tickAfter hnow

/-- The first attempt is made at the first tick. -/
theorem punctual_first : Punctual start interval [] (start + interval) := by
  refine ⟨fun _ => rfl, nofun, .inl rfl, iff_of_true ⟨Poll.isTick_first, ?_⟩ ?_⟩
  · rintro ⟨b, hlast, -⟩
    cases hlast
  · rintro ⟨b, e, hlast, -⟩
    cases hlast

/-- Any other is made at the first tick after the last, or when that is over. -/
theorem punctual_of_lastAttempt (hp : 0 < interval) (hlast : lastAttempt? marks = some (b, e)) :
    Punctual start interval marks (max (Poll.tickAfter start interval b) e) := by
  have hunique {b' e' : Nat} (h : lastAttempt? marks = some (b', e')) : b' = b ∧ e' = e := by
    rw [hlast] at h
    cases h
    exact ⟨rfl, rfl⟩
  refine ⟨?_, fun b' e' h => ?_, .inr ⟨b, e, hlast⟩, ?_, fun hover => ?_⟩
  · rintro rfl
    cases hlast
  · obtain ⟨rfl, rfl⟩ := hunique h
    rfl
  · -- A tick that has fallen due is answered at the end of the refresh, and so deferred.
    rintro ⟨-, hdeferred⟩ ⟨b', e', h, u, hu, hbu, hue⟩
    obtain ⟨rfl, rfl⟩ := hunique h
    have hlate : Poll.tickAfter start interval b' ≤ e' :=
      Nat.le_trans (Poll.tickAfter_le hp hu hbu) (Nat.le_of_lt hue)
    rw [Nat.max_eq_right hlate] at hdeferred
    exact hdeferred ⟨b', hlast, u, hu, hbu, hue⟩
  · have hsoon : e ≤ Poll.tickAfter start interval b := Nat.le_of_not_lt fun hlate =>
      hover ⟨b, e, hlast, _, Poll.isTick_tickAfter, Poll.lt_tickAfter hp, hlate⟩
    rw [Nat.max_eq_left hsoon]
    refine ⟨Poll.isTick_tickAfter, ?_⟩
    rintro ⟨b', h, u, hu, hbu, hue⟩
    exact hover ⟨b', _, h, u, hu, hbu, hue⟩

/-- When a tick is answered. -/
theorem Stage.punctual_of_isDue (h : Stage start interval marks p now) (hp : 0 < interval)
    (hdue : p.isDue now = true) : Punctual start interval marks now := by
  have hnow : p.next ≤ now := (Poll.isDue_iff.1 hdue).2
  cases h with
  | fresh hle =>
    obtain rfl : now = start + interval := Nat.le_antisymm hle hnow
    exact punctual_first
  | flying hb => cases hdue
  | settled hlast he hle =>
    obtain rfl := Nat.le_antisymm hle (Nat.max_le.2 ⟨hnow, he⟩)
    exact punctual_of_lastAttempt hp hlast

end

/-! ## Runs of a poll -/

variable [DecidableEq ι] {root : Location} {poller : ι} {start interval : Nat}
  {x₀ x x' : Polled ι} {m : Moment ι} {log : List (Moment ι)} {marks : List Mark}

/-- A poll that starts at a time, on a schedule in any state that it can come to. -/
structure Begins (root : Location) (poller : ι) (start interval : Nat) (x : Polled ι) : Prop where
  reached : ∃ before, Run (Evolves root) .empty before x.schedule
  absent : poller ∉ x.schedule.callers
  waits : poller ∉ x.schedule.gate.queue
  poll : x.poll = .starting start interval
  now : x.now = start

/-- What a run of a poll keeps. -/
structure Steady (poller : ι) (start interval : Nat) (marks : List Mark) (x : Polled ι) : Prop where
  permit : x.schedule.OnePermit
  waits : poller ∉ x.schedule.gate.queue
  /-- The poll waits exactly while its refresh is in flight. -/
  flight : x.poll.busy = true ↔ poller ∈ x.schedule.callers
  stage : Stage start interval marks x.poll x.now

/-- What a run keeps of a poll and its refresh: that waits in no queue, and the poll waits exactly
    while it is in flight. -/
structure Linked (poller : ι) (x : Polled ι) : Prop where
  permit : x.schedule.OnePermit
  waits : poller ∉ x.schedule.gate.queue
  flight : x.poll.busy = true ↔ poller ∈ x.schedule.callers

theorem Begins.linked (h : Begins root poller start interval x) : Linked poller x := by
  obtain ⟨before, hrun⟩ := h.reached
  refine ⟨onePermit_of_run hrun (idle_onePermit _ _), h.waits, ?_⟩
  rw [h.poll]
  exact iff_of_false nofun h.absent

theorem Begins.steady (h : Begins root poller start interval x) :
    Steady poller start interval [] x := by
  refine ⟨h.linked.permit, h.linked.waits, h.linked.flight, ?_⟩
  rw [h.poll, h.now]
  exact .fresh (Nat.le_add_right ..)

omit [DecidableEq ι] in
/-- With no cycle in flight, the refresh is admitted. -/
theorem attempt_of_idle {s : Snapshot} {o : Nat} (h : x.schedule = idle s o) :
    x.attempt poller =
      (⟨busy [] ⟨poller, .refresh, .admitted⟩ s o, x.poll.answered x.now, x.now⟩, .admitted) := by
  rw [attempt, h]
  rfl

omit [DecidableEq ι] in
/-- With a cycle in flight it is skipped, and the poll goes on. -/
theorem attempt_of_busy {queue : List ι} {c : Cycle ι} {s : Snapshot} {o : Nat}
    (h : x.schedule = busy queue c s o) :
    x.attempt poller = (⟨x.schedule, (x.poll.answered x.now).idle, x.now⟩, .skipped) := by
  rw [attempt, h]
  rfl

/-- A step keeps a poll and its refresh together. -/
theorem Linked.step (h : Linked poller x) (hs : Step root poller x m x') : Linked poller x' := by
  obtain ⟨hone, hwaits, hflight⟩ := h
  cases hs with
  | pass => exact ⟨hone, hwaits, hflight⟩
  | attempt hdue =>
    have hidle : x.poll.busy = false := (Poll.isDue_iff.1 hdue).1
    rcases hone.idle_or_busy with hs | ⟨queue, c, hs⟩
    · rw [attempt_of_idle hs]
      exact ⟨busy_onePermit .., List.not_mem_nil, by simp [Poll.answered]⟩
    · -- The refresh is over at once.
      rw [attempt_of_busy hs]
      refine ⟨hone, hwaits, ?_⟩
      rw [← hflight, hidle, Poll.idle]
  | act he hspares =>
    obtain ⟨hwaits', hcallers, hanswered⟩ := he.stands hone hspares hwaits
    refine ⟨hone.evolves he, hwaits', ?_⟩
    split
    · next hsettled => exact iff_of_false nofun fun hin => (hcallers.1 hin).2 hsettled
    · next hother => rw [hcallers, hflight, and_iff_left hother]

/-- A step keeps what a poll remembers up to date. -/
theorem Steady.step (h : Steady poller start interval marks x) (hp : 0 < interval)
    (hs : Step root poller x m x') :
    Steady poller start interval (marks ++ (m.mark? poller).toList) x' := by
  obtain ⟨hone, hwaits, hflight, hstage⟩ := h
  obtain ⟨hone', hwaits', hflight'⟩ := Linked.step ⟨hone, hwaits, hflight⟩ hs
  refine ⟨hone', hwaits', hflight', ?_⟩
  cases hs with
  | pass time htime =>
    rw [show (Moment.passed time : Moment ι).mark? poller = none from rfl, Option.toList_none,
      List.append_nil]
    exact hstage.pass htime
  | attempt hdue =>
    -- The attempt is answered at once: it is admitted if nothing is in flight, and skipped if not.
    have hanswered := hstage.answered hp hdue
    rcases hone.idle_or_busy with hs | ⟨queue, c, hs⟩
    · rw [attempt_of_idle hs, hanswered]
      exact .flying (Nat.le_refl _)
    · rw [attempt_of_busy hs, hanswered]
      exact .settled lastAttempt?_skipped (Nat.le_refl _) (Nat.le_max_right ..)
  | act he hspares =>
    rw [Moment.mark?]
    split
    · next hsettled =>
      exact hstage.settle (hflight.2 ((he.stands hone hspares hwaits).answered hsettled))
    · rw [Option.toList_none, List.append_nil]
      exact hstage

theorem history_concat (poller : ι) (log : List (Moment ι)) (m : Moment ι) :
    history poller (log ++ [m]) = history poller log ++ (m.mark? poller).toList := by
  rw [history, List.filterMap_append, ← history]
  cases h : m.mark? poller <;> simp [h]

/-- What a poll remembers is up to date after every run. -/
theorem steady_of_run (hp : 0 < interval) (h₀ : Begins root poller start interval x₀)
    (h : Run (Step root poller) x₀ log x) :
    Steady poller start interval (history poller log) x := by
  induction h with
  | nil => exact h₀.steady
  | step _ hs ih =>
    rw [history_concat]
    exact ih.step hp hs

/-- **Ticks of a poll**: however long its refreshes take and whatever else is asked of the
    schedule, the first attempt is made at the first tick, and every other one at the first tick
    after the last attempt, unless the refresh of that takes longer. Then it is made when that
    has ended. So every attempt is made at a tick, and none is deferred, exactly as long as no
    tick falls due while a refresh of the poll is in flight. An attempt that meets the cycle of
    somebody else is skipped, and nothing is left of it. -/
theorem punctual (hp : 0 < interval) (h₀ : Begins root poller start interval x₀)
    (h : Run (Step root poller) x₀ log x) {now : Nat} {admission : Admission}
    (hs : Step root poller x (.attempted now admission) x') :
    Punctual start interval (history poller log) now ∧
      (x.schedule.cycles = [] → admission = .admitted) ∧
      (x.schedule.cycles ≠ [] → admission = .skipped ∧ x'.schedule = x.schedule) := by
  have hsteady := steady_of_run hp h₀ h
  cases hs with
  | attempt hdue =>
    refine ⟨hsteady.stage.punctual_of_isDue hp hdue, ?_⟩
    rcases hsteady.permit.idle_or_busy with hs | ⟨queue, c, hs⟩
    · rw [attempt_of_idle hs]
      exact ⟨fun _ => rfl, fun hsome => absurd (by rw [hs]; rfl) hsome⟩
    · rw [attempt_of_busy hs]
      refine ⟨fun hnone => ?_, fun _ => ⟨rfl, rfl⟩⟩
      rw [hs] at hnone
      cases hnone

/-! ## Two polls -/

/-- What happens to the schedule at one time, if the poll is not answered. -/
theorem run_acted {s s' : Schedule ι} {p : Poll} {now : Nat} {acts : List (Act ι)}
    (h : Run (Evolves root) s acts s')
    (hacts : ∀ a ∈ acts, a.Spares poller ∧ a.answered? ≠ some poller) :
    Run (Step root poller) ⟨s, p, now⟩ (acts.map (.acted now)) ⟨s', p, now⟩ ∧
      history poller (acts.map (.acted now)) = [] := by
  induction h with
  | nil => exact ⟨.nil, rfl⟩
  | @step acts s' s'' a hrun he ih =>
    obtain ⟨hbefore, hlast⟩ := List.forall_mem_append.1 hacts
    obtain ⟨hspares, hother⟩ := hlast a (List.mem_singleton_self a)
    obtain ⟨hrun, hnone⟩ := ih hbefore
    have hstep : Step root poller ⟨s', p, now⟩ (.acted now a)
        ⟨s'', if a.answered? = some poller then p.idle else p, now⟩ := .act he hspares
    rw [if_neg hother] at hstep
    rw [List.map_append]
    refine ⟨hrun.step hstep, ?_⟩
    rw [List.map_singleton, history_concat, hnone, Moment.mark?, if_neg hother]
    rfl

omit [DecidableEq ι] in
theorem spares_of_mem_cycleActs {a : Act ι} {caller : ι} {r : Request} {present : Bool}
    {result : Except Failure Unit} {n g : Nat} {d : Disk}
    (h : a ∈ cycleActs caller r present result n g d) :
    a.Spares poller ∧ a.answered? ≠ some poller := by
  rcases mem_cycleActs h with rfl | rfl | rfl | rfl <;> exact ⟨trivial, nofun⟩

/-- A poll with an interval of 1000 starts at time 0. -/
theorem begins_thousand (root : Location) :
    Begins root 0 0 1000 (⟨.empty, .starting 0 1000, 0⟩ : Polled Nat) :=
  ⟨⟨[], .nil⟩, List.not_mem_nil, List.not_mem_nil, rfl, rfl⟩

/-- Its first refresh may end at any time. -/
theorem exists_run_settled (root : Location) (longer : Nat) :
    ∃ (log : List (Moment Nat)) (s : Snapshot),
      Run (Step root 0) ⟨.empty, .starting 0 1000, 0⟩ log
        ⟨idle s 0, ⟨0, 1000, 2000, false⟩, 1000 + longer⟩ ∧
      history 0 log = [.attempted 1000 .admitted, .settled (1000 + longer)] := by
  have hok : Request.refresh.fatal? (.ofPresence true) (.ok ()) = none := rfl
  obtain ⟨n, hcycle⟩ := exists_run_cycle root 0 hok Disk.bare [] .empty 0 0
  have hpassed : Step root 0 ⟨.empty, .starting 0 1000, 0⟩ (.passed 1000)
      ⟨.empty, .starting 0 1000, 1000⟩ := .pass 1000 fun _ => Nat.le_refl _
  have hattempted : Step root 0 ⟨.empty, .starting 0 1000, 1000⟩ (.attempted 1000 .admitted)
      ⟨busy [] ⟨0, .refresh, .admitted⟩ .empty 0, ⟨0, 1000, 2000, true⟩, 1000⟩ := .attempt rfl
  have hwaited : Step root 0
      ⟨busy [] ⟨0, .refresh, .admitted⟩ .empty 0, ⟨0, 1000, 2000, true⟩, 1000⟩ (.passed longer)
      ⟨busy [] ⟨0, .refresh, .admitted⟩ .empty 0, ⟨0, 1000, 2000, true⟩, 1000 + longer⟩ :=
    .pass longer nofun
  obtain ⟨hworked, hnone⟩ := run_acted (p := ⟨0, 1000, 2000, true⟩) hcycle
    fun a ha => spares_of_mem_cycleActs ha
  have hended : Step root 0 ⟨busy [] ⟨0, .refresh, .published (((Survey.inquire root).run
      Disk.bare).report 1)⟩ (Snapshot.empty.next 0 ((Survey.inquire root).run Disk.bare)) 0,
      ⟨0, 1000, 2000, true⟩, 1000 + longer⟩ _ _ :=
    .act ((Ends.finish _).evolves [] _ 0 Disk.bare) trivial
  refine ⟨_, _, .cons hpassed (.cons hattempted (.cons hwaited (hworked.step hended))), ?_⟩
  rw [history, List.filterMap_cons, List.filterMap_cons, List.filterMap_cons, ← history,
    history_concat, hnone]
  rfl

/-- The first refresh ends before the second tick, at which the second attempt is made. -/
theorem punctual_short :
    ∃ (log : List (Moment Nat)) (x x' : Polled Nat),
      Begins (.ofString "shelf") 0 0 1000 (⟨.empty, .starting 0 1000, 0⟩ : Polled Nat) ∧
      Run (Step (.ofString "shelf") 0) ⟨.empty, .starting 0 1000, 0⟩ log x ∧
      Step (.ofString "shelf") 0 x (.attempted 2000 .admitted) x' ∧
      lastAttempt? (history 0 log) = some (1000, 1500) ∧
      Poll.IsTick 0 1000 2000 ∧ ¬ Deferred 0 1000 (history 0 log) 2000 := by
  obtain ⟨log, s, hrun, hhistory⟩ := exists_run_settled (.ofString "shelf") 500
  have hpassed := hrun.step
    (.pass (x := ⟨_, ⟨0, 1000, 2000, false⟩, 1500⟩) 500 fun _ => Nat.le_refl 2000)
  have hlast : lastAttempt? (history 0 (log ++ [.passed 500])) = some (1000, 1500) := by
    rw [history_concat, hhistory]
    rfl
  have hattempted : Step (.ofString "shelf") 0 ⟨idle s 0, ⟨0, 1000, 2000, false⟩, 2000⟩
      (.attempted 2000 .admitted) _ := .attempt rfl
  obtain ⟨hpunctual, -⟩ := punctual (by decide) (begins_thousand _) hpassed hattempted
  refine ⟨_, _, _, begins_thousand _, hpassed, hattempted, hlast, hpunctual.tick_iff.2 ?_⟩
  -- No tick falls due between 1000 and 1500.
  rintro ⟨b, e, h, u, ⟨k, -, rfl⟩, hbu, hue⟩
  rw [hlast] at h
  cases h
  omega

/-- But if it ends after the second tick, the second attempt is made then, at no tick. -/
theorem tick_deferred :
    ∃ (log : List (Moment Nat)) (x x' : Polled Nat),
      Begins (.ofString "shelf") 0 0 1000 (⟨.empty, .starting 0 1000, 0⟩ : Polled Nat) ∧
      Run (Step (.ofString "shelf") 0) ⟨.empty, .starting 0 1000, 0⟩ log x ∧
      Step (.ofString "shelf") 0 x (.attempted 2500 .admitted) x' ∧
      ¬ Poll.IsTick 0 1000 2500 ∧ Deferred 0 1000 (history 0 log) 2500 := by
  obtain ⟨log, s, hrun, hhistory⟩ := exists_run_settled (.ofString "shelf") 1500
  have hattempted : Step (.ofString "shelf") 0 ⟨idle s 0, ⟨0, 1000, 2000, false⟩, 2500⟩
      (.attempted 2500 .admitted) _ := .attempt rfl
  refine ⟨log, _, _, begins_thousand _, hrun, hattempted, ?_, 1000, ?_, 2000, ⟨2, by decide, rfl⟩,
    by decide, by decide⟩
  · rintro ⟨k, -, hk⟩
    omega
  · rw [hhistory]
    rfl

end Polled

/-! ## Rehearsals -/

/-- The schedule of a rehearsal, if it is polled. -/
def Rehearsal.polled? (r : Rehearsal) : Option (Polled Caller) :=
  r.poll.map fun p => ⟨r.schedule, p, r.now⟩

/-- The polls of rehearsals are these: a tick is answered by an attempt. -/
theorem Rehearsal.polled?_tick {r : Rehearsal} {x : Polled Caller} (hx : r.polled? = some x)
    (hdue : x.poll.isDue x.now = true) : r.tick.polled? = some (x.attempt .poll).1 := by
  obtain ⟨p, hp, rfl⟩ := Option.map_eq_some_iff.1 hx
  have hdue : p.isDue r.now = true := hdue
  rw [tick, hp]
  simp only [hdue, if_true]
  rw [request, Polled.attempt]
  rcases r.schedule.request .poll .refresh with ⟨schedule, admission⟩
  cases admission <;> rfl

end TemplateCatalog
