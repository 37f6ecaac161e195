import TemplateCatalog.Proofs.Run
import TemplateCatalog.Refresh.Schedule

/-!
# Turns of the schedule

Any number of callers share one schedule, each with a request of its own: a bootstrap,
or a refresh, which a trigger and a tick of the poll ask for like anybody else. A *step*
is one event of one of them, and between any two steps of a caller the others may take
theirs. Nothing is assumed of the source, which may come to any result, nor of the
disk, which may have changed at every question of a walk. Nobody goes away, and nobody
else publishes.

The gate has one permit (`OnePermit`), so a step is one of nine *turns* of a schedule
that is idle or has one cycle in flight. A turn says all that the step does:

* `OnePermit.turn`: a step of a schedule with one permit is a turn;
* `Turn.onePermit`: after a turn the schedule has one permit still.
-/

namespace TemplateCatalog.Schedule

variable {ι : Type}

/-- What an onlooker sees of a step. -/
inductive Event (ι : Type) where
  | asked (caller : ι) (r : Request) (a : Admission)
  | called (caller : ι) (r : Request) (present : Bool) (call : SourceCall)
  /-- A call of the source is over; so is the request, if there is an answer. -/
  | returned (caller : ι) (result : Except Failure Unit) (answer : Option Answer)
  /-- A walk asked the disk. -/
  | looked (caller : ι)
  | published (caller : ι) (generation : Nat)
  | ended (caller : ι) (answer : Option Answer)

/-- The schedule with one cycle in flight and these bootstraps waiting. -/
def busy (queue : List ι) (c : Cycle ι) (published : Snapshot) (orphans : Nat) : Schedule ι :=
  ⟨⟨0, queue⟩, [c], published, orphans⟩

/-- The schedule with nothing in flight. -/
def idle (published : Snapshot) (orphans : Nat) : Schedule ι :=
  ⟨.ofPermits 1, [], published, orphans⟩

/-- The schedule after a cycle has ended while these bootstraps wait. -/
def handedOver (queue : List ι) (published : Snapshot) (orphans : Nat) : Schedule ι :=
  match queue with
  | [] => idle published orphans
  | next :: rest => busy rest ⟨next, .bootstrap, .admitted⟩ published orphans

/-- One permit is free or held by the one cycle in flight, and nobody waits for a permit
    that is free. -/
structure OnePermit (s : Schedule ι) : Prop where
  count : s.gate.free + s.cycles.length = 1
  waits : s.gate.queue ≠ [] → s.gate.free = 0

/-- A schedule with one permit is idle, or one cycle is in flight. -/
theorem OnePermit.idle_or_busy {s : Schedule ι} (h : s.OnePermit) :
    s = idle s.published s.orphans ∨
      ∃ queue c, s = busy queue c s.published s.orphans := by
  obtain ⟨⟨free, queue⟩, cycles, published, orphans⟩ := s
  obtain ⟨hcount, hwaits⟩ := h
  match cycles with
  | [] =>
    obtain rfl : free = 1 := by simpa using hcount
    cases queue with
    | nil => exact .inl rfl
    | cons next rest => exact absurd (hwaits (List.cons_ne_nil next rest)) Nat.one_ne_zero
  | [c] =>
    obtain rfl : free = 0 := by simpa using hcount
    exact .inr ⟨queue, c, rfl⟩
  | _ :: _ :: _ =>
    simp only [List.length_cons] at hcount
    omega

theorem idle_onePermit (p : Snapshot) (o : Nat) : (idle p o : Schedule ι).OnePermit :=
  ⟨rfl, fun h => absurd rfl h⟩

theorem busy_onePermit (queue : List ι) (c : Cycle ι) (p : Snapshot) (o : Nat) :
    (busy queue c p o).OnePermit :=
  ⟨rfl, fun _ => rfl⟩

theorem handedOver_onePermit (queue : List ι) (p : Snapshot) (o : Nat) :
    (handedOver queue p o).OnePermit := by
  cases queue with
  | nil => exact idle_onePermit p o
  | cons next rest => exact busy_onePermit rest _ p o

/-- What a step of a schedule with one permit can do. -/
inductive Turn (root : Location) : Schedule ι → Event ι → Schedule ι → Prop
  | letIn (caller : ι) (r : Request) (p : Snapshot) (o : Nat) :
    Turn root (idle p o) (.asked caller r .admitted) (busy [] ⟨caller, r, .admitted⟩ p o)
  | skip (caller : ι) (queue : List ι) (c : Cycle ι) (p : Snapshot) (o : Nat) :
    Turn root (busy queue c p o) (.asked caller .refresh .skipped) (busy queue c p o)
  | wait (caller : ι) (queue : List ι) (c : Cycle ι) (p : Snapshot) (o : Nat) :
    Turn root (busy queue c p o) (.asked caller .bootstrap .waits)
      (busy (queue ++ [caller]) c p o)
  | call (caller : ι) (r : Request) (present : Bool) (queue : List ι) (p : Snapshot) (o : Nat) :
    Turn root (busy queue ⟨caller, r, .admitted⟩ p o)
      (.called caller r present (.ofPresence present))
      (busy queue ⟨caller, r, .calling (.ofPresence present)⟩ p o)
  | fail {caller : ι} {r : Request} {call : SourceCall} {result : Except Failure Unit}
    {f : Failure} (queue : List ι) (p : Snapshot) (o : Nat) :
    r.fatal? call result = some f →
    Turn root (busy queue ⟨caller, r, .calling call⟩ p o)
      (.returned caller result (some (.failed f))) (handedOver queue p o)
  | walk {caller : ι} {r : Request} {call : SourceCall} {result : Except Failure Unit}
    (queue : List ι) (p : Snapshot) (o : Nat) :
    r.fatal? call result = none →
    Turn root (busy queue ⟨caller, r, .calling call⟩ p o) (.returned caller result none)
      (busy queue ⟨caller, r, .walking (Survey.inquire root)⟩ p o)
  | look {q : DiskQuestion} (caller : ι) (r : Request) (next : q.Answer → Inquiry Survey)
    (d : Disk) (queue : List ι) (p : Snapshot) (o : Nat) :
    Turn root (busy queue ⟨caller, r, .walking (.ask q next)⟩ p o) (.looked caller)
      (busy queue ⟨caller, r, .walking (next (d q))⟩ p o)
  | publish (caller : ι) (r : Request) (survey : Survey) (now : Nat) (queue : List ι)
    (p : Snapshot) (o : Nat) :
    Turn root (busy queue ⟨caller, r, .walking (.done survey)⟩ p o)
      (.published caller (p.generation + 1))
      (busy queue ⟨caller, r, .published (survey.report (p.generation + 1))⟩ (p.next now survey) o)
  | finish (caller : ι) (r : Request) (report : Report) (queue : List ι) (p : Snapshot)
    (o : Nat) :
    Turn root (busy queue ⟨caller, r, .published report⟩ p o)
      (.ended caller (some (.completed report))) (handedOver queue p o)

/-- A request to a schedule with one permit is a turn. -/
theorem OnePermit.turn_ask {root : Location} {s : Schedule ι} (h : s.OnePermit) (caller : ι)
    (r : Request) :
    Turn root s (.asked caller r (s.request caller r).2) (s.request caller r).1 := by
  rcases h.idle_or_busy with hs | ⟨queue, c, hs⟩ <;> rw [hs] <;> cases r
  · exact .letIn ..
  · exact .letIn ..
  · exact .wait ..
  · exact .skip ..

/-- With no cycle in flight, a refresh is admitted. -/
theorem OnePermit.admits {s : Schedule ι} (h : s.OnePermit) (hs : s.cycles = []) (caller : ι) :
    (s.request caller .refresh).2 = .admitted := by
  rcases h.idle_or_busy with hidle | ⟨queue, c, hbusy⟩
  · rw [hidle]
    rfl
  · rw [hbusy] at hs
    cases hs

/-- After a turn, one permit is free or held still. -/
theorem Turn.onePermit {root : Location} {s s' : Schedule ι} {e : Event ι}
    (h : Turn root s e s') : s'.OnePermit := by
  cases h with
  | fail queue p o => exact handedOver_onePermit queue p o
  | finish caller r report queue p o => exact handedOver_onePermit queue p o
  | _ => exact busy_onePermit ..

variable [DecidableEq ι]

/-- The steps of a schedule over the templates at `root`. -/
inductive Step (root : Location) : Schedule ι → Event ι → Schedule ι → Prop
  | ask {s : Schedule ι} (caller : ι) (r : Request) :
    Step root s (.asked caller r (s.request caller r).2) (s.request caller r).1
  | call {s : Schedule ι} {r : Request} {c : SourceCall} (caller : ι) (present : Bool) :
    s.cycle? caller = some ⟨caller, r, .admitted⟩ →
    (s.call caller present).cycle? caller = some ⟨caller, r, .calling c⟩ →
    Step root s (.called caller r present c) (s.call caller present)
  | return {s : Schedule ι} {r : Request} {c : SourceCall} (caller : ι)
    (result : Except Failure Unit) :
    s.cycle? caller = some ⟨caller, r, .calling c⟩ →
    Step root s (.returned caller result (s.returned caller root result).2)
      (s.returned caller root result).1
  | look {s : Schedule ι} {r : Request} {q : DiskQuestion} {next : q.Answer → Inquiry Survey}
    (caller : ι) (d : Disk) :
    s.cycle? caller = some ⟨caller, r, .walking (.ask q next)⟩ →
    Step root s (.looked caller) (s.look caller d)
  | publish {s : Schedule ι} {r : Request} {survey : Survey} (caller : ι) (now : Nat) :
    s.cycle? caller = some ⟨caller, r, .walking (.done survey)⟩ →
    Step root s (.published caller (s.rebuilt caller now).published.generation)
      (s.rebuilt caller now)
  | finish {s : Schedule ι} {r : Request} {report : Report} (caller : ι) :
    s.cycle? caller = some ⟨caller, r, .published report⟩ →
    Step root s (.ended caller (s.finish caller).2) (s.finish caller).1

/-! ## The functions of the schedule with one cycle in flight -/

section

variable {queue : List ι} {caller : ι} {r : Request} {phase : Phase} {p : Snapshot} {o : Nat}

@[simp] theorem cycle?_busy :
    (busy queue ⟨caller, r, phase⟩ p o).cycle? caller = some ⟨caller, r, phase⟩ := by
  simp [cycle?, busy]

/-- The cycle that is found in a schedule with one permit is the one in flight. -/
theorem OnePermit.eq_busy {s : Schedule ι} {c : Cycle ι} (h : s.OnePermit)
    (hc : s.cycle? caller = some c) : ∃ queue, s = busy queue c s.published s.orphans := by
  obtain hs | ⟨queue, c', hs⟩ := h.idle_or_busy
  · rw [hs] at hc
    cases hc
  · have hmem : c ∈ s.cycles := List.mem_of_find?_eq_some hc
    rw [hs] at hmem
    obtain rfl := List.mem_singleton.1 hmem
    exact ⟨queue, hs⟩

@[simp] theorem enter_busy (phase' : Phase) :
    (busy queue ⟨caller, r, phase⟩ p o).enter caller phase'
      = busy queue ⟨caller, r, phase'⟩ p o := by
  simp [enter, busy]

@[simp] theorem release_busy :
    (busy queue ⟨caller, r, phase⟩ p o).release caller = handedOver queue p o := by
  cases queue <;> simp [release, busy, handedOver, idle, Gate.release, Gate.ofPermits, letIn]

@[simp] theorem call_busy (present : Bool) :
    (busy queue ⟨caller, r, .admitted⟩ p o).call caller present
      = busy queue ⟨caller, r, .calling (.ofPresence present)⟩ p o := by
  simp only [Schedule.call, cycle?_busy, enter_busy]

theorem returned_busy_of_fatal {call : SourceCall} {result : Except Failure Unit} {f : Failure}
    (h : r.fatal? call result = some f) (root : Location) :
    (busy queue ⟨caller, r, .calling call⟩ p o).returned caller root result
      = (handedOver queue p o, some (.failed f)) := by
  simp only [returned, cycle?_busy, h, release_busy]

theorem returned_busy {call : SourceCall} {result : Except Failure Unit}
    (h : r.fatal? call result = none) (root : Location) :
    (busy queue ⟨caller, r, .calling call⟩ p o).returned caller root result
      = (busy queue ⟨caller, r, .walking (Survey.inquire root)⟩ p o, none) := by
  simp only [returned, cycle?_busy, h, enter_busy]

@[simp] theorem look_busy (walk : Inquiry Survey) (d : Disk) :
    (busy queue ⟨caller, r, .walking walk⟩ p o).look caller d
      = busy queue ⟨caller, r, .walking (walk.advance d)⟩ p o := by
  simp only [look, cycle?_busy, enter_busy]

@[simp] theorem finish_busy (report : Report) :
    (busy queue ⟨caller, r, .published report⟩ p o).finish caller
      = (handedOver queue p o, some (.completed report)) := by
  simp only [finish, cycle?_busy, release_busy]

@[simp] theorem rebuilt_busy (survey : Survey) (now : Nat) :
    (busy queue ⟨caller, r, .walking (.done survey)⟩ p o).rebuilt caller now
      = busy queue ⟨caller, r, .published (survey.report (p.generation + 1))⟩
        (p.next now survey) o := by
  simp only [rebuilt, cycle?_busy]
  exact enter_busy _

end

/-- A step of a schedule with one permit is a turn. -/
theorem OnePermit.turn {root : Location} {s s' : Schedule ι} {e : Event ι} (h : s.OnePermit)
    (hs : Step root s e s') : Turn root s e s' := by
  cases hs with
  | ask caller r => exact h.turn_ask caller r
  | call caller present hc hc' =>
    obtain ⟨queue, hs⟩ := h.eq_busy hc
    rw [hs, call_busy] at hc' ⊢
    rw [cycle?_busy] at hc'
    obtain ⟨rfl⟩ := hc'
    exact .call ..
  | @«return» r c caller result hc =>
    obtain ⟨queue, hs⟩ := h.eq_busy hc
    rw [hs]
    cases hf : r.fatal? c result with
    | some f => rw [returned_busy_of_fatal hf]; exact .fail _ _ _ hf
    | none => rw [returned_busy hf]; exact .walk _ _ _ hf
  | look caller d hc =>
    obtain ⟨queue, hs⟩ := h.eq_busy hc
    rw [hs, look_busy]
    exact .look ..
  | publish caller now hc =>
    obtain ⟨queue, hs⟩ := h.eq_busy hc
    rw [hs, rebuilt_busy]
    exact .publish ..
  | finish caller hc =>
    obtain ⟨queue, hs⟩ := h.eq_busy hc
    rw [hs, finish_busy]
    exact .finish ..

end TemplateCatalog.Schedule
