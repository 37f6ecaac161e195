import TemplateCatalog.Proofs.Refresh.Polling

/-!
# Who is next

A refresh is in at once or skipped. A bootstrap that meets a cycle waits, and when that ends,
with success or not, the permit goes to the bootstrap that has waited longest, before any refresh
can try for it. So as long as nobody goes away, a bootstrap is never overtaken.

* `Fifo`: what comes into a queue leaves it in the same order;
* `Turn.answered`, `Turn.begun`: in each turn, requests are answered and cycles begin in the order
  in which the requests came;
* `fifo_of_run`: so they are in every run;
* `InTurn`, `in_turn`: what this comes to for the bootstraps that wait.
-/

namespace TemplateCatalog

/-! ## First in, first out -/

section

variable {α β : Type} {seen : α → β} {q q' q'' entered entered' : List α} {left left' : List β}

/-- What has entered a queue leaves it in this order, and the rest is in the queue then. Of those
    that leave, an onlooker sees only so much. -/
def Fifo (seen : α → β) (q entered : List α) (left : List β) (q' : List α) : Prop :=
  ∃ gone, q ++ entered = gone ++ q' ∧ gone.map seen = left

namespace Fifo

theorem nothing : Fifo seen q [] [] q := ⟨[], List.append_nil q, rfl⟩

theorem enter (x : α) : Fifo seen q [x] [] (q ++ [x]) := ⟨[], rfl, rfl⟩

theorem leave (x : α) : Fifo seen (x :: q) [] [seen x] q := ⟨[x], List.append_nil _, rfl⟩

theorem append (h : Fifo seen q entered left q') (h' : Fifo seen q' entered' left' q'') :
    Fifo seen q (entered ++ entered') (left ++ left') q'' := by
  obtain ⟨gone, hqueue, rfl⟩ := h
  obtain ⟨gone', hqueue', rfl⟩ := h'
  refine ⟨gone ++ gone', ?_, List.map_append⟩
  calc q ++ (entered ++ entered')
      = gone ++ (q' ++ entered') := by rw [← List.append_assoc, hqueue, List.append_assoc]
    _ = gone ++ gone' ++ q'' := by rw [hqueue', List.append_assoc]

/-- The queue is what is left when so many have gone. -/
theorem eq_drop (h : Fifo seen q entered left q') : q' = (q ++ entered).drop left.length := by
  obtain ⟨gone, hqueue, rfl⟩ := h
  rw [hqueue, List.length_map, List.drop_left]

end Fifo

end

namespace Schedule

variable {ι : Type}

/-! ## The order of requests -/

/-- Whether a cycle has done nothing yet. -/
def Cycle.isFresh (c : Cycle ι) : Bool :=
  match c.phase with
  | .admitted => true
  | _ => false

/-- The requests that are to be answered: of the cycle in flight, and of those that wait. -/
def pending (s : Schedule ι) : List (ι × Request) := s.cycles.map Cycle.asked ++ s.waiting

/-- The requests whose cycles have not begun. -/
def unbegun (s : Schedule ι) : List (ι × Request) :=
  (s.cycles.filter Cycle.isFresh).map Cycle.asked ++ s.waiting

/-- The request whose cycle begins in an event, with a call of the source. -/
def Event.begun? : Event ι → Option (ι × Request)
  | called caller r .. => some (caller, r)
  | _ => none

/-- A step is not that somebody goes away. -/
theorem Act.stays_step (e : Event ι) (d : Disk) : (step e d).Stays := fun _ => nofun

/-- The event of a step. -/
def Act.event? : Act ι → Option (Event ι)
  | step e _ => some e
  | _ => none

/-- What is seen of the steps in a log. -/
def events (log : List (Act ι)) : List (Event ι) := log.filterMap Act.event?

variable {root : Location} {s s' t : Schedule ι} {e : Event ι} {queue : List ι} {c : Cycle ι}
  {p : Snapshot} {o : Nat}

theorem pending_busy : (busy queue c p o).pending = Cycle.asked c :: queue.map (·, .bootstrap) := rfl

theorem unbegun_busy : (busy queue c p o).unbegun =
    ([c].filter Cycle.isFresh).map Cycle.asked ++ queue.map (·, .bootstrap) := rfl

/-- When a cycle has ended, only those are to be answered that waited. -/
theorem pending_handedOver : (handedOver queue p o).pending = queue.map (·, .bootstrap) :=
  asked_handedOver queue p o

/-- When a cycle has ended, none of those that waited has begun. -/
theorem unbegun_handedOver : (handedOver queue p o).unbegun = queue.map (·, .bootstrap) := by
  cases queue <;> rfl

/-- In a turn, requests are answered in the order in which they came. -/
theorem Turn.answered (h : Turn root s e s') :
    Fifo Prod.fst s.pending e.taken?.toList e.answered?.toList s'.pending := by
  cases h with
  | letIn caller r => exact .enter (caller, r)
  | wait caller queue c =>
    rw [pending_busy, pending_busy, List.map_append]
    exact .enter (caller, Request.bootstrap)
  | @fail caller r =>
    rw [pending_busy, pending_handedOver]
    exact .leave (caller, r)
  | finish caller r =>
    rw [pending_busy, pending_handedOver]
    exact .leave (caller, r)
  | _ => exact .nothing

/-- In a turn, cycles begin in the order in which their requests came. -/
theorem Turn.begun (h : Turn root s e s') :
    Fifo id s.unbegun e.taken?.toList e.begun?.toList s'.unbegun := by
  cases h with
  | letIn caller r => exact .enter (caller, r)
  | wait caller queue c =>
    rw [unbegun_busy, unbegun_busy, List.map_append, ← List.append_assoc]
    exact .enter (caller, Request.bootstrap)
  | call caller r => exact .leave (caller, r)
  | fail =>
    rw [unbegun_handedOver]
    exact .nothing
  | finish =>
    rw [unbegun_handedOver]
    exact .nothing
  | _ => exact .nothing

/-- The one in flight is the first that is to be answered, and the others wait. -/
theorem OnePermit.cycles_of_pending {caller : ι} {r : Request} {rest : List (ι × Request)}
    (h : s.OnePermit) (hp : s.pending = (caller, r) :: rest) :
    ∃ phase, s.cycles = [⟨caller, r, phase⟩] ∧ s.waiting = rest := by
  rcases h.idle_or_busy with hs | ⟨queue, ⟨owner, q, phase⟩, hs⟩
  · rw [hs] at hp
    cases hp
  · rw [hs] at hp ⊢
    cases hp
    exact ⟨phase, rfl, rfl⟩

/-- A bootstrap waits or is in flight. -/
def HasBootstrap (s : Schedule ι) : Prop := ∃ caller, (caller, .bootstrap) ∈ s.pending

/-- While anything is to be answered, a cycle is in flight. -/
theorem OnePermit.eq_busy_of_pending {x : ι × Request} (h : s.OnePermit) (hx : x ∈ s.pending) :
    ∃ queue c, s = busy queue c s.published s.orphans := by
  rcases h.idle_or_busy with hs | hs
  · rw [hs] at hx
    cases hx
  · exact hs

/-- What is to be answered in a schedule with a bootstrap that waits. -/
theorem OnePermit.pending_of_queue {ahead behind : List ι} {caller : ι} (h : s.OnePermit)
    (hq : s.gate.queue = ahead ++ caller :: behind) :
    ∃ c, s.pending = (Cycle.asked c :: ahead.map (·, .bootstrap)) ++
      (caller, .bootstrap) :: behind.map (·, .bootstrap) := by
  rcases h.idle_or_busy with hs | ⟨queue, c, hs⟩
  · rw [hs] at hq
    exact absurd hq.symm (List.append_ne_nil_of_right_ne_nil _ (List.cons_ne_nil _ _))
  · rw [hs] at hq ⊢
    obtain rfl : queue = ahead ++ caller :: behind := hq
    refine ⟨c, ?_⟩
    rw [pending_busy, List.map_append, List.map_cons, List.cons_append]

/-- Those who wait come after the one in flight. -/
theorem OnePermit.waiting_eq_tail (h : s.OnePermit) : s.waiting = s.pending.tail := by
  rcases h.idle_or_busy with hs | ⟨queue, c, hs⟩ <;> rw [hs] <;> rfl

/-- The queue of the gate is that of the bootstraps that wait. -/
theorem queue_eq_map_waiting (s : Schedule ι) : s.gate.queue = s.waiting.map Prod.fst := by
  rw [waiting, List.map_map]
  exact (List.map_id _).symm

section

variable {ahead : List ι} {caller : ι} {x : ι × Request} {rest : List (ι × Request)} {n : Nat}

/-- A bootstrap waits while only those have gone that came before it. -/
theorem OnePermit.waits_of_pending (h : t.OnePermit)
    (hp : t.pending = (x :: ahead.map (·, .bootstrap) ++ (caller, .bootstrap) :: rest).drop n)
    (hn : n ≤ ahead.length) : ∃ behind, t.gate.queue = ahead.drop n ++ caller :: behind := by
  have hle : n ≤ (ahead.map (·, Request.bootstrap)).length := by rwa [List.length_map]
  have hwaiting : t.waiting = (ahead.drop n).map (·, .bootstrap) ++ (caller, .bootstrap) :: rest := by
    rw [h.waiting_eq_tail, hp, List.tail_drop, List.cons_append, List.drop_succ_cons,
      List.drop_append_of_le_length hle, List.map_drop]
  refine ⟨rest.map Prod.fst, ?_⟩
  rw [queue_eq_map_waiting, hwaiting, List.map_append, List.map_map]
  exact congrArg (· ++ _) (List.map_id _)

/-- And it is in flight when all those have gone. -/
theorem OnePermit.turn_of_pending (h : t.OnePermit)
    (hp : t.pending = (x :: ahead.map (·, .bootstrap) ++ (caller, .bootstrap) :: rest).drop n)
    (hn : n = ahead.length + 1) : ∃ phase, t.cycles = [⟨caller, .bootstrap, phase⟩] := by
  have hlength : n = (x :: ahead.map (·, Request.bootstrap)).length := by
    rw [hn, List.length_cons, List.length_map]
  rw [hlength, List.drop_left] at hp
  obtain ⟨phase, hcycles, -⟩ := h.cycles_of_pending hp
  exact ⟨phase, hcycles⟩

end

variable [DecidableEq ι] {before log : List (Act ι)}

/-- As long as nobody goes away, what enters a queue in turns leaves it in the same order, if
    only turns change that queue. -/
theorem fifo_of_run {α β : Type} {seen : α → β} {q : Schedule ι → List α}
    {enters : Event ι → Option α} {leaves : Event ι → Option β}
    (hturn : ∀ {s e s'}, Turn root s e s' →
      Fifo seen (q s) (enters e).toList (leaves e).toList (q s'))
    (hothers : ∀ s p o, q { s with published := p, orphans := o } = q s)
    (h : Run (Evolves root) s log t) (hp : s.OnePermit) (hstay : ∀ a ∈ log, a.Stays) :
    Fifo seen (q s) ((events log).filterMap enters) ((events log).filterMap leaves) (q t) := by
  -- Turns keep the law by assumption, and nothing else that happens changes the queue.
  induction h with
  | nil => exact .nothing
  | @step log s' s'' a hrun he ih =>
    obtain ⟨hbefore, hlast⟩ := List.forall_mem_append.1 hstay
    have hevents : events (log ++ [a]) = events log ++ a.event?.toList := by
      rw [events, List.filterMap_append, ← events]
      cases a <;> rfl
    have hlaw : Fifo seen (q s') (a.event?.toList.filterMap enters)
        (a.event?.toList.filterMap leaves) (q s'') := by
      cases he with
      | step hs _ => exact hturn ((onePermit_of_run hrun hp).turn hs)
      | left caller => exact absurd rfl (hlast _ (List.mem_singleton_self _) caller)
      | orphan now survey ho =>
        have hq : q (s'.orphanRebuilt now survey) = q s' := by
          rw [orphanRebuilt_of_pos ho]
          exact hothers s' _ _
        rw [hq]
        exact .nothing
      | outside now survey =>
        have hq : q (s'.publish now survey).1 = q s' := hothers s' _ _
        rw [hq]
        exact .nothing
    rw [hevents, List.filterMap_append, List.filterMap_append]
    exact (ih hbefore).append hlaw

/-! ## Bootstraps that wait -/

/-- How many requests were answered in a log. -/
def answers (log : List (Act ι)) : Nat := ((events log).filterMap Event.answered?).length

/-- How requests have had their turns since a state `s`, in which bootstraps may wait, and how
    they have them in the state `t`. -/
structure InTurn (root : Location) (s : Schedule ι) (log : List (Act ι)) (t : Schedule ι) :
    Prop where
  /-- Requests that are not skipped are answered in the order in which they came. -/
  answered : Fifo Prod.fst s.pending ((events log).filterMap Event.taken?)
    ((events log).filterMap Event.answered?) t.pending
  /-- Their cycles begin in this order. -/
  begun : Fifo id s.unbegun ((events log).filterMap Event.taken?)
    ((events log).filterMap Event.begun?) t.unbegun
  /-- A bootstrap waits while the one that was in flight and those that wait before it are
      answered, -/
  waits : ∀ ahead caller behind, s.gate.queue = ahead ++ caller :: behind →
    answers log ≤ ahead.length →
      ∃ behind', t.gate.queue = ahead.drop (answers log) ++ caller :: behind'
  /-- and then it is in flight. -/
  turn : ∀ ahead caller behind, s.gate.queue = ahead ++ caller :: behind →
    answers log = ahead.length + 1 → ∃ phase, t.cycles = [⟨caller, .bootstrap, phase⟩]
  /-- When a cycle ends, in whatever way, the bootstrap that has waited longest is in at once. -/
  next : ∀ first rest a t' answer, t.gate.queue = first :: rest → Evolves root t a t' →
    a.answer? = some answer → t'.cycles = [⟨first, .bootstrap, .admitted⟩] ∧ t'.gate.queue = rest
  /-- While a bootstrap waits or is in flight, every refresh is skipped, be it a tick's. -/
  skipped : t.HasBootstrap → ∀ other, t.request other .refresh = (t, .skipped) ∧
    ∀ poll now, (⟨t, poll, now⟩ : Polled ι).attempt other =
      (⟨t, (poll.answered now).idle, now⟩, .skipped)
  /-- A bootstrap is in at once if nothing is in flight, -/
  admitted : t.cycles = [] → ∀ caller, t.request caller .bootstrap =
    (busy [] ⟨caller, .bootstrap, .admitted⟩ t.published t.orphans, .admitted)
  /-- and otherwise it waits behind the others. -/
  queued : t.cycles ≠ [] → ∀ caller, t.request caller .bootstrap =
    ({ t with gate.queue := t.gate.queue ++ [caller] }, .waits)

/-- The act that answers a request hands the permit over. -/
theorem OnePermit.handedOver_of_answer {t' : Schedule ι} {a : Act ι} {answer : Answer}
    (h : t.OnePermit) (he : Evolves root t a t') (ha : a.answer? = some answer) :
    t' = handedOver t.gate.queue t.published t.orphans := by
  have hstay : ∀ caller, a ≠ .left caller := by
    rintro caller rfl
    cases ha
  rcases h.idle_or_busy with hs | ⟨queue, ⟨caller, r, phase⟩, hs⟩
  · rw [hs] at he
    cases he with
    | step hstep _ =>
      obtain ⟨caller, r, rfl, -⟩ := ((idle_onePermit ..).turn hstep).of_idle
      cases ha
    | _ => cases ha
  · rw [hs] at he ⊢
    rcases he.of_busy (hstay caller) with ⟨e, d, phase', p', rfl, hgoes, -⟩ |
      ⟨e, d, answer', rfl, -, rfl⟩ | ⟨-, -, hnone, -⟩
    · cases hgoes <;> cases ha
    · rfl
    · rw [hnone] at ha
      cases ha

/-- **Bootstraps that wait**: however many bootstraps and refreshes are asked for at whatever
    time, and whatever the cycles come to, bootstraps have their turns in the order in which they
    were asked for. The one that has waited longest is in as soon as a cycle ends, and until all
    of them have ended, refreshes are skipped. A bootstrap never is. -/
theorem in_turn (h₀ : Run (Evolves root) .empty before s) (h : Run (Evolves root) s log t)
    (hstay : ∀ a ∈ log, a.Stays) : InTurn root s log t := by
  have hone := onePermit_of_run h₀ (idle_onePermit _ _)
  have hone' := onePermit_of_run h hone
  have hanswered : Fifo Prod.fst s.pending ((events log).filterMap Event.taken?)
      ((events log).filterMap Event.answered?) t.pending :=
    fifo_of_run Turn.answered (fun _ _ _ => rfl) h hone hstay
  -- All of a queue is pending, behind the request in flight, and is answered in this order.
  have hpending {ahead behind : List ι} {caller : ι}
      (hq : s.gate.queue = ahead ++ caller :: behind) :
      ∃ (x : ι × Request) (rest : List (ι × Request)), t.pending =
        (x :: ahead.map (·, .bootstrap) ++ (caller, .bootstrap) :: rest).drop (answers log) := by
    obtain ⟨c, hc⟩ := hone.pending_of_queue hq
    have hdrop := hanswered.eq_drop
    rw [hc, List.append_assoc, List.cons_append] at hdrop
    exact ⟨_, _, hdrop⟩
  refine
    { answered := hanswered
      begun := fifo_of_run Turn.begun (fun _ _ _ => rfl) h hone hstay
      waits := fun ahead caller behind hq hn => ?_
      turn := fun ahead caller behind hq hn => ?_
      next := fun first rest a t' answer hq he ha => ?_
      skipped := ?_
      admitted := fun hidle caller => ?_
      queued := fun hbusy caller => ?_ }
  · obtain ⟨x, rest, hp⟩ := hpending hq
    exact hone'.waits_of_pending hp hn
  · obtain ⟨x, rest, hp⟩ := hpending hq
    exact hone'.turn_of_pending hp hn
  · rw [hone'.handedOver_of_answer he ha, hq]
    exact ⟨rfl, rfl⟩
  · -- A bootstrap that waits or is in flight leaves no permit to a refresh.
    rintro ⟨caller, hmem⟩ other
    obtain ⟨queue, c, hs⟩ := hone'.eq_busy_of_pending hmem
    refine ⟨?_, fun poll now => Polled.attempt_of_busy hs⟩
    rw [hs]
    rfl
  · rcases hone'.idle_or_busy with hs | ⟨queue, c, hs⟩
    · rw [hs]
      rfl
    · rw [hs] at hidle
      cases hidle
  · rcases hone'.idle_or_busy with hs | ⟨queue, c, hs⟩
    · rw [hs] at hbusy
      exact absurd rfl hbusy
    · rw [hs]
      rfl

/-- Two bootstraps wait for a third, and a refresh is skipped. When the third has failed, the first
    of the two is in, and the second waits still. -/
theorem in_turn_contended :
    ∃ (before log : List (Act Nat)) (s t : Schedule Nat),
      Run (Evolves (.ofString "shelf")) .empty before s ∧
      Run (Evolves (.ofString "shelf")) s log t ∧ (∀ a ∈ log, a.Stays) ∧
      s.gate.queue = [2, 3] ∧ t.cycles = [⟨2, .bootstrap, .admitted⟩] ∧ t.gate.queue = [3] ∧
      InTurn (.ofString "shelf") s log t := by
  have hasked : Run (Evolves (.ofString "shelf")) (.empty : Schedule Nat) _ _ :=
    (((Run.nil.step (.ask 0 .bootstrap Disk.bare)).step (.ask 2 .bootstrap Disk.bare)).step
      (.ask 1 .refresh Disk.bare)).step (.ask 3 .bootstrap Disk.bare)
  have hfatal : Request.bootstrap.fatal? .ensure (.error (.ofError .gitMissing)) =
    some (.ofError .gitMissing) := rfl
  let f : Failure := .ofError .gitMissing
  have hfailed : Run (Evolves (.ofString "shelf"))
      (busy [2, 3] ⟨0, .bootstrap, .admitted⟩ .empty 0)
      [.step (.called 0 .bootstrap false .ensure) Disk.bare,
        .step (.returned 0 (.error f) (some (.failed f))) Disk.bare]
      (busy [3] ⟨2, .bootstrap, .admitted⟩ .empty 0) :=
    (Run.nil.step ((Goes.call .empty false Disk.bare).evolves [2, 3] 0)).step
      ((Ends.fail hfatal).evolves [2, 3] .empty 0 Disk.bare)
  have hstays : ∀ a ∈ [.step (.called 0 .bootstrap false .ensure) Disk.bare,
      .step (.returned 0 (.error f) (some (.failed f))) Disk.bare], Act.Stays a :=
    List.forall_mem_cons.2 ⟨Act.stays_step _ _, List.forall_mem_singleton.2 (Act.stays_step _ _)⟩
  exact ⟨_, _, _, _, hasked, hfailed, hstays, rfl, rfl, rfl, in_turn hasked hfailed hstays⟩

end Schedule

end TemplateCatalog
