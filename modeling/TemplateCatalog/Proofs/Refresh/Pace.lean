import TemplateCatalog.Proofs.Refresh.Polling
import TemplateCatalog.Service

/-!
# The pace of a poll

A poll may be late: it waits for its refresh, however long that takes, and it may be woken
whenever there is time for it. Its attempts keep their pace all the same. Each one has a deadline
of its own, which is a multiple of the interval after the start, and which it does not come
before. After it, the next deadline is the first multiple that is still to come. So the poll does
not drift, and missed deadlines are not made up for in a burst.

* `Service.refreshInterval_pos`: the interval of a service is never zero;
* `Poll.Paces`: the times of attempts that keep the pace, with the next deadline;
* `Poll.Paces.increasing`, `Poll.Paces.countP_le`: their deadlines, and how many there can be;
* `Polled.Late`: a schedule that is polled by a poll that may be late;
* `Polled.Pacing.step`: in each step the attempts keep the pace;
* `Polled.paced`: so they do in every run.
-/

namespace TemplateCatalog

/-! ## Intervals -/

/-- Settings with which nothing is wrong have an interval. -/
theorem Settings.refreshInterval_ne_zero {s : Settings} (h : s.validate = .ok ()) :
    s.refreshInterval ≠ 0 := by
  intro hzero
  rw [validate] at h
  cases hurl : s.url with
  | error e =>
    rw [hurl] at h
    cases h
  | ok url =>
    rw [hurl] at h
    simp only [hzero, if_true] at h
    cases h

/-- So a service has at least a second between two refreshes. -/
theorem Service.refreshInterval_pos {s : Settings} {service : Service}
    (h : ofSettings s = .ok service) : 0 < service.refreshInterval := by
  rw [ofSettings] at h
  split at h
  next hvalid _ =>
    cases h
    have hne : s.refreshInterval.toNat ≠ 0 := fun hzero =>
      Settings.refreshInterval_ne_zero hvalid (UInt64.toNat_inj.1 hzero)
    exact Nat.pos_of_ne_zero hne
  all_goals cases h

/-! ## Deadlines -/

namespace Poll

/-- The multiples of the interval that are the deadlines of a poll, given the times of its
    attempts: the first one, and after each attempt the first that is still to come. -/
def multiples (start interval : Nat) (times : List Nat) : List Nat :=
  1 :: times.map fun t => (t - start) / interval + 1

/-- The times of attempts that keep the pace, each not before its deadline; and the next
    deadline. -/
inductive Paces (start interval : Nat) : List Nat → Nat → Prop
  | started : Paces start interval [] (start + interval)
  | attempted {times : List Nat} {deadline t : Nat} : Paces start interval times deadline →
    deadline ≤ t → Paces start interval (times ++ [t]) (tickAfter start interval t)

variable {start interval deadline : Nat} {times : List Nat}

theorem one_le_of_mem_multiples {m : Nat} (hm : m ∈ multiples start interval times) : 1 ≤ m := by
  rcases List.mem_cons.1 hm with rfl | hm
  · exact Nat.le_refl 1
  · obtain ⟨t, -, rfl⟩ := List.mem_map.1 hm
    exact Nat.le_add_left ..

theorem multiples_concat (t : Nat) : multiples start interval (times ++ [t]) =
    multiples start interval times ++ [(t - start) / interval + 1] := by
  rw [multiples, List.map_append, List.map_singleton, ← List.cons_append, ← multiples]

namespace Paces

/-- An attempt that is not before a multiple is before the next one. -/
theorem lt_next {m t : Nat} (hp : 0 < interval) (h : start + m * interval ≤ t) :
    m < (t - start) / interval + 1 :=
  Nat.lt_succ_of_le ((Nat.le_div_iff_mul_le hp).2 (by omega))

/-- The deadlines are at increasing multiples. No attempt comes before its own, and the last one
    is still to be met. -/
theorem increasing (h : Paces start interval times deadline) (hp : 0 < interval) :
    ∃ met m, multiples start interval times = met ++ [m] ∧ deadline = start + m * interval ∧
      met.length = times.length ∧ (met ++ [m]).Pairwise (· < ·) ∧
      ∀ a ∈ met.zip times, start + a.1 * interval ≤ a.2 := by
  induction h with
  | started => exact ⟨[], 1, rfl, by rw [Nat.one_mul], rfl, List.pairwise_singleton .., nofun⟩
  | @attempted times deadline t _ hdeadline ih =>
    obtain ⟨met, m, hmultiples, rfl, hlength, hpairwise, hmet⟩ := ih
    have hlt : m < (t - start) / interval + 1 := lt_next hp hdeadline
    -- The deadline that was to be met is met, and the next is at a greater multiple.
    refine ⟨met ++ [m], _, by rw [multiples_concat, hmultiples], rfl, ?_, ?_, ?_⟩
    · rw [List.length_append, List.length_append, hlength, List.length_singleton,
        List.length_singleton]
    · refine List.pairwise_append.2 ⟨hpairwise, List.pairwise_singleton .., ?_⟩
      intro k hk _ hm'
      obtain rfl := List.mem_singleton.1 hm'
      rcases List.mem_append.1 hk with hk | hk
      · have hkm := (List.pairwise_append.1 hpairwise).2.2 k hk m (List.mem_singleton_self m)
        exact Nat.lt_trans hkm hlt
      · obtain rfl := List.mem_singleton.1 hk
        exact hlt
    · rw [List.zip_append hlength]
      refine List.forall_mem_append.2 ⟨hmet, ?_⟩
      exact List.forall_mem_singleton.2 hdeadline

/-- The next deadline comes after as many multiples as there were attempts. -/
theorem length_lt (h : Paces start interval times deadline) (hp : 0 < interval) :
    ∃ m, deadline = start + m * interval ∧ times.length < m := by
  induction h with
  | started => exact ⟨1, by rw [Nat.one_mul], Nat.one_pos⟩
  | @attempted times deadline t _ hdeadline ih =>
    obtain ⟨m, rfl, hlength⟩ := ih
    refine ⟨_, rfl, ?_⟩
    rw [List.length_append, List.length_singleton]
    exact Nat.lt_of_le_of_lt hlength (lt_next hp hdeadline)

/-- However long some of them took, no more attempts were made until a time than there were
    multiples. -/
theorem countP_le (h : Paces start interval times deadline) (hp : 0 < interval) (time : Nat) :
    times.countP (· ≤ time) ≤ (time - start) / interval := by
  induction h with
  | started => exact Nat.zero_le _
  | @attempted times deadline t h hdeadline ih =>
    rw [List.countP_append, List.countP_singleton]
    by_cases ht : t ≤ time
    · -- All of them count, this one and those before it.
      obtain ⟨m, rfl, hlength⟩ := h.length_lt hp
      have hm : m ≤ (time - start) / interval := (Nat.le_div_iff_mul_le hp).2 (by omega)
      have hcount : times.countP (· ≤ time) ≤ times.length := List.countP_le_length
      rw [if_pos (decide_eq_true ht)]
      omega
    · rw [if_neg (by simpa using ht)]
      exact ih

/-- No attempt comes before the first deadline. -/
theorem first_le (h : Paces start interval times deadline) (hp : 0 < interval) :
    ∀ t ∈ times, start + interval ≤ t := by
  induction h with
  | started => exact nofun
  | @attempted times deadline t h hdeadline ih =>
    refine List.forall_mem_append.2 ⟨ih, List.forall_mem_singleton.2 ?_⟩
    obtain ⟨m, rfl, hlength⟩ := h.length_lt hp
    have hle : 1 * interval ≤ m * interval := Nat.mul_le_mul_right interval (by omega)
    omega

end Paces

end Poll

/-! ## Attempts -/

namespace Polled

open Schedule

variable {ι : Type}

/-- What a schedule that is polled comes to, by a poll that may be late: time may pass by a tick
    that can be answered. -/
inductive Late [DecidableEq ι] (root : Location) (poller : ι) :
    Polled ι → Moment ι → Polled ι → Prop
  | step {x x' : Polled ι} {m : Moment ι} : Step root poller x m x' → Late root poller x m x'
  | pass {x : Polled ι} (time : Nat) :
    Late root poller x (.passed time) { x with now := x.now + time }

/-- When an attempt is made in a moment. -/
def Moment.attempt? : Moment ι → Option Nat
  | attempted now _ => some now
  | _ => none

/-- The times of the attempts in a run. -/
def attempts (log : List (Moment ι)) : List Nat := log.filterMap Moment.attempt?

theorem attempts_concat (log : List (Moment ι)) (m : Moment ι) :
    attempts (log ++ [m]) = attempts log ++ m.attempt?.toList := by
  rw [attempts, List.filterMap_append, ← attempts]
  cases m <;> rfl

variable {poller : ι} {start interval : Nat} {times : List Nat} {x x' x₀ : Polled ι}
  {m : Moment ι} {log : List (Moment ι)}

/-- What an attempt makes of the poll, whatever comes of its request. -/
theorem attempt_poll (x : Polled ι) (poller : ι) :
    ∃ busy, (x.attempt poller).1.poll = { x.poll.answered x.now with busy } := by
  rw [attempt]
  rcases x.schedule.request poller .refresh with ⟨schedule, admission⟩
  cases admission with
  | skipped => exact ⟨false, rfl⟩
  | _ => exact ⟨true, rfl⟩

variable [DecidableEq ι] {root : Location}

/-- What a run keeps of the pace of a poll. -/
structure Pacing (poller : ι) (start interval : Nat) (times : List Nat) (x : Polled ι) :
    Prop where
  linked : Linked poller x
  poll : x.poll.start = start ∧ x.poll.interval = interval
  paces : Poll.Paces start interval times x.poll.next

theorem Begins.pacing (h : Begins root poller start interval x) :
    Pacing poller start interval [] x := by
  refine ⟨h.linked, ?_, ?_⟩ <;> rw [h.poll]
  · exact ⟨rfl, rfl⟩
  · exact .started

omit [DecidableEq ι] in
/-- The deadline of an attempt has come, and the next one is the first multiple after it. -/
theorem Pacing.attempt (h : Pacing poller start interval times x) (hp : 0 < interval)
    (hdue : x.poll.isDue x.now = true) :
    x.poll.next ≤ x.now ∧ ∃ busy, (x.attempt poller).1.poll =
      ⟨start, interval, Poll.tickAfter start interval x.now, busy⟩ := by
  obtain ⟨-, ⟨rfl, rfl⟩, hpaces⟩ := h
  have hnow : x.poll.next ≤ x.now := (Poll.isDue_iff.1 hdue).2
  obtain ⟨m, hm, hlength⟩ := hpaces.length_lt hp
  obtain ⟨busy, hpoll⟩ := attempt_poll x poller
  refine ⟨hnow, busy, ?_⟩
  rw [hpoll, Poll.answered_eq hp ⟨m, by omega, hm⟩ hnow]

/-- In each step the attempts keep the pace. -/
theorem Pacing.step (h : Pacing poller start interval times x) (hp : 0 < interval)
    (hs : Late root poller x m x') :
    Pacing poller start interval (times ++ m.attempt?.toList) x' := by
  cases hs with
  | pass time =>
    simp only [Moment.attempt?, Option.toList_none, List.append_nil]
    exact ⟨⟨h.linked.permit, h.linked.waits, h.linked.flight⟩, h.poll, h.paces⟩
  | step hs =>
    have hlinked := h.linked.step hs
    cases hs with
    | pass time =>
      simp only [Moment.attempt?, Option.toList_none, List.append_nil]
      exact ⟨hlinked, h.poll, h.paces⟩
    | attempt hdue =>
      obtain ⟨hnow, busy, hpoll⟩ := h.attempt hp hdue
      refine ⟨hlinked, ?_, ?_⟩ <;> rw [hpoll]
      · exact ⟨rfl, rfl⟩
      · exact h.paces.attempted hnow
    -- An act may free the poll, but leaves its deadline where it is.
    | act =>
      simp only [Moment.attempt?, Option.toList_none, List.append_nil]
      refine ⟨hlinked, ?_, ?_⟩
      · split <;> exact h.poll
      · split <;> exact h.paces

theorem pacing_of_run (hp : 0 < interval) (h₀ : Begins root poller start interval x₀)
    (h : Run (Late root poller) x₀ log x) : Pacing poller start interval (attempts log) x := by
  induction h with
  | nil => exact h₀.pacing
  | step _ hs ih =>
    rw [attempts_concat]
    exact ih.step hp hs

/-- The attempts of a poll up to now, and the one that it can make now. -/
structure Paced (root : Location) (poller : ι) (start interval : Nat) (times : List Nat)
    (x : Polled ι) : Prop where
  /-- The deadlines are at increasing multiples of the interval, all of them after the start. -/
  increasing : (Poll.multiples start interval times).Pairwise (· < ·) ∧
    ∀ m ∈ Poll.multiples start interval times, 1 ≤ m
  /-- Each attempt has one of its own, in turn, and does not come before it. -/
  met : ∀ a ∈ (Poll.multiples start interval times).zip times, start + a.1 * interval ≤ a.2
  /-- The last one is still to be met. -/
  next : ∃ m, (Poll.multiples start interval times).getLast? = some m ∧
    x.poll.next = start + m * interval
  /-- No attempt comes before the first tick. -/
  first : ∀ t ∈ times, start + interval ≤ t
  /-- Until any time there are no more attempts than multiples. -/
  rate : ∀ time, times.countP (· ≤ time) ≤ (time - start) / interval
  /-- No attempt comes while the refresh of the one before is in flight, nor before its deadline;
      and the next deadline is the first multiple after it. -/
  attempt : ∀ now admission x', Late root poller x (.attempted now admission) x' →
    poller ∉ x.schedule.callers ∧ x.poll.next ≤ now ∧ now < x'.poll.next ∧
      Poll.IsTick start interval x'.poll.next ∧
      ∀ u, Poll.IsTick start interval u → now < u → x'.poll.next ≤ u

/-- **The pace of a poll**: however long its refreshes take, whatever comes of them and however
    late it is woken, a poll makes no attempt before the first multiple of its interval, and no
    two for the same one. So there are never more attempts than multiples, and after an attempt
    that is late the next is due at the first multiple that is still to come. -/
theorem paced (hp : 0 < interval) (h₀ : Begins root poller start interval x₀)
    (h : Run (Late root poller) x₀ log x) :
    Paced root poller start interval (attempts log) x := by
  have hpacing := pacing_of_run hp h₀ h
  obtain ⟨met, m, hmultiples, hnext, hlength, hincreasing, hmet⟩ := hpacing.paces.increasing hp
  refine
    { increasing := ⟨hmultiples ▸ hincreasing, fun _ => Poll.one_le_of_mem_multiples⟩
      met := ?_
      next := ⟨m, by rw [hmultiples, List.getLast?_concat], hnext⟩
      first := hpacing.paces.first_le hp
      rate := hpacing.paces.countP_le hp
      attempt := fun now admission x' hs => ?_ }
  · -- The multiple that is still to be met has no attempt beside it.
    have hzip : (met ++ [m]).zip (attempts log ++ []) = met.zip (attempts log) ++ [m].zip [] :=
      List.zip_append hlength
    rw [List.append_nil, List.zip_nil_right, List.append_nil] at hzip
    rwa [hmultiples, hzip]
  · cases hs with
    | step hs =>
      cases hs with
      | attempt hdue =>
        obtain ⟨hnow, busy, hpoll⟩ := hpacing.attempt hp hdue
        have hidle : x.poll.busy = false := (Poll.isDue_iff.1 hdue).1
        refine ⟨fun hin => ?_, hnow, ?_⟩
        · rw [hpacing.linked.flight.2 hin] at hidle
          cases hidle
        · rw [hpoll]
          exact ⟨Poll.lt_tickAfter hp, Poll.isTick_tickAfter, fun u => Poll.tickAfter_le hp⟩

/-- A poll with an interval of 1000 that is woken late, at 2500, makes its attempt then. The next
    one is due at 3000, and that of 2000 is left out. -/
theorem paced_late : ∃ (log : List (Moment Nat)) (x : Polled Nat),
    Begins (.ofString "shelf") 0 0 1000 (⟨.empty, .starting 0 1000, 0⟩ : Polled Nat) ∧
    Run (Late (.ofString "shelf") 0) ⟨.empty, .starting 0 1000, 0⟩ log x ∧
    attempts log = [2500] ∧ Poll.multiples 0 1000 (attempts log) = [1, 3] ∧ x.poll.next = 3000 ∧
    Paced (.ofString "shelf") 0 0 1000 (attempts log) x := by
  have hpassed : Late (.ofString "shelf") 0 ⟨.empty, .starting 0 1000, 0⟩ (.passed 2500)
      ⟨.empty, .starting 0 1000, 2500⟩ := .pass 2500
  have hattempted : Late (.ofString "shelf") 0 ⟨.empty, .starting 0 1000, 2500⟩
      (.attempted 2500 .admitted) _ := .step (.attempt rfl)
  have hrun := (Run.nil.step hpassed).step hattempted
  exact ⟨_, _, begins_thousand _, hrun, rfl, rfl, rfl, paced (by decide) (begins_thousand _) hrun⟩

end Polled

end TemplateCatalog
