import TemplateCatalog.Proofs.Refresh.Turn

/-!
# Single flight

However the requests of any number of callers run into each other, their cycles go one
by one. A *course* is all that a cycle does from its admission to its end: it calls the
source once, and then walks over the templates and publishes, once, unless it is a
bootstrap that cannot make the mirror. What is seen of a run, the requests left out, is
one course after another and the beginning of the one in flight (`Orderly.courses`). So
no two walks overlap, and the calls of the source can be counted by what is published
(`single_flight`).
-/

namespace TemplateCatalog.Schedule

variable {ι : Type}

namespace Event

/-- Whether an event is the work of a cycle, and no request. -/
def isWork : Event ι → Bool
  | asked .. => false
  | _ => true

/-- The request that an event brings, unless it is skipped. -/
def taken? : Event ι → Option (ι × Request)
  | asked _ _ .skipped => none
  | asked caller r _ => some (caller, r)
  | _ => none

/-- The generation that an event publishes. -/
def generation? : Event ι → Option Nat
  | published _ g => some g
  | _ => none

/-- Whether an event begins a call of the source. -/
def isCall (call : SourceCall) : Event ι → Bool
  | called _ _ _ c => c = call
  | _ => false

/-- Whether a request fails in an event. -/
def isFailure : Event ι → Bool
  | returned _ _ (some (.failed _)) => true
  | _ => false

/-- Whether a request is completed in an event. -/
def isCompletion : Event ι → Bool
  | ended _ (some (.completed _)) => true
  | _ => false

end Event

/-! ## Courses -/

/-- A cycle that is over. -/
structure Course (ι : Type) where
  caller : ι
  request : Request
  /-- Whether there was a mirror. -/
  present : Bool
  /-- What the call of the source came to. -/
  result : Except Failure Unit
  /-- How many questions the walk asked, if there was one. -/
  questions : Nat
  /-- What was said of the rebuild, if there was one. -/
  report : Report

/-- The beginning of a course up to a question of its walk. -/
def walkBegun (caller : ι) (r : Request) (present : Bool) (result : Except Failure Unit)
    (questions : Nat) : List (Event ι) :=
  .called caller r present (.ofPresence present) :: .returned caller result none
    :: List.replicate questions (.looked caller)

/-- What is seen of a course: one call of the source and, unless it fails there, one
    walk, one publication and the end. -/
def Course.events (c : Course ι) : List (Event ι) :=
  match c.request.fatal? (.ofPresence c.present) c.result with
  | some f =>
    [.called c.caller c.request c.present (.ofPresence c.present),
      .returned c.caller c.result (some (.failed f))]
  | none =>
    walkBegun c.caller c.request c.present c.result c.questions
      ++ [.published c.caller c.report.generation, .ended c.caller (some (.completed c.report))]

/-- What is seen of the cycles in flight so far. -/
inductive Underway : List (Cycle ι) → List (Event ι) → Prop
  | nothing : Underway [] []
  | admitted (caller : ι) (r : Request) : Underway [⟨caller, r, .admitted⟩] []
  | calling (caller : ι) (r : Request) (present : Bool) :
    Underway [⟨caller, r, .calling (.ofPresence present)⟩]
      [.called caller r present (.ofPresence present)]
  | walking (caller : ι) {r : Request} {present : Bool} {result : Except Failure Unit}
    (walk : Inquiry Survey) (questions : Nat) :
    r.fatal? (.ofPresence present) result = none →
    Underway [⟨caller, r, .walking walk⟩] (walkBegun caller r present result questions)
  | published (caller : ι) {r : Request} {present : Bool} {result : Except Failure Unit}
    (questions : Nat) (report : Report) :
    r.fatal? (.ofPresence present) result = none →
    Underway [⟨caller, r, .published report⟩]
      (walkBegun caller r present result questions ++ [.published caller report.generation])

/-- The request of a cycle, with its caller. -/
def Cycle.asked (c : Cycle ι) : ι × Request := (c.caller, c.request)

/-- The request of a course, with its caller. -/
def Course.asked (c : Course ι) : ι × Request := (c.caller, c.request)

/-- The requests in the queue of the gate. -/
def waiting (s : Schedule ι) : List (ι × Request) := s.gate.queue.map (·, .bootstrap)

/-- The work that is seen of a run is one course after another, and then what the cycle
    in flight has done. The courses are those of the requests that were not skipped, in
    the order in which these came. -/
def HasCourses (log : List (Event ι)) (s : Schedule ι) (courses : List (Course ι))
    (tail : List (Event ι)) : Prop :=
  log.filter Event.isWork = courses.flatMap Course.events ++ tail ∧ Underway s.cycles tail ∧
    log.filterMap Event.taken? =
      courses.map Course.asked ++ s.cycles.map Cycle.asked ++ s.waiting

/-- What every run of the schedule keeps. -/
structure Orderly (log : List (Event ι)) (s : Schedule ι) : Prop where
  permit : s.OnePermit
  courses : ∃ courses tail, HasCourses log s courses tail
  generations : log.filterMap Event.generation? = List.range' 1 s.published.generation

/-! ## What a turn keeps -/

/-- When a cycle has ended, the one that is next has done nothing. -/
theorem underway_handedOver (queue : List ι) (p : Snapshot) (o : Nat) :
    Underway (handedOver queue p o).cycles [] := by
  cases queue with
  | nil => exact .nothing
  | cons next rest => exact .admitted next .bootstrap

/-- When a cycle has ended, those who waited are in flight or wait still. -/
theorem asked_handedOver (queue : List ι) (p : Snapshot) (o : Nat) :
    (handedOver queue p o).cycles.map Cycle.asked ++ (handedOver queue p o).waiting
      = queue.map (·, .bootstrap) := by
  cases queue <;> rfl

@[simp] theorem published_handedOver (queue : List ι) (p : Snapshot) (o : Nat) :
    (handedOver queue p o).published = p := by
  cases queue <;> rfl

variable {root : Location} {s s' : Schedule ι} {log : List (Event ι)} {e : Event ι}

/-- Work takes no request. -/
theorem taken_concat {log : List (Event ι)} {e : Event ι} (h : e.isWork = true) :
    (log ++ [e]).filterMap Event.taken? = log.filterMap Event.taken? := by
  rw [List.filterMap_append]
  cases e with
  | asked caller r a => cases h
  | _ => exact List.append_nil _

/-- A cycle that has ended is a course, and those who waited are in flight or wait
    still. -/
theorem asked_ended (courses : List (Course ι)) (c : Course ι) (phase : Phase) (queue : List ι)
    (p : Snapshot) (o : Nat) :
    courses.map Course.asked ++ (busy queue ⟨c.caller, c.request, phase⟩ p o).cycles.map Cycle.asked
        ++ (busy queue ⟨c.caller, c.request, phase⟩ p o).waiting
      = (courses ++ [c]).map Course.asked ++ (handedOver queue p o).cycles.map Cycle.asked
        ++ (handedOver queue p o).waiting := by
  rw [List.append_assoc _ _ (waiting (handedOver queue p o)), asked_handedOver]
  simp [busy, waiting, Cycle.asked, Course.asked]

/-- A turn goes on with the courses: it begins one, goes on with one, or ends one. -/
theorem HasCourses.turn {courses : List (Course ι)} {tail : List (Event ι)}
    (h : HasCourses log s courses tail) (ht : Turn root s e s') :
    ∃ courses' tail', HasCourses (log ++ [e]) s' courses' tail' := by
  obtain ⟨hwork, hunder, htaken⟩ := h
  cases ht with
  | letIn caller r p o =>
    refine ⟨courses, [], ?_, .admitted caller r, ?_⟩
    · cases hunder
      simpa [Event.isWork] using hwork
    · rw [List.filterMap_append, htaken]
      simp [Event.taken?, idle, busy, Cycle.asked, waiting, Gate.ofPermits]
  -- A request that is skipped or waits is no work, so the courses stay as they are.
  | skip caller queue c p o =>
    refine ⟨courses, tail, by simpa [Event.isWork] using hwork, hunder, ?_⟩
    rw [List.filterMap_append, ← htaken]
    exact List.append_nil _
  | wait caller queue c p o =>
    refine ⟨courses, tail, by simpa [Event.isWork] using hwork, hunder, ?_⟩
    rw [List.filterMap_append, htaken]
    simp [Event.taken?, busy, waiting]
  | call caller r present queue p o =>
    refine ⟨courses, _, ?_, .calling caller r present, (taken_concat rfl).trans htaken⟩
    cases hunder
    simp [Event.isWork, hwork]
  | @fail caller r call result f queue p o hf =>
    cases hunder with
    | calling _ _ present =>
      -- The course of a cycle without a walk: what it says of one does not count.
      let c : Course ι := ⟨caller, r, present, result, 0, ⟨0, 0, [], []⟩⟩
      refine ⟨courses ++ [c], [], ?_, underway_handedOver queue p o, ?_⟩
      · simp [Event.isWork, hwork, Course.events, c, hf]
      · exact (taken_concat rfl).trans (htaken.trans (asked_ended courses c _ queue p o))
  | @walk caller r call result queue p o hf =>
    cases hunder with
    | calling _ _ present =>
      refine ⟨courses, _, ?_, .walking caller _ 0 hf, (taken_concat rfl).trans htaken⟩
      simp [Event.isWork, hwork, walkBegun]
  | look caller r next d queue p o =>
    cases hunder with
    | walking _ _ questions hf =>
      refine ⟨courses, _, ?_, .walking caller _ (questions + 1) hf, (taken_concat rfl).trans htaken⟩
      simp [Event.isWork, hwork, walkBegun, List.replicate_succ']
  | publish caller r survey now queue p o =>
    cases hunder with
    | walking _ _ questions hf =>
      refine ⟨courses, _, ?_, .published caller questions _ hf, (taken_concat rfl).trans htaken⟩
      simp [Event.isWork, hwork, Survey.report]
  | finish caller r report queue p o =>
    cases hunder with
    | @published _ _ present result questions _ hf =>
      let c : Course ι := ⟨caller, r, present, result, questions, report⟩
      refine ⟨courses ++ [c], [], ?_, underway_handedOver queue p o, ?_⟩
      · simp [Event.isWork, hwork, Course.events, c, hf]
      · exact (taken_concat rfl).trans (htaken.trans (asked_ended courses c _ queue p o))

/-- A turn publishes the next generation or none. -/
theorem Turn.generations (h : Turn root s e s') :
    List.range' 1 s.published.generation ++ e.generation?.toList
      = List.range' 1 s'.published.generation := by
  cases h with
  | publish caller r survey now queue p o =>
    simp [Event.generation?, busy, Snapshot.next, List.range'_concat, Nat.add_comm]
  | _ => simp [Event.generation?, busy, idle]

/-- A turn keeps the order. -/
theorem Orderly.turn (h : Orderly log s) (ht : Turn root s e s') : Orderly (log ++ [e]) s' := by
  obtain ⟨-, ⟨courses, tail, hc⟩, hg⟩ := h
  refine ⟨ht.onePermit, hc.turn ht, ?_⟩
  rw [← ht.generations, ← hg, List.filterMap_append]
  cases e <;> rfl

/-- Every run is orderly. -/
theorem orderly_of_run [DecidableEq ι] (h : Run (Step root) .empty log s) : Orderly log s := by
  refine h.invariant ⟨idle_onePermit _ _, ⟨[], [], rfl, .nothing, rfl⟩, rfl⟩ fun hlog hs => ?_
  exact hlog.turn (hlog.permit.turn hs)

/-! ## Accounts -/

/-- As many calls of the source as publications and failures, and as many completed
    requests as publications. -/
def Balanced (log : List (Event ι)) : Prop :=
  log.countP (Event.isCall .ensure) + log.countP (Event.isCall .synchronize)
      = (log.filterMap Event.generation?).length + log.countP Event.isFailure ∧
    log.countP Event.isCompletion = (log.filterMap Event.generation?).length

theorem Balanced.append {l₁ l₂ : List (Event ι)} (h₁ : Balanced l₁) (h₂ : Balanced l₂) :
    Balanced (l₁ ++ l₂) := by
  obtain ⟨hcalls₁, hends₁⟩ := h₁
  obtain ⟨hcalls₂, hends₂⟩ := h₂
  constructor <;> simp only [List.countP_append, List.filterMap_append, List.length_append] <;> omega

/-- The questions of a walk do not count. -/
theorem Balanced.insert_looks {l₁ l₂ : List (Event ι)} (h : Balanced (l₁ ++ l₂)) (caller : ι)
    (n : Nat) : Balanced (l₁ ++ (List.replicate n (.looked caller) ++ l₂)) := by
  have hcount : ∀ p : Event ι → Bool, p (.looked caller) = false →
      (List.replicate n (Event.looked caller)).countP p = 0 := fun p hp => by
    simp [List.countP_replicate, hp]
  have hgen : (List.replicate n (Event.looked caller)).filterMap Event.generation? = [] :=
    List.filterMap_replicate_of_none rfl
  simp only [Balanced, List.countP_append, List.filterMap_append] at h ⊢
  rw [hcount _ rfl, hcount _ rfl, hcount _ rfl, hcount _ rfl, hgen]
  simpa using h

/-- The accounts of a course are balanced: its one call comes to a publication or to a
    failure. -/
theorem Course.balanced (c : Course ι) : Balanced c.events := by
  rw [Course.events]
  split
  · cases c.present <;> exact ⟨rfl, rfl⟩
  · have h : Balanced ([Event.called c.caller c.request c.present (.ofPresence c.present),
        .returned c.caller c.result none] ++ [.published c.caller c.report.generation,
        .ended c.caller (some (.completed c.report))]) := by
      cases c.present <;> exact ⟨rfl, rfl⟩
    exact h.insert_looks c.caller c.questions

theorem balanced_courses (courses : List (Course ι)) : Balanced (courses.flatMap Course.events) := by
  induction courses with
  | nil => exact ⟨rfl, rfl⟩
  | cons c courses ih =>
    rw [List.flatMap_cons]
    exact c.balanced.append ih

/-- Requests do not count. -/
theorem countP_work {p : Event ι → Bool} (hp : ∀ e, p e = true → e.isWork = true)
    (log : List (Event ι)) : (log.filter Event.isWork).countP p = log.countP p := by
  rw [List.countP_filter]
  refine List.countP_congr fun e _ => ?_
  simpa using hp e

/-- What is seen of every run, at each of its ends. -/
structure SingleFlight (log : List (Event ι)) (s : Schedule ι) : Prop where
  /-- The permit is free or held by the one cycle between admission and release. -/
  one : s.gate.free + s.cycles.length = 1
  /-- Cycles do their work one after the other, each with one call of the source. -/
  courses : ∃ courses tail, HasCourses log s courses tail
  /-- Each publication has the generation after the one before. -/
  generations : log.filterMap Event.generation? = List.range' 1 s.published.generation
  /-- The walk behind a generation begins after the generation before it is published,
      and from then on there is no work but the questions of this walk. -/
  walks : ∀ before after caller g, log = before ++ .published caller (g + 1) :: after →
    ∃ earlier result questions,
      before.filter Event.isWork = earlier ++ .returned caller result none
        :: List.replicate questions (.looked caller) ∧
      earlier.filterMap Event.generation? = List.range' 1 g
  /-- A request that is skipped changes nothing. -/
  skipped : ∀ caller r, (s.request caller r).2 = .skipped → (s.request caller r).1 = s
  /-- With no cycle in flight the gate is open, and the calls of the source are as many
      as the generations and the failed bootstraps. -/
  accounts : s.cycles = [] → s.gate = .ofPermits 1 ∧
    log.countP (Event.isCall .ensure) + log.countP (Event.isCall .synchronize)
      = s.published.generation + log.countP Event.isFailure ∧
    s.published.generation = log.countP Event.isCompletion

/-- The generations of a log are those of its work. -/
theorem generations_work (log : List (Event ι)) :
    (log.filter Event.isWork).filterMap Event.generation? = log.filterMap Event.generation? := by
  rw [List.filterMap_filter]
  congr 1
  funext e
  cases e <;> rfl

/-- The accounts of an orderly run with no cycle in flight are balanced. -/
theorem Orderly.balanced (h : Orderly log s) (hidle : s.cycles = []) : Balanced log := by
  obtain ⟨courses, tail, hwork, hunder, -⟩ := h.courses
  rw [hidle] at hunder
  cases hunder
  have hb := balanced_courses courses
  rw [← List.append_nil (courses.flatMap _), ← hwork] at hb
  rw [Balanced, generations_work, countP_work, countP_work, countP_work, countP_work] at hb
  · exact hb
  all_goals intro e; cases e <;> simp [Event.isWork, Event.isCall, Event.isFailure, Event.isCompletion]

/-- When a generation is published, its walk is all the work that there was since the
    generation before it, but for the call of the source. -/
theorem Orderly.walk_of_publish {caller : ι} {g : Nat} (h : Orderly log s)
    (ht : Turn root s (.published caller (g + 1)) s') :
    ∃ earlier result questions,
      log.filter Event.isWork = earlier ++ .returned caller result none
        :: List.replicate questions (.looked caller) ∧
      earlier.filterMap Event.generation? = List.range' 1 g := by
  obtain ⟨-, ⟨courses, tail, hwork, hunder, -⟩, hgen⟩ := h
  cases ht with
  | publish _ r survey now queue p o =>
    cases hunder with
    | @walking _ _ present result _ questions hf =>
      -- Before the walk there are whole courses and the call of this one, and no walk.
      refine ⟨courses.flatMap Course.events ++ [.called caller r present (.ofPresence present)],
        result, questions, by rw [hwork]; simp [walkBegun], ?_⟩
      rw [← generations_work, hwork] at hgen
      have hlooks : (List.replicate questions (Event.looked caller)).filterMap Event.generation?
          = [] := List.filterMap_replicate_of_none rfl
      simpa [walkBegun, List.filterMap_cons, Event.generation?, hlooks, busy] using hgen

/-- A request to a schedule that is skipped changes nothing. -/
theorem request_of_skipped {caller : ι} {r : Request}
    (h : (s.request caller r).2 = .skipped) : (s.request caller r).1 = s := by
  cases r with
  | bootstrap =>
    simp only [request] at h
    split at h <;> cases h
  | refresh =>
    simp only [request] at h ⊢
    split at h
    · cases h
    · rfl

variable [DecidableEq ι]

/-- However many callers ask for cycles, and however their steps mix, one cycle is in
    flight at a time: each calls the source once and then walks and publishes once,
    unless it is a bootstrap without a mirror; the others wait or are skipped, and the
    accounts are balanced whenever nothing is in flight. -/
theorem single_flight (h : Run (Step root) .empty log s) : SingleFlight log s := by
  have horder := orderly_of_run h
  refine ⟨horder.permit.count, horder.courses, horder.generations, ?_, fun _ _ => request_of_skipped,
    fun hidle => ?_⟩
  · intro before after caller g hlog
    obtain ⟨s₁, s₂, hrun, hstep⟩ := h.split hlog
    have hbefore := orderly_of_run hrun
    exact hbefore.walk_of_publish (hbefore.permit.turn hstep)
  · obtain ⟨hcalls, hends⟩ := horder.balanced hidle
    rw [horder.generations, List.length_range'] at hcalls hends
    refine ⟨?_, hcalls, hends.symm⟩
    rcases horder.permit.idle_or_busy with hs | ⟨queue, c, hs⟩
    · rw [hs]; rfl
    · rw [hs] at hidle; cases hidle

/-- Two bootstraps and a refresh at once: the first bootstrap cannot make the mirror, the
    refresh is skipped, and the second bootstrap publishes what it finds. -/
theorem single_flight_contended : ∃ log s, Run (Step ⟨[]⟩) (.empty : Schedule Nat) log s ∧
    s.published.generation = 1 ∧ log.countP Event.isFailure = 1 ∧ log.length = 10 ∧
    SingleFlight log s := by
  let disk : Disk := fun q => by
    cases q with
    | isDirectory _ => exact false
    | isPresent _ => exact false
    | names _ => exact .error .notFound
    | content _ => exact .error .notFound
  have hasked : Run (Step ⟨[]⟩) (.empty : Schedule Nat) _ _ :=
    ((Run.nil.step (.ask 0 .bootstrap)).step (.ask 1 .refresh)).step (.ask 2 .bootstrap)
  have hfailed := (hasked.step (.call 0 false rfl rfl)).step
    (.return 0 (.error (.ofError .gitMissing)) rfl)
  have hwalked := ((hfailed.step (.call 2 true rfl rfl)).step (.return 2 (.ok ()) rfl)).step
    (.look 2 disk rfl)
  have hended := (hwalked.step (.publish 2 7 rfl)).step (.finish 2 rfl)
  exact ⟨_, _, hended, rfl, rfl, rfl, single_flight hended⟩

end TemplateCatalog.Schedule
