import TemplateCatalog.Catalog.Snapshot
import TemplateCatalog.Failure
import TemplateCatalog.Refresh.Gate
import TemplateCatalog.Refresh.Source

/-!
# The schedule of cycles

A *cycle* calls the source once and then rebuilds the catalog from what is on disk. A
cycle holds the one permit of a gate from its admission to its end. A refresh only
tries the gate: if the permit is taken, it is skipped. A bootstrap waits in the queue of
the gate, and when a cycle ends the permit goes to the bootstrap that has waited
longest.

A call of the source that fails does not end a cycle, since there may still be
something to show. Only a bootstrap that cannot make the mirror fails, without having
rebuilt anything.

A cycle goes through phases: it is admitted, it calls its source, it walks over the
templates, it publishes what it found, and it ends. Each function below takes the
schedule through one event: a request, the beginning of a call, its end, an answer of
the disk to the walk, the publication, the end. Others may act between any two events,
and the disk may change. A caller may also go away. Then its place in the queue or its
permit is free at once; a walk that has begun goes on without it.
-/

namespace TemplateCatalog

/-- What is asked of the schedule. -/
inductive Request where
  /-- The first cycle, which waits for its turn and needs a mirror. -/
  | bootstrap
  | refresh
  deriving DecidableEq, Repr

namespace Request

/-- The failure of a request whose call of the source came to `result`, if that is
    fatal to it. -/
def fatal? (r : Request) (call : SourceCall) (result : Except Failure Unit) : Option Failure :=
  match r, call, result with
  | bootstrap, .ensure, .error f => some f
  | _, _, _ => none

/-- What is noted when a request is admitted. -/
def notesBefore (r : Request) (remote : String) (mirror : Location) (present : Bool) :
    List Log.Note :=
  match r, present with
  | bootstrap, true => [⟨.info, "refresh", "Catalog mirror found at " ++ mirror.display⟩]
  | bootstrap, false =>
    [⟨.info, "refresh", "No catalog mirror at " ++ mirror.display ++ ", cloning " ++ remote⟩]
  | refresh, _ => [⟨.debug, "refresh", "Refreshing catalog"⟩]

/-- What is noted of a failed call that is not fatal. -/
def notesAfter (mirror : Location) (call : SourceCall) (result : Except Failure Unit) :
    List Log.Note :=
  match call, result with
  | _, .ok _ => []
  | .synchronize, .error f =>
    [⟨.error, "refresh", "Failed to sync the catalog, serving the existing tree: " ++ f.text⟩]
  | .ensure, .error f =>
    [⟨.error, "refresh", "Catalog mirror at " ++ mirror.display
      ++ " is gone and could not be cloned again: " ++ f.text⟩]

end Request

/-- What comes of a request. -/
inductive Answer where
  | completed (r : Report)
  /-- Another cycle was in flight. -/
  | skipped
  | failed (f : Failure)

/-- How far a cycle is. -/
inductive Phase where
  /-- It holds a permit and has done nothing yet. -/
  | admitted
  | calling (call : SourceCall)
  /-- It walks over the templates, with this left of the walk. -/
  | walking (walk : Inquiry Survey)
  /-- It has published what it found, and holds its permit still. -/
  | published (r : Report)

/-- A cycle in flight. -/
structure Cycle (ι : Type) where
  caller : ι
  request : Request
  phase : Phase

/-- What becomes of a request at once. -/
inductive Admission where
  | admitted
  | waits
  | skipped
  deriving DecidableEq, Repr

/-- The schedule of the cycles that callers `ι` ask for, and what they publish. -/
structure Schedule (ι : Type) where
  gate : Gate ι
  /-- The cycles in flight. Each holds a permit of the gate. -/
  cycles : List (Cycle ι)
  published : Snapshot
  /-- How many walks go on whose callers have gone. -/
  orphans : Nat

namespace Schedule

variable {ι : Type}

/-- Nothing asked for and nothing published. The gate has one permit. -/
def empty : Schedule ι := ⟨.ofPermits 1, [], .empty, 0⟩

/-- A caller that has got a permit is let in. -/
def letIn (s : Schedule ι) (caller : ι) (r : Request) : Schedule ι :=
  { s with cycles := s.cycles ++ [⟨caller, r, .admitted⟩] }

/-- A request comes. -/
def request (s : Schedule ι) (caller : ι) : Request → Schedule ι × Admission
  | .bootstrap =>
    match s.gate.acquire caller with
    | (gate, true) => ({ s with gate }.letIn caller .bootstrap, .admitted)
    | (gate, false) => ({ s with gate }, .waits)
  | .refresh =>
    match s.gate.tryAcquire with
    | some gate => ({ s with gate }.letIn caller .refresh, .admitted)
    | none => (s, .skipped)

/-- A survey is published. -/
def publish (s : Schedule ι) (now : Nat) (survey : Survey) : Schedule ι × Report :=
  let next := s.published.next now survey
  ({ s with published := next }, survey.report next.generation)

/-- A walk whose caller has gone comes to a survey. -/
def orphanRebuilt (s : Schedule ι) (now : Nat) (survey : Survey) : Schedule ι :=
  match s.orphans with
  | 0 => s
  | n + 1 => { (s.publish now survey).1 with orphans := n }

variable [DecidableEq ι]

/-- The cycle of a caller. -/
def cycle? (s : Schedule ι) (caller : ι) : Option (Cycle ι) := s.cycles.find? (·.caller = caller)

/-- The cycle of a caller comes to a phase. -/
def enter (s : Schedule ι) (caller : ι) (p : Phase) : Schedule ι :=
  { s with cycles := s.cycles.map fun c => if c.caller = caller then { c with phase := p } else c }

/-- The cycle of a caller is over and its permit comes back. -/
def release (s : Schedule ι) (caller : ι) : Schedule ι :=
  let cycles := s.cycles.filter (·.caller ≠ caller)
  match s.gate.release with
  | (gate, none) => { s with gate, cycles }
  -- Only bootstraps wait.
  | (gate, some next) => { s with gate, cycles }.letIn next .bootstrap

/-- A cycle that has been admitted calls the source. -/
def call (s : Schedule ι) (caller : ι) (present : Bool) : Schedule ι :=
  match s.cycle? caller with
  | some ⟨_, _, .admitted⟩ => s.enter caller (.calling (.ofPresence present))
  | _ => s

/-- The call of the source comes to `result`. Unless that is fatal, a walk over the
    root begins. -/
def returned (s : Schedule ι) (caller : ι) (root : Location) (result : Except Failure Unit) :
    Schedule ι × Option Answer :=
  match s.cycle? caller with
  | some ⟨_, r, .calling call⟩ =>
    match r.fatal? call result with
    | some f => (s.release caller, some (.failed f))
    | none => (s.enter caller (.walking (Survey.inquire root)), none)
  | _ => (s, none)

/-- The disk answers one question of a walk. -/
def look (s : Schedule ι) (caller : ι) (d : Disk) : Schedule ι :=
  match s.cycle? caller with
  | some ⟨_, _, .walking walk⟩ => s.enter caller (.walking (walk.advance d))
  | _ => s

/-- A disk that nobody changes answers all questions of a walk. -/
def lookAll (s : Schedule ι) (caller : ι) (d : Disk) : Schedule ι :=
  match s.cycle? caller with
  | some ⟨_, _, .walking walk⟩ => s.enter caller (.walking (.done (walk.run d)))
  | _ => s

/-- A walk is over, and what it came to is published. -/
def rebuilt (s : Schedule ι) (caller : ι) (now : Nat) : Schedule ι :=
  match s.cycle? caller with
  | some ⟨_, _, .walking (.done survey)⟩ =>
    let (s, report) := s.publish now survey
    s.enter caller (.published report)
  | _ => s

/-- A cycle that has published ends. -/
def finish (s : Schedule ι) (caller : ι) : Schedule ι × Option Answer :=
  match s.cycle? caller with
  | some ⟨_, _, .published report⟩ => (s.release caller, some (.completed report))
  | _ => (s, none)

/-- A caller goes away. -/
def abandon (s : Schedule ι) (caller : ι) : Schedule ι :=
  let s := { s with gate := s.gate.leave caller }
  match s.cycle? caller with
  -- Nobody waits for the end of this walk, but it will still publish.
  | some ⟨_, _, .walking _⟩ => { s.release caller with orphans := s.orphans + 1 }
  | some _ => s.release caller
  | none => s

end Schedule

end TemplateCatalog
