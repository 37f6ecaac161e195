import TemplateCatalog.Catalog.Version
import TemplateCatalog.Disk.Tree
import TemplateCatalog.Refresh.Poll
import TemplateCatalog.Refresh.Schedule

/-!
# Rehearsals

The schedule run against a disk in memory, a clock that moves only when it is told to,
and a source that does as it is told: it can be made to fail, and to hold each
synchronization until it is released. A rehearsal runs until everything in it waits
for something, so its course depends on nothing but what is done to it.
-/

namespace TemplateCatalog

/-- A source that does as it is told. -/
structure ScriptedSource where
  /-- Whether each synchronization waits for a release. -/
  held : Bool
  /-- Whether a directory counts as a mirror. -/
  present : Bool
  failEnsure : Bool
  failSynchronize : Bool
  ensureCalls : Nat
  synchronizeCalls : Nat
  /-- The releases that no synchronization has used. -/
  releases : Nat
  deriving DecidableEq, Repr

/-- A source that always succeeds. -/
def ScriptedSource.willing : ScriptedSource := ⟨false, true, false, false, 0, 0, 0⟩

/-- Who asks for a cycle in a rehearsal. -/
inductive Caller where
  | task (name : String)
  | poll
  deriving DecidableEq, Repr

/-- A rehearsal. -/
structure Rehearsal where
  volume : Volume
  root : Location
  mirror : Location
  remote : String
  source : ScriptedSource
  schedule : Schedule Caller
  /-- What came of the requests that have ended. -/
  answers : List (String × Answer)
  poll : Option Poll
  /-- The time between two ticks of a poll. -/
  interval : Nat
  /-- The clock, in milliseconds. -/
  now : Nat

namespace Rehearsal

/-- Whether the source has a mirror. -/
def hasMirror (r : Rehearsal) : Bool := r.source.present && r.volume.disk.isDirectory r.mirror

/-- The source begins a call for a cycle, which is counted. -/
def begin (r : Rehearsal) (caller : Caller) : Rehearsal :=
  let source := match SourceCall.ofPresence r.hasMirror with
    | .ensure => { r.source with ensureCalls := r.source.ensureCalls + 1 }
    | .synchronize => { r.source with synchronizeCalls := r.source.synchronizeCalls + 1 }
  { r with schedule := r.schedule.call caller r.hasMirror, source }

/-- The source makes the mirror. -/
def ensure (r : Rehearsal) : Rehearsal × Except Failure Unit :=
  if r.source.failEnsure then
    (r, .error (.ofError (.cloneFailed r.remote "scripted failure")))
  else
    match r.volume.ensureDirectories r.mirror with
    | .ok volume => ({ r with volume, source := { r.source with present := true } }, .ok ())
    | .error e => (r, .error (.ofCause (.disk e)))

/-- The source brings the mirror up to date, unless it is held. -/
def synchronize (r : Rehearsal) : Option (Rehearsal × Except Failure Unit) :=
  let result := if r.source.failSynchronize then
      .error (.ofError (.gitFailed "pull" "scripted failure"))
    else .ok ()
  if r.source.held then
    match r.source.releases with
    | 0 => none
    | n + 1 => some ({ r with source := { r.source with releases := n } }, result)
  else some (r, result)

/-- A request comes. One that is skipped is answered at once. -/
def request (r : Rehearsal) (caller : Caller) (q : Request) : Rehearsal :=
  let (schedule, admission) := r.schedule.request caller q
  let r := { r with schedule }
  match admission, caller with
  | .skipped, .task name => { r with answers := (name, .skipped) :: r.answers }
  | .skipped, .poll => { r with poll := r.poll.map Poll.idle }
  | _, _ => r

/-- The poll answers a tick that is due. -/
def tick (r : Rehearsal) : Rehearsal :=
  match r.poll with
  | some p =>
    if p.isDue r.now then { r with poll := some (p.answered r.now) }.request .poll .refresh else r
  | none => r

/-- A request has ended with an answer. A poll goes on to its next tick. -/
def ended (r : Rehearsal) (caller : Caller) : Option Answer → Rehearsal
  | none => r
  | some answer =>
    match caller with
    | .task name => { r with answers := (name, answer) :: r.answers }
    | .poll => { r with poll := r.poll.map Poll.idle }.tick

/-- One step of a cycle, or nothing if it waits. The disk does not change while the
    cycle walks over it. -/
def stepOf (r : Rehearsal) (c : Cycle Caller) : Rehearsal :=
  match c.phase with
  | .admitted => r.begin c.caller
  | .calling call =>
    let result := match call with
      | .ensure => some r.ensure
      | .synchronize => r.synchronize
    match result with
    | none => r
    | some (r, result) =>
      let (schedule, answer) := r.schedule.returned c.caller r.root result
      { r with schedule }.ended c.caller answer
  | .walking _ =>
    { r with schedule := (r.schedule.lookAll c.caller r.volume.disk).rebuilt c.caller (r.now * 1000) }
  | .published _ =>
    let (schedule, answer) := r.schedule.finish c.caller
    { r with schedule }.ended c.caller answer

/-- One step of the cycle in flight, or nothing if there is none. -/
def step (r : Rehearsal) : Rehearsal :=
  match r.schedule.cycles with
  | [] => r
  | c :: _ => r.stepOf c

/-- More steps than can be taken at one time: four for each cycle, namely the one in
    flight, those of the bootstraps that wait, and one that a poll may ask for. -/
def stepLimit (r : Rehearsal) : Nat := 4 * (r.schedule.gate.queue.length + 2)

/-- Runs until everything waits. -/
def settle (r : Rehearsal) : Rehearsal := Nat.repeat step r.stepLimit r

/-- Moves the clock to the tick of the poll, if it comes before `deadline`. -/
def toTick (deadline : Nat) (r : Rehearsal) : Rehearsal :=
  match r.poll with
  | some p =>
    if !p.busy && p.next ≤ deadline then { r with now := max r.now p.next }.tick.settle else r
  | none => r

/-- Moves the clock. -/
def advance (r : Rehearsal) (time : Nat) : Rehearsal :=
  let deadline := r.now + time
  -- No more ticks than this can come before the deadline.
  let ticks := time / (max 1 r.interval) + 1
  { Nat.repeat (toTick deadline) ticks r with now := deadline }

/-- A task asks for a cycle, and everything runs until it waits. -/
def ask (r : Rehearsal) (name : String) (q : Request) : Rehearsal :=
  ({ r with answers := r.answers.filter (·.1 ≠ name) }.request (.task name) q).settle

/-- What came of the request of a task, once it has ended. -/
def answer? (r : Rehearsal) (name : String) : Option Answer := r.answers.lookup name

/-- Lets one synchronization end. -/
def release (r : Rehearsal) : Rehearsal :=
  { r with source := { r.source with releases := r.source.releases + 1 } }.settle

/-- Starts a poll. -/
def startPoll (r : Rehearsal) : Rehearsal := { r with poll := some (.starting r.now r.interval) }

/-- Stops the poll; what it has in flight is abandoned. -/
def stopPoll (r : Rehearsal) : Rehearsal :=
  { r with poll := none, schedule := r.schedule.abandon .poll }.settle

/-- Publishes the templates on disk outside of any cycle. -/
def rebuild (r : Rehearsal) : Rehearsal × Report :=
  let (schedule, report) := r.schedule.publish (r.now * 1000) ((Survey.inquire r.root).run r.volume.disk)
  ({ r with schedule }, report)

/-- The detail of a version. -/
def version (r : Rehearsal) (template version : String) : Except Failure Version :=
  (r.schedule.published.version r.root template version).run r.volume.disk

end Rehearsal

end TemplateCatalog
