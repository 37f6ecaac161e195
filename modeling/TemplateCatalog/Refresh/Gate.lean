/-!
# Gates

A gate lets in as many callers as it has permits. Who tries takes a permit if one is
free and goes away otherwise; who waits joins a queue. A permit that comes back goes to
the first in the queue, without being free in between.
-/

namespace TemplateCatalog

/-- A gate for callers `ι`. -/
structure Gate (ι : Type) where
  /-- The permits that nobody holds. -/
  free : Nat
  /-- Those who wait for a permit, the longest-waiting first. -/
  queue : List ι
  deriving DecidableEq, Repr

namespace Gate

variable {ι : Type}

/-- A gate with permits that nobody has asked for. -/
def ofPermits (n : Nat) : Gate ι := ⟨n, []⟩

/-- Takes a permit, if one is free. -/
def tryAcquire (g : Gate ι) : Option (Gate ι) :=
  match g.free with
  | 0 => none
  | n + 1 => some { g with free := n }

/-- Takes a permit, or joins the queue if none is free. Says whether a permit was taken. -/
def acquire (g : Gate ι) (caller : ι) : Gate ι × Bool :=
  match g.tryAcquire with
  | some g => (g, true)
  | none => ({ g with queue := g.queue ++ [caller] }, false)

/-- A permit comes back. Says who has it next, if anybody waits. -/
def release (g : Gate ι) : Gate ι × Option ι :=
  match g.queue with
  | [] => ({ g with free := g.free + 1 }, none)
  | caller :: rest => ({ g with queue := rest }, some caller)

/-- A caller no longer waits. -/
def leave [DecidableEq ι] (g : Gate ι) (caller : ι) : Gate ι :=
  { g with queue := g.queue.filter (· ≠ caller) }

end Gate

end TemplateCatalog
