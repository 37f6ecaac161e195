/-!
# Polling

A poll asks for a refresh at the multiples of an interval after its start. It answers
one tick at a time: while a refresh that it asked for is in flight it does nothing. If
a tick fell due meanwhile, the poll answers it as soon as the refresh has ended; any
others that were missed are dropped, and it goes on with the first multiple after that.
-/

namespace TemplateCatalog

/-- A poll. -/
structure Poll where
  start : Nat
  /-- The time between two ticks. -/
  interval : Nat
  /-- The tick that is answered next. -/
  next : Nat
  /-- Whether a refresh that was asked for is in flight. -/
  busy : Bool
  deriving DecidableEq, Repr

namespace Poll

/-- A poll that starts now. Its first tick is one interval later. -/
def starting (now interval : Nat) : Poll := ⟨now, interval, now + interval, false⟩

/-- Whether a tick is due that can be answered. -/
def isDue (p : Poll) (now : Nat) : Bool := !p.busy && p.next ≤ now

/-- The poll after it answered a tick: the next one is the first multiple of the
    interval after the present. -/
def answered (p : Poll) (now : Nat) : Poll :=
  { p with next := now + p.interval - (now - p.next) % p.interval, busy := true }

/-- The poll after the refresh that it asked for has ended. -/
def idle (p : Poll) : Poll := { p with busy := false }

end Poll

end TemplateCatalog
