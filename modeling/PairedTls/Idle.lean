import PairedTls.Duration

namespace PairedTls

/-- Nanoseconds on a steady clock. -/
structure Instant where
  nanos : Int
  deriving DecidableEq, Repr

namespace Instant

def representable (nanos : Int) : Bool :=
  let secs := nanos.fdiv 1000000000;
  decide (-(UInt64.size / 2) ≤ secs ∧ secs < UInt64.size / 2)

def add? (t : Instant) (d : Duration) : Option Instant :=
  let sum := t.nanos + d.totalNanos
  if representable sum then some ⟨sum⟩ else none

def farSeconds : Nat := 86400 * 365 * 30

/-- Sleeping for longer than the clock can tell means sleeping for about thirty years. -/
def addOrFar (t : Instant) (d : Duration) : Instant :=
  (t.add? d).getD ⟨t.nanos + farSeconds * Duration.nanosPerSecond⟩

end Instant

/-- A connection is idle once no request is in flight and a timeout has passed since one last began or ended. -/
structure IdleTracker where
  inFlight : Nat
  last : Instant
  deriving DecidableEq, Repr

namespace IdleTracker

def start (now : Instant) : IdleTracker :=
  ⟨0, now⟩

def begin (t : IdleTracker) (now : Instant) : IdleTracker :=
  ⟨t.inFlight + 1, now⟩

def finish (t : IdleTracker) (now : Instant) : IdleTracker :=
  ⟨t.inFlight - 1, now⟩

inductive Deadline where
  | inFlight
  | at (time : Instant)
  | overflow
  deriving DecidableEq, Repr

def deadline (t : IdleTracker) (timeout : Duration) : Deadline :=
  if t.inFlight = 0 then
    match t.last.add? timeout with
    | some time => .at time
    | none => .overflow
  else .inFlight

inductive Poll where
  | idle
  | sleepUntil (time : Instant)
  | overflow
  deriving DecidableEq, Repr

def poll (t : IdleTracker) (timeout : Duration) (now : Instant) : Poll :=
  match t.deadline timeout with
  | .inFlight => .sleepUntil (now.addOrFar timeout)
  | .at time => if time.nanos ≤ now.nanos then .idle else .sleepUntil time
  | .overflow => .overflow

inductive Activity where
  | began
  | ended
  deriving DecidableEq, Repr

def apply (t : IdleTracker) (now : Instant) : Activity → IdleTracker
  | .began => t.begin now
  | .ended => t.finish now

/-- Everything that a schedule, in order of time, has for the time before `now`. -/
def catchUp (t : IdleTracker) (now : Instant) :
    List (Instant × Activity) → IdleTracker × List (Instant × Activity)
  | [] => (t, [])
  | (time, activity) :: rest =>
    if time.nanos < now.nanos then (t.apply time activity).catchUp now rest else (t, (time, activity) :: rest)

inductive Wait where
  | idleAt (time : Instant) (tracker : IdleTracker)
  | overflow
  | unfinished
  deriving DecidableEq, Repr

/-- Waits for idleness while a schedule runs, looking at the tracker at most `fuel` times. -/
def wait (timeout : Duration) : Nat → IdleTracker → Instant → List (Instant × Activity) → Wait
  | 0, _, _, _ => .unfinished
  | fuel + 1, t, now, schedule =>
    match t.poll timeout now with
    | .idle => .idleAt now t
    | .overflow => .overflow
    | .sleepUntil time =>
      let (t, later) := t.catchUp time schedule
      wait timeout fuel t time later

/-- Each sleep either takes the whole timeout or lets something of the schedule happen. -/
def looks (timeout limit : Duration) (events : Nat) : Nat :=
  limit.totalNanos / max 1 timeout.totalNanos + events + 2

/-- Waits for idleness, but no longer than `limit`. Yields when the wait ended and whether by idleness. -/
def waitWithin (timeout limit : Duration) (t : IdleTracker) (now : Instant)
    (schedule : List (Instant × Activity)) : Bool × Instant × IdleTracker :=
  let stop := now.addOrFar limit
  let busy := (false, stop, (t.catchUp stop schedule).1)
  match wait timeout (looks timeout limit schedule.length) t now schedule with
  | .idleAt time t => if time.nanos ≤ stop.nanos then (true, time, t) else busy
  | _ => busy

end IdleTracker
end PairedTls
