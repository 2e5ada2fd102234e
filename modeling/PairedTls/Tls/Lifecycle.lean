namespace PairedTls

/-- A guard is counted before the test for shutdown, so that a shutdown that comes in between either sees the guard or
is seen by the test. -/
structure Lifecycle where
  cancelled : Bool
  closed : Bool
  /-- Counted, and not yet tested for shutdown. -/
  registering : Nat
  locks : Nat
  tasks : Nat
  deriving DecidableEq, Repr

namespace Lifecycle

def start : Lifecycle := ⟨false, false, 0, 0, 0⟩

def tracked (l : Lifecycle) : Nat :=
  l.registering + l.locks + l.tasks

def register (l : Lifecycle) : Lifecycle :=
  { l with registering := l.registering + 1 }

/-- Turns a registration into a guard, or gives it back once shutdown has begun. -/
def test (l : Lifecycle) : Bool × Lifecycle :=
  if l.cancelled then (false, { l with registering := l.registering - 1 })
  else (true, { l with registering := l.registering - 1, locks := l.locks + 1 })

theorem test_granted {l : Lifecycle} (h : l.cancelled = false) :
    l.test = (true, { l with registering := l.registering - 1, locks := l.locks + 1 }) := by
  rw [test, h, if_neg Bool.false_ne_true]

theorem test_refused {l : Lifecycle} (h : l.cancelled = true) :
    l.test = (false, { l with registering := l.registering - 1 }) := by
  rw [test, h, if_pos rfl]

theorem test_eq (l : Lifecycle) : l.test = (!l.cancelled, l.test.2) := by
  cases h : l.cancelled with
  | false => rw [test_granted h]; rfl
  | true => rw [test_refused h]; rfl

def continueLock (l : Lifecycle) : Bool × Lifecycle :=
  l.register.test

def release (l : Lifecycle) : Lifecycle :=
  { l with locks := l.locks - 1 }

def spawn (l : Lifecycle) : Lifecycle :=
  { l with tasks := l.tasks + 1 }

def finish (l : Lifecycle) : Lifecycle :=
  { l with tasks := l.tasks - 1 }

def cancel (l : Lifecycle) : Lifecycle :=
  { l with cancelled := true }

def close (l : Lifecycle) : Lifecycle :=
  { l with closed := true }

def shutdown (l : Lifecycle) : Lifecycle :=
  l.cancel.close

def waitEnds (l : Lifecycle) : Bool :=
  l.closed && l.tracked == 0

/-- The single steps that the users of one lifecycle can interleave. -/
inductive Step : Lifecycle → Lifecycle → Prop
  | register (l) : Step l l.register
  | test (l) (h : 0 < l.registering) : Step l l.test.2
  | release (l) (h : 0 < l.locks) : Step l l.release
  | spawn (l) (h : 0 < l.locks) : Step l l.spawn
  | finish (l) (h : 0 < l.tasks) : Step l l.finish
  | cancel (l) : Step l l.cancel
  | close (l) (h : l.cancelled = true) : Step l l.close

end Lifecycle
end PairedTls
