import PairedTls.Proofs.IdleRange
import PairedTls.Tls.Task

namespace PairedTls.ConnectionTask

/-- From stage to stage: the state that the connection is to enter, the lifecycle after the step, and what is
reported. -/
inductive Step (timeout : Duration) (l : Lifecycle) :
    Stage → Move → Stage → Option ConnectionState → Lifecycle → Option ConnectionError → Prop
  | start : Step timeout l .spawned .start .handshaking (some .handshaking) l none
  | abandon (h : l.cancelled = true) : Step timeout l .handshaking .abandon (.ending true) (some .closed) l none
  | decide (outcome : HandshakeOutcome) : Step timeout l .handshaking (.decide outcome) (.decided outcome) none l none
  | release (outcome : HandshakeOutcome) : Step timeout l (.decided outcome) .release (.unguarded outcome) none l.release none
  | register (outcome : HandshakeOutcome) :
      Step timeout l (.unguarded outcome) .register (.registered outcome) none l.register none
  | grant (outcome : HandshakeOutcome) (h : l.cancelled = false) :
      Step timeout l (.registered outcome) .test (.admitted outcome) none l.test.2 none
  | refuse (outcome : HandshakeOutcome) (h : l.cancelled = true) :
      Step timeout l (.registered outcome) .test (.ending false) (some .closed) l.test.2 none
  | establish (peer : PeerCertificate) :
      Step timeout l (.admitted (.session peer)) .settle (.established peer) (some .established) l none
  | fail (fault : HandshakeFault) :
      Step timeout l (.admitted (.failed fault)) .settle (.failed (.ofHandshake fault)) (some .handshakeFailed) l none
  | expire : Step timeout l (.admitted .timedOut) .settle (.failed .timeout) (some .handshakeFailed) l none
  | report (error : ConnectionError) : Step timeout l (.failed error) .report (.ending true) (some .closed) l (some error)
  | read (peer : PeerCertificate) (now : Instant) :
      Step timeout l (.established peer) (.read now) (.serving peer (.start now) now) (some .reading) l none
  | act (peer : PeerCertificate) (tracker : IdleTracker) (wake now : Instant) (activity : IdleTracker.Activity) :
      Step timeout l (.serving peer tracker wake) (.act now activity) (.serving peer (tracker.apply now activity) wake)
        none l none
  | sleep (peer : PeerCertificate) (tracker : IdleTracker) (wake now time : Instant)
      (h : tracker.poll timeout now = .sleepUntil time) :
      Step timeout l (.serving peer tracker wake) (.look now) (.serving peer tracker time) none l none
  | retire (peer : PeerCertificate) (tracker : IdleTracker) (wake now : Instant)
      (h : tracker.poll timeout now = .idle) :
      Step timeout l (.serving peer tracker wake) (.look now) (.retiring peer) none l none
  | overflow (peer : PeerCertificate) (tracker : IdleTracker) (wake now : Instant)
      (h : tracker.deadline timeout = .overflow) :
      Step timeout l (.serving peer tracker wake) (.look now) .unwinding none l none
  | drain (peer : PeerCertificate) (tracker : IdleTracker) (wake : Instant) (h : l.cancelled = true) :
      Step timeout l (.serving peer tracker wake) .drain (.draining peer) none l none
  | serve (peer : PeerCertificate) (tracker : IdleTracker) (wake : Instant) (outcome : ServingOutcome)
      (h : outcome ≠ .dropped) :
      Step timeout l (.serving peer tracker wake) (.serve outcome) (.ending true) (some .closed) l outcome.error?
  | finish (peer : PeerCertificate) (outcome : ServingOutcome) (h : outcome ≠ .dropped) :
      Step timeout l (.draining peer) (.serve outcome) (.ending true) (some .closed) l outcome.error?
  | close (peer : PeerCertificate) (outcome : ServingOutcome) :
      Step timeout l (.retiring peer) (.serve outcome) (.ending true) (some .closed) l none
  | leave (guarded : Bool) :
      Step timeout l (.ending guarded) .leave .done none (if guarded then l.release else l).finish none
  | vanish : Step timeout l .unwinding .leave .lost none l.release.finish none

def advanceTo (t : ConnectionTask) : Option ConnectionState → ConnectionTask
  | none => t
  | some next => t.advance next

variable {timeout : Duration} {l l' : Lifecycle} {t t' : ConnectionTask} {stage stage' : Stage} {m : Move}
  {next : Option ConnectionState} {r : Option ConnectionError}

theorem step?_cases (h : t.step? l m = some (t', l', r)) :
    ∃ next, Step t.requestTimeout l t.stage m t'.stage next l' r ∧ t' = (t.advanceTo next).enter t'.stage := by
  obtain ⟨c, timeout, stage, violations⟩ := t
  -- Each move belongs to a few stages; at all others it is refused.
  cases m with
  | start =>
      cases stage with
      | spawned => cases h; exact ⟨_, .start, rfl⟩
      | _ => cases h
  | abandon =>
      cases stage with
      | handshaking =>
          simp only [step?] at h
          split at h
          · next hcancelled => cases h; exact ⟨_, .abandon hcancelled, rfl⟩
          · cases h
      | _ => cases h
  | decide outcome =>
      cases stage with
      | handshaking => cases h; exact ⟨_, .decide outcome, rfl⟩
      | _ => cases h
  | release =>
      cases stage with
      | decided outcome => cases h; exact ⟨_, .release outcome, rfl⟩
      | _ => cases h
  | register =>
      cases stage with
      | unguarded outcome => cases h; exact ⟨_, .register outcome, rfl⟩
      | _ => cases h
  | test =>
      cases stage with
      | registered outcome =>
          simp only [step?] at h
          rw [Lifecycle.test_eq] at h
          cases hcancelled : l.cancelled with
          | false =>
              simp only [hcancelled, Bool.not_false] at h
              cases h
              exact ⟨_, .grant outcome hcancelled, rfl⟩
          | true =>
              simp only [hcancelled, Bool.not_true] at h
              cases h
              exact ⟨_, .refuse outcome hcancelled, rfl⟩
      | _ => cases h
  | settle =>
      cases stage with
      | admitted outcome =>
          cases outcome with
          | session peer => cases h; exact ⟨_, .establish peer, rfl⟩
          | failed fault => cases h; exact ⟨_, .fail fault, rfl⟩
          | timedOut => cases h; exact ⟨_, .expire, rfl⟩
      | _ => cases h
  | report =>
      cases stage with
      | failed error => cases h; exact ⟨_, .report error, rfl⟩
      | _ => cases h
  | read now =>
      cases stage with
      | established peer => cases h; exact ⟨_, .read peer now, rfl⟩
      | _ => cases h
  | act now activity =>
      cases stage with
      | serving peer tracker wake => cases h; exact ⟨_, .act peer tracker wake now activity, rfl⟩
      | _ => cases h
  | look now =>
      cases stage with
      | serving peer tracker wake =>
          simp only [step?] at h
          split_ifs at h
          cases hpoll : tracker.poll timeout now with
          | idle =>
              simp only [hpoll] at h
              cases h
              exact ⟨_, .retire peer tracker wake now hpoll, rfl⟩
          | sleepUntil time =>
              simp only [hpoll] at h
              cases h
              exact ⟨_, .sleep peer tracker wake now time hpoll, rfl⟩
          | overflow =>
              simp only [hpoll] at h
              cases h
              exact ⟨_, .overflow peer tracker wake now (IdleTracker.poll_eq_overflow.1 hpoll), rfl⟩
      | _ => cases h
  | drain =>
      cases stage with
      | serving peer tracker wake =>
          simp only [step?] at h
          split at h
          · next hcancelled => cases h; exact ⟨_, .drain peer tracker wake hcancelled, rfl⟩
          · cases h
      | _ => cases h
  | serve outcome =>
      cases stage with
      | serving peer tracker wake =>
          simp only [step?] at h
          split at h
          · cases h
          · next hdropped => cases h; exact ⟨_, .serve peer tracker wake outcome hdropped, rfl⟩
      | draining peer =>
          simp only [step?] at h
          split at h
          · cases h
          · next hdropped => cases h; exact ⟨_, .finish peer outcome hdropped, rfl⟩
      | retiring peer => cases h; exact ⟨_, .close peer outcome, rfl⟩
      | _ => cases h
  | leave =>
      cases stage with
      | ending guarded => cases h; exact ⟨_, .leave guarded, rfl⟩
      | unwinding => cases h; exact ⟨_, .vanish, rfl⟩
      | _ => cases h

def Stage.state : Stage → ConnectionState
  | .spawned => .accepted
  | .handshaking | .decided _ | .unguarded _ | .registered _ | .admitted _ => .handshaking
  | .failed _ => .handshakeFailed
  | .established _ => .established
  | .serving .. | .draining _ | .retiring _ | .unwinding | .lost => .reading
  | .ending _ | .done => .closed

structure Orderly (t : ConnectionTask) : Prop where
  state : t.connection.state = t.stage.state
  violations : t.violations = []

theorem orderly_spawned (info : ConnectionInfo) (timeout : Duration) : (spawned info timeout).Orderly :=
  ⟨rfl, rfl⟩

theorem orderly_advance {next : ConnectionState} (h : t.Orderly)
    (hallowed : t.stage.state.canAdvance next = true) (hstate : stage.state = next) :
    ((t.advance next).enter stage).Orderly := by
  have hok : t.connection.advance next = .ok { t.connection with state := next } := by
    rw [Connection.advance, h.state, if_pos hallowed]
  simp only [advance, hok]
  exact ⟨hstate.symm, h.violations⟩

theorem orderly_step (h : t.Orderly) (hstep : t.step? l m = some (t', l', r)) : t'.Orderly := by
  obtain ⟨next, hstep, ht'⟩ := step?_cases hstep
  obtain ⟨connection, timeout, stage, violations⟩ := t
  rw [ht']
  generalize t'.stage = stage' at hstep
  cases hstep with
  | start | abandon _ | refuse _ _ | establish _ | fail _ | expire | report _ | read _ _ | serve _ _ _ _ _
  | finish _ _ _ | close _ _ =>
      exact orderly_advance h rfl rfl
  | decide _ | release _ | register _ | grant _ _ | act _ _ _ _ _ | sleep _ _ _ _ _ _ | retire _ _ _ _ _
  | overflow _ _ _ _ _ | drain _ _ _ _ | leave _ | vanish =>
      exact ⟨h.state, h.violations⟩

theorem info_advance (t : ConnectionTask) (next : ConnectionState) :
    (t.advance next).connection.info = t.connection.info := by
  rw [advance, Connection.advance]
  split
  · next c hc =>
      split at hc
      · cases hc; rfl
      · cases hc
  · rfl

theorem requestTimeout_step (hstep : t.step? l m = some (t', l', r)) : t'.requestTimeout = t.requestTimeout := by
  obtain ⟨next, _, ht'⟩ := step?_cases hstep
  rw [ht']
  cases next with
  | none => rfl
  | some next =>
      simp only [advanceTo, advance]
      cases t.connection.advance next <;> rfl

theorem info_step (hstep : t.step? l m = some (t', l', r)) : t'.connection.info = t.connection.info := by
  obtain ⟨next, _, ht'⟩ := step?_cases hstep
  rw [ht']
  cases next with
  | none => rfl
  | some next => exact info_advance t next

def Stage.registering : Stage → Bool
  | .registered _ => true
  | _ => false

def Stage.running : Stage → Bool
  | .done | .lost => false
  | _ => true

theorem Stage.not_running (h : stage.running = false) : stage = .done ∨ stage = .lost := by
  cases stage <;> first | exact .inl rfl | exact .inr rfl | cases h

/-- The second guard, under which outcomes are acted on. -/
def Stage.locked : Stage → Bool
  | .admitted _ | .failed _ | .established _ | .serving .. | .draining _ | .retiring _ | .unwinding => true
  | _ => false

theorem Stage.guarded_of_locked {s : Stage} (h : s.locked = true) : s.guarded = true := by
  cases s <;> first | rfl | cases h

theorem Step.cancelled (h : Step timeout l stage m stage' next l' r) : l'.cancelled = l.cancelled := by
  cases h with
  | grant outcome hcancelled => rw [Lifecycle.test_granted hcancelled]
  | refuse outcome hcancelled => rw [Lifecycle.test_refused hcancelled]
  | leave guarded => cases guarded <;> rfl
  | _ => rfl

theorem Step.counts (h : Step timeout l stage m stage' next l' r)
    (hlocks : stage.guarded.toNat ≤ l.locks) (hregistering : stage.registering.toNat ≤ l.registering)
    (htasks : stage.running.toNat ≤ l.tasks) :
    l'.locks + stage.guarded.toNat = l.locks + stage'.guarded.toNat ∧
      l'.registering + stage.registering.toNat = l.registering + stage'.registering.toNat ∧
        l'.tasks + stage.running.toNat = l.tasks + stage'.running.toNat := by
  cases h with
  | start | abandon _ | decide _ | establish _ | fail _ | expire | report _ | read _ _ | act _ _ _ _ _
  | sleep _ _ _ _ _ _ | retire _ _ _ _ _ | overflow _ _ _ _ _ | drain _ _ _ _ | serve _ _ _ _ _ | finish _ _ _
  | close _ _ =>
      exact ⟨rfl, rfl, rfl⟩
  | release outcome => exact ⟨Nat.sub_add_cancel hlocks, rfl, rfl⟩
  | register outcome => exact ⟨rfl, rfl, rfl⟩
  | grant outcome hcancelled =>
      rw [Lifecycle.test_granted hcancelled]
      exact ⟨rfl, Nat.sub_add_cancel hregistering, rfl⟩
  | refuse outcome hcancelled =>
      rw [Lifecycle.test_refused hcancelled]
      exact ⟨rfl, Nat.sub_add_cancel hregistering, rfl⟩
  | leave guarded =>
      cases guarded with
      | false => exact ⟨rfl, rfl, Nat.sub_add_cancel htasks⟩
      | true => exact ⟨Nat.sub_add_cancel hlocks, rfl, Nat.sub_add_cancel htasks⟩
  | vanish => exact ⟨Nat.sub_add_cancel hlocks, rfl, Nat.sub_add_cancel htasks⟩

/-- Only a task with the second guard reports, and it is on its way out then. -/
theorem Step.reported {e : ConnectionError} (h : Step timeout l stage m stage' next l' (some e)) :
    stage.locked = true ∧ stage' = .ending true := by
  generalize hr : some e = r at h
  cases h with
  | report _ | serve _ _ _ _ _ | finish _ _ _ => exact ⟨rfl, rfl⟩
  | _ => cases hr

/-- The second guard comes from a test before shutdown. -/
theorem Step.locked (h : Step timeout l stage m stage' next l' r) (hlocked : stage'.locked = true) :
    stage.locked = true ∨ m = .test ∧ l.cancelled = false := by
  cases h with
  | grant outcome hcancelled => exact .inr ⟨rfl, hcancelled⟩
  | establish _ | fail _ | expire | read _ _ | act _ _ _ _ _ | sleep _ _ _ _ _ _ | retire _ _ _ _ _
  | overflow _ _ _ _ _ | drain _ _ _ _ =>
      exact .inl rfl
  | _ => cases hlocked

theorem Step.running (h : Step timeout l stage m stage' next l' r) : stage.running = true := by
  cases h <;> rfl

/-- Where a move has the activity of a connection start or change, the clock can tell when the timeout will have passed
from then on. -/
def Move.InRange (timeout : Duration) : Move → Prop
  | .read now | .act now _ => now.add? timeout ≠ none
  | _ => True

/-- A deadline can be computed, so the task is not cut off. -/
def Stage.Timely (timeout : Duration) : Stage → Prop
  | .serving _ tracker _ => tracker.last.add? timeout ≠ none
  | .unwinding | .lost => False
  | _ => True

theorem Step.timely (h : Step timeout l stage m stage' next l' r) (hrange : m.InRange timeout)
    (htimely : stage.Timely timeout) : stage'.Timely timeout := by
  cases h with
  | read _ _ => exact hrange
  | act _ tracker _ now activity => cases activity <;> exact hrange
  | sleep _ _ _ _ _ _ => exact htimely
  | overflow _ _ _ _ hdeadline => exact absurd (IdleTracker.deadline_eq_overflow.1 hdeadline).2 htimely
  | vanish => exact htimely
  | start | abandon _ | decide _ | release _ | register _ | grant _ _ | refuse _ _ | establish _ | fail _ | expire
  | report _ | retire _ _ _ _ _ | drain _ _ _ _ | serve _ _ _ _ _ | finish _ _ _ | close _ _ | leave _ =>
      trivial

def Stage.cutOff : Stage → Bool
  | .unwinding | .lost => true
  | _ => false

/-- A look for idleness with no request in flight and a deadline that the clock cannot tell. -/
def Overflows (t : ConnectionTask) : Move → Prop
  | .look _ =>
    ∃ peer tracker wake, t.stage = .serving peer tracker wake ∧ tracker.inFlight = 0 ∧
      tracker.last.add? t.requestTimeout = none
  | _ => False

theorem cutOff_step (hstep : t.step? l m = some (t', l', r)) :
    t'.stage.cutOff = true ↔ t.stage.cutOff = true ∨ t.Overflows m := by
  obtain ⟨next, hstep, _⟩ := step?_cases hstep
  obtain ⟨connection, timeout, stage, violations⟩ := t
  generalize t'.stage = stage' at hstep ⊢
  cases hstep with
  | overflow peer tracker wake now hdeadline =>
      exact ⟨fun _ => .inr ⟨peer, tracker, wake, rfl, IdleTracker.deadline_eq_overflow.1 hdeadline⟩, fun _ => rfl⟩
  | sleep peer tracker wake now _ hpoll | retire peer tracker wake now hpoll =>
      have hnot : tracker.deadline timeout ≠ .overflow := by
        intro hdeadline
        cases hpoll.symm.trans (IdleTracker.poll_eq_overflow.2 hdeadline)
      refine ⟨nofun, ?_⟩
      rintro (h | ⟨_, _, _, hstage, hover⟩)
      · cases h
      · cases hstage
        exact absurd (IdleTracker.deadline_eq_overflow.2 hover) hnot
  | vanish => exact ⟨fun _ => .inl rfl, fun _ => rfl⟩
  | _ => exact ⟨nofun, by rintro (h | h) <;> cases h⟩

def Stage.past : Stage → Bool
  | .ending _ | .done | .lost => true
  | _ => false

theorem Step.past (h : Step timeout l stage m stage' next l' r) (hpast : stage.past = true) :
    stage'.past = true ∧ r = none := by
  cases h with
  | leave guarded => exact ⟨rfl, rfl⟩
  | _ => cases hpast

end PairedTls.ConnectionTask
