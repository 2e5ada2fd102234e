import Mathlib.Data.List.Chain
import PairedTls.Proofs.TaskSteps

namespace PairedTls.ConnectionTask

structure History where
  outcome : Option HandshakeOutcome
  granted : Bool
  idle : Bool
  served : Option ServingOutcome
  /-- The states that the connection has entered after the first, in order. -/
  states : List ConnectionState
  reports : List ConnectionError
  deriving DecidableEq, Repr

def Stage.closesIdle : Stage → Bool
  | .retiring _ => true
  | _ => false

namespace History

def start : History := ⟨none, false, false, none, [], []⟩

def add (h : History) (l : Lifecycle) (m : Move) (stage : Stage) (entered : Option ConnectionState)
    (r : Option ConnectionError) : History where
  outcome := match m with
    | .decide outcome => some outcome
    | _ => h.outcome
  granted := match m with
    | .test => l.test.1
    | _ => h.granted
  idle := h.idle || stage.closesIdle
  served := match m with
    | .serve outcome => some outcome
    | _ => h.served
  states := h.states ++ entered.toList
  reports := h.reports ++ r.toList

/-- The failure of a handshake, if there is one that may be acted on. -/
def handshakeFailure? (h : History) : Option ConnectionError :=
  if h.granted then h.outcome.bind HandshakeOutcome.error? else none

end History

def entered? (t t' : ConnectionTask) : Option ConnectionState :=
  if t'.connection.state = t.connection.state then none else some t'.connection.state

/-- A run, each move with the lifecycle that it meets. Other tasks and a shutdown come between the moves, so
any lifecycle can be met at any of them. -/
def run? (t : ConnectionTask) (h : History) : List (Lifecycle × Move) → Option (ConnectionTask × History)
  | [] => some (t, h)
  | (l, m) :: rest => do
    let (t', _, r) ← t.step? l m
    run? t' (h.add l m t'.stage (t.entered? t') r) rest

variable {timeout : Duration} {l l' : Lifecycle} {t t' : ConnectionTask} {stage stage' : Stage} {m : Move}
  {next : Option ConnectionState} {r : Option ConnectionError} {h h' : History} {turns rest : List (Lifecycle × Move)}

theorem run?_cons (hstep : t.step? l m = some (t', l', r)) :
    t.run? h ((l, m) :: rest) = t'.run? (h.add l m t'.stage (t.entered? t') r) rest := by
  rw [run?, hstep]
  rfl

/-- The five ways to a closed connection. -/
inductive History.Closed : History → Prop
  | abandoned : Closed ⟨none, false, false, none, [.handshaking, .closed], []⟩
  | refused (outcome : HandshakeOutcome) : Closed ⟨some outcome, false, false, none, [.handshaking, .closed], []⟩
  | failed {outcome : HandshakeOutcome} {e : ConnectionError} (h : outcome.error? = some e) :
      Closed ⟨some outcome, true, false, none, [.handshaking, .handshakeFailed, .closed], [e]⟩
  | served (peer : PeerCertificate) (outcome : ServingOutcome) :
      Closed ⟨some (.session peer), true, false, some outcome, [.handshaking, .established, .reading, .closed],
        outcome.error?.toList⟩
  | retired (peer : PeerCertificate) (outcome : ServingOutcome) :
      Closed ⟨some (.session peer), true, true, some outcome, [.handshaking, .established, .reading, .closed], []⟩

def History.Served (h : History) (peer : PeerCertificate) : Prop :=
  h = ⟨some (.session peer), true, false, none, [.handshaking, .established, .reading], []⟩

def Stage.Knows (h : History) : Stage → Prop
  | .spawned => h = .start
  | .handshaking => h = ⟨none, false, false, none, [.handshaking], []⟩
  | .decided o | .unguarded o | .registered o => h = ⟨some o, false, false, none, [.handshaking], []⟩
  | .admitted o => h = ⟨some o, true, false, none, [.handshaking], []⟩
  | .failed e =>
    ∃ o, HandshakeOutcome.error? o = some e ∧
      h = ⟨some o, true, false, none, [.handshaking, .handshakeFailed], []⟩
  | .established peer => h = ⟨some (.session peer), true, false, none, [.handshaking, .established], []⟩
  | .serving peer _ _ | .draining peer => h.Served peer
  | .retiring peer => h = ⟨some (.session peer), true, true, none, [.handshaking, .established, .reading], []⟩
  | .ending _ | .done => h.Closed
  | .unwinding | .lost => ∃ peer, h.Served peer

theorem Step.knows (hstep : Step timeout l stage m stage' next l' r) (hknows : stage.Knows h) :
    stage'.Knows (h.add l m stage' next r) := by
  cases hstep with
  | start | decide _ | release _ | register _ | establish _ | read _ _ | act _ _ _ _ _ | sleep _ _ _ _ _ _
  | retire _ _ _ _ _ | drain _ _ _ _ =>
      cases hknows
      rfl
  | abandon _ => cases hknows; exact .abandoned
  | grant outcome hcancelled =>
      cases hknows
      simp [Stage.Knows, History.add, Lifecycle.test, hcancelled, Stage.closesIdle]
  | refuse outcome hcancelled =>
      cases hknows
      have hrefused : l.test.1 = false := by simp [Lifecycle.test, hcancelled]
      simp only [Stage.Knows, History.add, hrefused]
      exact .refused outcome
  | fail fault => cases hknows; exact ⟨.failed fault, rfl, rfl⟩
  | expire => cases hknows; exact ⟨.timedOut, rfl, rfl⟩
  | report error =>
      obtain ⟨outcome, houtcome, rfl⟩ := hknows
      exact .failed houtcome
  | overflow peer _ _ _ _ => cases hknows; exact ⟨peer, rfl⟩
  | serve peer _ _ outcome _ => cases hknows; exact .served peer outcome
  | finish peer outcome _ => cases hknows; exact .served peer outcome
  | close peer outcome => cases hknows; exact .retired peer outcome
  | leave guarded =>
      have hsame : h.add l .leave .done none none = h := by simp [History.add, Stage.closesIdle]
      rw [Stage.Knows, hsame]
      exact hknows
  | vanish =>
      obtain ⟨peer, rfl⟩ := hknows
      exact ⟨peer, rfl⟩

theorem Step.entered (h : Step timeout l stage m stage' next l' r) :
    (if stage'.state = stage.state then none else some stage'.state) = next := by
  cases h <;> rfl

theorem knows_step (horderly : t.Orderly) (hknows : t.stage.Knows h) (hstep : t.step? l m = some (t', l', r)) :
    t'.stage.Knows (h.add l m t'.stage (t.entered? t') r) := by
  obtain ⟨next, hcases, _⟩ := step?_cases hstep
  have hentered : t.entered? t' = next := by
    rw [entered?, horderly.state, (orderly_step horderly hstep).state]
    exact hcases.entered
  rw [hentered]
  exact hcases.knows hknows

theorem knows_run (horderly : t.Orderly) (hknows : t.stage.Knows h) (hrun : t.run? h turns = some (t', h')) :
    t'.Orderly ∧ t'.stage.Knows h' := by
  induction turns generalizing t h with
  | nil => cases hrun; exact ⟨horderly, hknows⟩
  | cons turn rest ih =>
      obtain ⟨l, m⟩ := turn
      obtain ⟨⟨middle, l', r⟩, hstep, hrest⟩ := Option.bind_eq_some_iff.1 hrun
      exact ih (orderly_step horderly hstep) (knows_step horderly hknows hstep) hrest

def Move.waits : Move → Bool
  | .act .. | .look _ => true
  | _ => false

/-- How many other moves are left at most. -/
def Stage.left : Stage → Nat
  | .spawned => 10
  | .handshaking => 9
  | .decided _ => 8
  | .unguarded _ => 7
  | .registered _ => 6
  | .admitted _ => 5
  | .established _ => 4
  | .serving .. => 3
  | .failed _ | .draining _ | .retiring _ => 2
  | .ending _ | .unwinding => 1
  | .done | .lost => 0

theorem Step.left (h : Step timeout l stage m stage' next l' r) :
    (!m.waits).toNat + stage'.left ≤ stage.left := by
  cases h <;> simp [Stage.left, Move.waits]

theorem left_run (hrun : t.run? h turns = some (t', h')) :
    turns.countP (fun turn => !turn.2.waits) + t'.stage.left ≤ t.stage.left := by
  induction turns generalizing t h with
  | nil => cases hrun; simp
  | cons turn rest ih =>
      obtain ⟨l, m⟩ := turn
      obtain ⟨⟨middle, l', r⟩, hstep, hrest⟩ := Option.bind_eq_some_iff.1 hrun
      obtain ⟨next, hstep, _⟩ := step?_cases hstep
      have hone := hstep.left
      have hle := ih hrest
      rw [List.countP_cons]
      cases hwaits : m.waits with
      | false =>
          simp only [hwaits, Bool.not_false, Bool.toNat_true, if_true] at hone ⊢
          omega
      | true =>
          simp only [hwaits, Bool.not_true, Bool.toNat_false, Bool.false_eq_true, if_false] at hone ⊢
          omega

theorem exists_step (l : Lifecycle) (h : t.stage.running = true) : ∃ m, (t.step? l m).isSome = true := by
  obtain ⟨connection, timeout, stage, violations⟩ := t
  cases stage with
  | spawned => exact ⟨.start, rfl⟩
  | handshaking => exact ⟨.decide .timedOut, rfl⟩
  | decided outcome => exact ⟨.release, rfl⟩
  | unguarded outcome => exact ⟨.register, rfl⟩
  | registered outcome =>
      refine ⟨.test, ?_⟩
      simp only [step?]
      rw [Lifecycle.test_eq]
      cases l.cancelled <;> rfl
  | admitted outcome => exact ⟨.settle, by cases outcome <;> rfl⟩
  | failed error => exact ⟨.report, rfl⟩
  | established peer => exact ⟨.read ⟨0⟩, rfl⟩
  | serving peer tracker wake => exact ⟨.serve .finished, rfl⟩
  | draining peer => exact ⟨.serve .finished, rfl⟩
  | retiring peer => exact ⟨.serve .finished, rfl⟩
  | ending guarded => exact ⟨.leave, rfl⟩
  | unwinding => exact ⟨.leave, rfl⟩
  | done => cases h
  | lost => cases h

theorem cutOff_stays (hrun : t.run? h turns = some (t', h')) (hcut : t.stage.cutOff = true) :
    t'.stage.cutOff = true := by
  induction turns generalizing t h with
  | nil => cases hrun; exact hcut
  | cons turn rest ih =>
      obtain ⟨⟨middle, l', r⟩, hstep, hrest⟩ := Option.bind_eq_some_iff.1 hrun
      exact ih hrest ((cutOff_step hstep).2 (.inl hcut))

/-- One of the moves of a run is a look that overflows. -/
def RunOverflows (t : ConnectionTask) (h : History) (turns : List (Lifecycle × Move)) : Prop :=
  ∃ earlier l m later before past, turns = earlier ++ (l, m) :: later ∧
    t.run? h earlier = some (before, past) ∧ before.Overflows m

theorem runOverflows_cons {t middle : ConnectionTask} (hstep : t.step? l m = some (middle, l', r)) :
    t.RunOverflows h ((l, m) :: rest) ↔
      t.Overflows m ∨ middle.RunOverflows (h.add l m middle.stage (t.entered? middle) r) rest := by
  constructor
  · rintro ⟨earlier, l₁, m₁, later, before, past, hturns, hearlier, hover⟩
    cases earlier with
    | nil =>
        cases hturns
        cases hearlier
        exact .inl hover
    | cons turn earlier =>
        cases hturns
        obtain ⟨⟨middle', l'', r'⟩, hstep', hearlier⟩ := Option.bind_eq_some_iff.1 hearlier
        cases hstep.symm.trans hstep'
        exact .inr ⟨earlier, l₁, m₁, later, before, past, rfl, hearlier, hover⟩
  · rintro (hover | ⟨earlier, l₁, m₁, later, before, past, rfl, hearlier, hover⟩)
    · exact ⟨[], l, m, rest, t, h, rfl, rfl, hover⟩
    · exact ⟨(l, m) :: earlier, l₁, m₁, later, before, past, rfl, (run?_cons hstep).trans hearlier, hover⟩

theorem cutOff_run (hrun : t.run? h turns = some (t', h')) (hstart : t.stage.cutOff = false) :
    t'.stage.cutOff = true ↔ t.RunOverflows h turns := by
  induction turns generalizing t h with
  | nil =>
      cases hrun
      rw [hstart]
      refine ⟨nofun, ?_⟩
      rintro ⟨earlier, _, _, _, _, _, hturns, _⟩
      cases earlier <;> cases hturns
  | cons turn rest ih =>
      obtain ⟨l, m⟩ := turn
      obtain ⟨⟨middle, l', r⟩, hstep, hrest⟩ := Option.bind_eq_some_iff.1 hrun
      have hcut := cutOff_step hstep
      rw [runOverflows_cons hstep]
      cases hmiddle : middle.stage.cutOff with
      | false =>
          have hnot : ¬t.Overflows m := fun hover => by rw [hcut.2 (.inr hover)] at hmiddle; cases hmiddle
          rw [ih hrest hmiddle, or_iff_right hnot]
      | true =>
          have hover : t.Overflows m := by
            rcases hcut.1 hmiddle with hold | hover
            · cases hstart.symm.trans hold
            · exact hover
          exact ⟨fun _ => .inl hover, fun _ => cutOff_stays hrest hmiddle⟩

theorem timely_run (hrun : t.run? h turns = some (t', h')) (hrange : ∀ turn ∈ turns, turn.2.InRange t.requestTimeout)
    (htimely : t.stage.Timely t.requestTimeout) : t'.stage.Timely t'.requestTimeout := by
  induction turns generalizing t h with
  | nil => cases hrun; exact htimely
  | cons turn rest ih =>
      obtain ⟨l, m⟩ := turn
      obtain ⟨⟨middle, l', r⟩, hstep, hrest⟩ := Option.bind_eq_some_iff.1 hrun
      have hsame := requestTimeout_step hstep
      obtain ⟨next, hcases, _⟩ := step?_cases hstep
      apply ih hrest
      · rw [hsame]
        exact fun turn hturn => hrange turn (List.mem_cons_of_mem _ hturn)
      · rw [hsame]
        exact hcases.timely (hrange (l, m) List.mem_cons_self) htimely

/-- Serving starts with no request in flight, so a deadline that is out of range then is met at the first look. -/
theorem lost_of_established {peer : PeerCertificate} {now : Instant} (horderly : t.Orderly)
    (hstage : t.stage = .established peer) (hrange : now.add? t.requestTimeout = none) (l₁ l₂ l₃ : Lifecycle) :
    ∃ t' h', t.run? h [(l₁, .read now), (l₂, .look now), (l₃, .leave)] = some (t', h') ∧ t'.stage = .lost := by
  obtain ⟨⟨info, state⟩, timeout, stage, violations⟩ := t
  cases hstage
  cases horderly.state
  have hpoll : (IdleTracker.start now).poll timeout now = .overflow :=
    IdleTracker.poll_eq_overflow.2 (IdleTracker.deadline_eq_overflow.2 ⟨rfl, hrange⟩)
  have hread : step? l₁ ⟨⟨info, .established⟩, timeout, .established peer, violations⟩ (.read now) =
      some (⟨⟨info, .reading⟩, timeout, .serving peer (.start now) now, violations⟩, l₁, none) := rfl
  have hlook : step? l₂ ⟨⟨info, .reading⟩, timeout, .serving peer (.start now) now, violations⟩ (.look now) =
      some (⟨⟨info, .reading⟩, timeout, .unwinding, violations⟩, l₂, none) := by
    simp only [step?, le_refl, if_true, hpoll]
    rfl
  have hleave : step? l₃ ⟨⟨info, .reading⟩, timeout, .unwinding, violations⟩ .leave =
      some (⟨⟨info, .reading⟩, timeout, .lost, violations⟩, l₃.release.finish, none) := rfl
  rw [run?_cons hread, run?_cons hlook, run?_cons hleave]
  exact ⟨_, _, rfl, rfl⟩

theorem requestTimeout_run (hrun : t.run? h turns = some (t', h')) : t'.requestTimeout = t.requestTimeout := by
  induction turns generalizing t h with
  | nil => cases hrun; rfl
  | cons turn rest ih =>
      obtain ⟨⟨middle, l', r⟩, hstep, hrest⟩ := Option.bind_eq_some_iff.1 hrun
      exact (ih hrest).trans (requestTimeout_step hstep)

def Lawful (states : List ConnectionState) : Prop :=
  states.IsChain fun s s' => s.canAdvance s' = true

theorem History.Closed.lawful (hclosed : h.Closed) : Lawful (.accepted :: h.states) := by
  cases hclosed <;> simp [Lawful, ConnectionState.canAdvance]

theorem Stage.Knows.lawful (hknows : stage.Knows h) : Lawful (.accepted :: h.states) := by
  cases stage with
  | spawned | handshaking | decided _ | unguarded _ | registered _ | admitted _ | established _ | serving _ _ _
  | draining _ | retiring _ =>
      cases hknows
      simp [Lawful, ConnectionState.canAdvance, History.start]
  | failed e =>
      obtain ⟨outcome, _, rfl⟩ := hknows
      simp [Lawful, ConnectionState.canAdvance]
  | unwinding | lost =>
      obtain ⟨peer, rfl⟩ := hknows
      simp [Lawful, ConnectionState.canAdvance]
  | ending _ | done => exact History.Closed.lawful hknows

theorem isHandshake_of_error? {outcome : HandshakeOutcome} {e : ConnectionError} (h : outcome.error? = some e) :
    e.isHandshake = true := by
  cases outcome with
  | session peer => cases h
  | timedOut => cases h; rfl
  | failed fault =>
      cases h
      cases fault with
      | socket text => rfl
      | tls fault => cases fault <;> rfl

/-- What a run that has closed its connection reports, and which states it has been through. -/
structure History.Settled (h : History) : Prop where
  states : ∃ between, .accepted :: h.states = [.accepted, .handshaking] ++ between ++ [.closed]
  handshake : ∀ e, h.handshakeFailure? = some e → h.reports = [e] ∧ e.isHandshake = true
  serving : ∀ text, h.served = some (.failed text) → h.idle = false → h.reports = [.http text]
  nothing : h.handshakeFailure? = none → ((∃ text, h.served = some (.failed text)) → h.idle = true) → h.reports = []
  reported : (∃ e ∈ h.reports, e.isHandshake = true) ↔ .handshakeFailed ∈ h.states
  exclusive : .handshakeFailed ∈ h.states → .established ∉ h.states

theorem History.Closed.settled (hclosed : h.Closed) : h.Settled := by
  cases hclosed with
  | abandoned | refused _ =>
      exact ⟨⟨[], rfl⟩, nofun, nofun, fun _ _ => rfl, by simp, by simp⟩
  | @failed outcome e houtcome =>
      have hfailure : handshakeFailure?
          ⟨some outcome, true, false, none, [.handshaking, .handshakeFailed, .closed], [e]⟩ = some e := houtcome
      refine ⟨⟨[.handshakeFailed], rfl⟩, ?_, nofun, ?_, ?_, by simp⟩
      · intro e' he'
        obtain rfl := Option.some.inj (hfailure.symm.trans he')
        exact ⟨rfl, isHandshake_of_error? houtcome⟩
      · intro hnone
        cases hfailure.symm.trans hnone
      · simp [isHandshake_of_error? houtcome]
  | served peer outcome =>
      refine ⟨⟨[.established, .reading], rfl⟩, nofun, ?_, ?_, ?_, by simp⟩
      · intro text htext _
        obtain rfl := Option.some.inj htext
        rfl
      · intro _ hother
        cases outcome with
        | failed text => cases hother ⟨text, rfl⟩
        | finished | dropped => rfl
      · cases outcome <;> simp [ServingOutcome.error?, ConnectionError.isHandshake]
  | retired peer outcome =>
      exact ⟨⟨[.established, .reading], rfl⟩, nofun, fun _ _ => nofun, fun _ _ => rfl, by simp, by simp⟩

/-- Every run of a task comes to its end after a few moves beside those of its requests, is never stuck before and asks
for no state that may not follow the one before. At the end the connection has been closed, with the one failure
reported that there was, if there was one, or the task was cut off while reading. It was cut off if and only if it
looked for idleness with a deadline past what the clock can tell. Where the timeout leads there from no time at which
there is activity, every task closes its connection; where it does so from the time of the handshake, the task is lost
at its first look. -/
theorem run_settled {info : ConnectionInfo} {timeout : Duration} {turns : List (Lifecycle × Move)}
    {t : ConnectionTask} {h : History} (hrun : (spawned info timeout).run? .start turns = some (t, h)) :
    (turns.countP (fun turn => !turn.2.waits) ≤ 10 ∧
        (t.stage.running = true → ∀ l, ∃ m, (t.step? l m).isSome = true)) ∧
      t.violations = [] ∧ Lawful (.accepted :: h.states) ∧
      (t.stage.running = false →
        t.stage = .done ∧ h.Settled ∨
          t.stage = .lost ∧ t.connection.state = .reading ∧ h.states = [.handshaking, .established, .reading] ∧
            h.reports = []) ∧
      (t.stage.cutOff = true ↔ (spawned info timeout).RunOverflows .start turns) ∧
      ((∀ turn ∈ turns, turn.2.InRange timeout) → t.stage.running = false → t.stage = .done ∧ h.Settled) ∧
      ∀ peer now, t.stage = .established peer → now.add? timeout = none → ∀ l₁ l₂ l₃, ∃ t' h',
        t.run? h [(l₁, .read now), (l₂, .look now), (l₃, .leave)] = some (t', h') ∧ t'.stage = .lost := by
  -- Every step keeps what the task knows of its past; the rest is read off the last stage.
  obtain ⟨horderly, hknows⟩ := knows_run (orderly_spawned info timeout) rfl hrun
  have hsettled : t.stage = .done → h.Settled := by
    intro hdone
    rw [hdone] at hknows
    exact History.Closed.settled hknows
  refine ⟨⟨?_, fun hrunning l => exists_step l hrunning⟩, horderly.violations, hknows.lawful, ?_, cutOff_run hrun rfl,
    ?_, ?_⟩
  · exact Nat.le_trans (Nat.le_add_right _ _) (left_run hrun)
  · intro hend
    rcases Stage.not_running hend with hdone | hlost
    · exact .inl ⟨hdone, hsettled hdone⟩
    · have hstate := horderly.state
      rw [hlost] at hknows hstate
      obtain ⟨peer, rfl⟩ := hknows
      exact .inr ⟨hlost, hstate, rfl, rfl⟩
  · intro hrange hend
    have htimely := timely_run hrun hrange trivial
    rcases Stage.not_running hend with hdone | hlost
    · exact ⟨hdone, hsettled hdone⟩
    · rw [hlost] at htimely
      exact htimely.elim
  · intro peer now hstage hnone l₁ l₂ l₃
    have htimeout : t.requestTimeout = timeout := requestTimeout_run hrun
    exact lost_of_established horderly hstage (by rw [htimeout]; exact hnone) l₁ l₂ l₃

def held : Lifecycle := ⟨false, false, 0, 1, 1⟩

def slowHandshake : List (Lifecycle × Move) :=
  [(held, .start), (held, .decide .timedOut), (held, .release), (held.release, .register),
   (held.release.register, .test), (held, .settle), (held, .report), (held, .leave)]

def firstLook : List (Lifecycle × Move) :=
  [(held, .start), (held, .decide (.session .anonymous)), (held, .release), (held.release, .register),
   (held.release.register, .test), (held, .settle), (held, .read ⟨1000000000000⟩), (held, .look ⟨1000000000000⟩),
   (held, .leave)]

theorem run_settled_slowHandshake :
    let info : ConnectionInfo := ⟨1, ⟨.v4 127 0 0 1, 0, 50001⟩, ⟨.v4 127 0 0 1, 0, 47984⟩⟩
    let longest : Duration := .ofSecs 18446744073709551615 (by decide)
    let reported : History := ⟨some .timedOut, true, false, none, [.handshaking, .handshakeFailed, .closed], [.timeout]⟩
    let cut : History := ⟨some (.session .anonymous), true, false, none, [.handshaking, .established, .reading], []⟩
    ((spawned info longest).run? .start slowHandshake = some (⟨⟨info, .closed⟩, longest, .done, []⟩, reported) ∧
        Lawful (.accepted :: reported.states) ∧ reported.Settled) ∧
      (spawned info longest).run? .start firstLook = some (⟨⟨info, .reading⟩, longest, .lost, []⟩, cut) ∧
        (spawned info longest).RunOverflows .start firstLook ∧ ¬cut.Settled := by
  intro info longest reported cut
  have hslow : (spawned info longest).run? .start slowHandshake =
      some (⟨⟨info, .closed⟩, longest, .done, []⟩, reported) := rfl
  have hfirst : (spawned info longest).run? .start firstLook =
      some (⟨⟨info, .reading⟩, longest, .lost, []⟩, cut) := by decide +kernel
  obtain ⟨_, _, hlawful, _, _, hclosed, _⟩ := run_settled hslow
  obtain ⟨_, _, _, _, hcut, _, _⟩ := run_settled hfirst
  refine ⟨⟨hslow, hlawful, (hclosed ?_ rfl).2⟩, hfirst, hcut.1 rfl, ?_⟩
  · intro turn hturn
    simp only [slowHandshake, List.mem_cons, List.not_mem_nil, or_false] at hturn
    rcases hturn with rfl | rfl | rfl | rfl | rfl | rfl | rfl | rfl <;> trivial
  · rintro ⟨⟨between, hstates⟩, _⟩
    have hlast := congrArg List.getLast? hstates
    rw [List.getLast?_concat] at hlast
    cases hlast

end PairedTls.ConnectionTask
