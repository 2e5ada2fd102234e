import Mathlib.Data.Finset.Card
import PairedTls.Tls.Lifecycle

namespace PairedTls.Lifecycle

variable {l l' : Lifecycle}

theorem cancelled_test (l : Lifecycle) : l.test.2.cancelled = l.cancelled := by
  rw [test]
  split <;> rfl

theorem closed_test (l : Lifecycle) : l.test.2.closed = l.closed := by
  rw [test]
  split <;> rfl

/-- Shutdown has begun, and nobody has a guard or a task. -/
structure Drained (l : Lifecycle) : Prop where
  cancelled : l.cancelled = true
  locks : l.locks = 0
  tasks : l.tasks = 0

theorem waitEnds_iff : l.waitEnds = true ↔ l.closed = true ∧ l.registering = 0 ∧ l.locks = 0 ∧ l.tasks = 0 := by
  rw [waitEnds, tracked, Bool.and_eq_true, beq_iff_eq]
  apply and_congr_right
  intro _
  omega

/-- A new guard would need a test that is granted, and a new task would need a guard. -/
theorem Step.drained (h : Step l l') (hdrained : l.Drained) : l'.Drained := by
  obtain ⟨hcancelled, hlocks, htasks⟩ := hdrained
  cases h with
  | register => exact ⟨hcancelled, hlocks, htasks⟩
  | test _ =>
      rw [test_refused hcancelled]
      exact ⟨hcancelled, hlocks, htasks⟩
  | release h => exact absurd hlocks (Nat.ne_of_gt h)
  | spawn h => exact absurd hlocks (Nat.ne_of_gt h)
  | finish h => exact absurd htasks (Nat.ne_of_gt h)
  | cancel => exact ⟨rfl, hlocks, htasks⟩
  | close _ => exact ⟨hcancelled, hlocks, htasks⟩

/-- Numbers tell guards, tasks and calls of `shutdown` apart. Clones have one state, so it makes no difference through
which of them a step is taken. -/
inductive Move where
  | register (guard : Nat)
  | test (guard : Nat)
  | drop (guard : Nat)
  | spawn (guard task : Nat)
  | finish (task : Nat)
  | cancel (call : Nat)
  | close (call : Nat)
  | wait
  deriving DecidableEq, Repr

structure Shared where
  lifecycle : Lifecycle
  /-- Guards that are registered and not tested yet. -/
  asked : Finset Nat
  held : Finset Nat
  running : Finset Nat
  /-- Calls of `shutdown` between their two steps. -/
  closing : Finset Nat

namespace Shared

def start : Shared := ⟨.start, ∅, ∅, ∅, ∅⟩

/-- Who can take which step, and what comes of it. -/
inductive Turn (s : Shared) : Move → Shared → Prop
  | register (guard : Nat) (h : guard ∉ s.asked ∪ s.held) :
      Turn s (.register guard) { s with lifecycle := s.lifecycle.register, asked := insert guard s.asked }
  | test (guard : Nat) (h : guard ∈ s.asked) :
      Turn s (.test guard)
        { s with
          lifecycle := s.lifecycle.test.2
          asked := s.asked.erase guard
          held := if s.lifecycle.test.1 then insert guard s.held else s.held }
  | drop (guard : Nat) (h : guard ∈ s.held) :
      Turn s (.drop guard) { s with lifecycle := s.lifecycle.release, held := s.held.erase guard }
  | spawn (guard task : Nat) (h : guard ∈ s.held) (hnew : task ∉ s.running) :
      Turn s (.spawn guard task) { s with lifecycle := s.lifecycle.spawn, running := insert task s.running }
  | finish (task : Nat) (h : task ∈ s.running) :
      Turn s (.finish task) { s with lifecycle := s.lifecycle.finish, running := s.running.erase task }
  | cancel (call : Nat) (h : call ∉ s.closing) :
      Turn s (.cancel call) { s with lifecycle := s.lifecycle.cancel, closing := insert call s.closing }
  | close (call : Nat) (h : call ∈ s.closing) :
      Turn s (.close call) { s with lifecycle := s.lifecycle.close, closing := s.closing.erase call }
  | wait (h : s.lifecycle.waitEnds = true) : Turn s .wait s

inductive Run : List Move → Shared → Prop
  | start : Run [] start
  | turn {moves : List Move} {s s' : Shared} {m : Move} (h : Run moves s) (hturn : Turn s m s') : Run (moves ++ [m]) s'

variable {s s' : Shared} {m : Move} {moves : List Move}

theorem Run.turns {m' : Move} {s'' : Shared} (h : Run moves s) (hfirst : Turn s m s') (hlast : Turn s' m' s'') :
    Run (moves ++ [m, m']) s'' := by
  rw [List.append_cons]
  exact (h.turn hfirst).turn hlast

structure Counted (s : Shared) : Prop where
  registering : s.lifecycle.registering = s.asked.card
  locks : s.lifecycle.locks = s.held.card
  tasks : s.lifecycle.tasks = s.running.card
  disjoint : Disjoint s.asked s.held

theorem Turn.counted (hturn : Turn s m s') (h : s.Counted) : s'.Counted := by
  obtain ⟨hregistering, hlocks, htasks, hdisjoint⟩ := h
  cases hturn with
  | register guard hfree =>
      obtain ⟨hasked, hheld⟩ := not_or.1 (mt Finset.mem_union.2 hfree)
      refine ⟨?_, hlocks, htasks, Finset.disjoint_insert_left.2 ⟨hheld, hdisjoint⟩⟩
      rw [Finset.card_insert_of_notMem hasked]
      exact congrArg (· + 1) hregistering
  | test guard hasked =>
      -- A guard passes from those that are asked for to those that are held, or is given back.
      have hleft : s.lifecycle.registering - 1 = (s.asked.erase guard).card := by
        rw [Finset.card_erase_of_mem hasked, hregistering]
      have hheld := Finset.disjoint_left.1 hdisjoint hasked
      have hdisjoint' : Disjoint (s.asked.erase guard) s.held :=
        Finset.disjoint_of_subset_left (Finset.erase_subset guard s.asked) hdisjoint
      cases hcancelled : s.lifecycle.cancelled with
      | false =>
          rw [test_granted hcancelled]
          refine ⟨hleft, ?_, htasks, ?_⟩
          · simp only [if_true, Finset.card_insert_of_notMem hheld, hlocks]
          · exact Finset.disjoint_insert_right.2 ⟨Finset.notMem_erase guard s.asked, hdisjoint'⟩
      | true =>
          rw [test_refused hcancelled]
          exact ⟨hleft, hlocks, htasks, hdisjoint'⟩
  | drop guard hheld =>
      refine ⟨hregistering, ?_, htasks, ?_⟩
      · rw [Finset.card_erase_of_mem hheld, ← hlocks]
        rfl
      · exact Finset.disjoint_of_subset_right (Finset.erase_subset guard s.held) hdisjoint
  | spawn guard task _ hnew =>
      refine ⟨hregistering, hlocks, ?_, hdisjoint⟩
      rw [Finset.card_insert_of_notMem hnew, ← htasks]
      rfl
  | finish task hrunning =>
      refine ⟨hregistering, hlocks, ?_, hdisjoint⟩
      rw [Finset.card_erase_of_mem hrunning, ← htasks]
      rfl
  | cancel call _ => exact ⟨hregistering, hlocks, htasks, hdisjoint⟩
  | close call _ => exact ⟨hregistering, hlocks, htasks, hdisjoint⟩
  | wait _ => exact ⟨hregistering, hlocks, htasks, hdisjoint⟩

theorem counted_run (h : Run moves s) : s.Counted := by
  induction h with
  | start => exact ⟨rfl, rfl, rfl, Finset.disjoint_empty_left ∅⟩
  | turn _ hturn ih => exact hturn.counted ih

theorem Turn.cancelled_eq (hturn : Turn s m s') (hm : ∀ call, m ≠ .cancel call) :
    s'.lifecycle.cancelled = s.lifecycle.cancelled := by
  cases hturn with
  | cancel call _ => exact absurd rfl (hm call)
  | test guard _ => exact cancelled_test s.lifecycle
  | _ => rfl

theorem cancelled_run (h : Run moves s) : s.lifecycle.cancelled = true ↔ ∃ call, .cancel call ∈ moves := by
  induction h with
  | start => simp [start, Lifecycle.start]
  | @turn moves s s' m hrun hturn ih =>
      by_cases hm : ∃ call, m = .cancel call
      · obtain ⟨call, rfl⟩ := hm
        cases hturn
        exact iff_of_true rfl ⟨call, List.mem_append_right moves List.mem_cons_self⟩
      · rw [hturn.cancelled_eq fun call hcall => hm ⟨call, hcall⟩, ih]
        constructor
        · rintro ⟨call, hcall⟩
          exact ⟨call, List.mem_append_left [m] hcall⟩
        · rintro ⟨call, hcall⟩
          rcases List.mem_append.1 hcall with hcall | hcall
          · exact ⟨call, hcall⟩
          · exact absurd ⟨call, (List.mem_singleton.1 hcall).symm⟩ hm

theorem mem_of_closing (h : Run moves s) {call : Nat} (hcall : call ∈ s.closing) : .cancel call ∈ moves := by
  induction h with
  | start => exact absurd hcall (Finset.notMem_empty call)
  | @turn moves s s' m hrun hturn ih =>
      by_cases hm : m = .cancel call
      · exact List.mem_append_right moves (List.mem_singleton.2 hm.symm)
      · apply List.mem_append_left
        apply ih
        cases hturn with
        | cancel other _ => exact (Finset.mem_insert.1 hcall).resolve_left (fun h => hm (h ▸ rfl))
        | close other _ => exact Finset.mem_of_mem_erase hcall
        | _ => exact hcall

/-- A call of `shutdown` has taken both of its steps. -/
def ShutDown (moves : List Move) : Prop :=
  ∃ call, List.Sublist [.cancel call, .close call] moves

theorem Turn.closed_eq (hturn : Turn s m s') (hm : ∀ call, m ≠ .close call) :
    s'.lifecycle.closed = s.lifecycle.closed := by
  cases hturn with
  | close call _ => exact absurd rfl (hm call)
  | test guard _ => exact closed_test s.lifecycle
  | _ => rfl

theorem Turn.closed (hturn : Turn s m s') (h : s.lifecycle.closed = true) : s'.lifecycle.closed = true := by
  by_cases hm : ∃ call, m = .close call
  · obtain ⟨call, rfl⟩ := hm
    cases hturn
    rfl
  · rw [hturn.closed_eq fun call hcall => hm ⟨call, hcall⟩, h]

theorem closed_of_mem (h : Run moves s) {call : Nat} (hcall : .close call ∈ moves) : s.lifecycle.closed = true := by
  induction h with
  | start => cases hcall
  | turn _ hturn ih =>
      rcases List.mem_append.1 hcall with hcall | hcall
      · exact hturn.closed (ih hcall)
      · obtain rfl := List.mem_singleton.1 hcall
        cases hturn
        rfl

theorem shutDown_of_closed (h : Run moves s) (hclosed : s.lifecycle.closed = true) : ShutDown moves := by
  induction h with
  | start => cases hclosed
  | @turn moves s s' m hrun hturn ih =>
      by_cases hm : ∃ call, m = .close call
      · obtain ⟨call, rfl⟩ := hm
        cases hturn with
        | close _ hcall =>
            have hcancel := List.singleton_sublist.2 (mem_of_closing hrun hcall)
            exact ⟨call, hcancel.append (List.Sublist.refl [Move.close call])⟩
      · rw [hturn.closed_eq fun call hcall => hm ⟨call, hcall⟩] at hclosed
        obtain ⟨call, hcall⟩ := ih hclosed
        exact ⟨call, hcall.trans (List.sublist_append_left moves [m])⟩

theorem closed_run (h : Run moves s) : s.lifecycle.closed = true ↔ ShutDown moves := by
  constructor
  · exact shutDown_of_closed h
  · rintro ⟨call, hcall⟩
    exact closed_of_mem h (hcall.subset (List.mem_cons_of_mem _ List.mem_cons_self))

theorem ShutDown.begun (h : ShutDown moves) : ∃ call, .cancel call ∈ moves := by
  obtain ⟨call, hcall⟩ := h
  exact ⟨call, hcall.subset List.mem_cons_self⟩

theorem Turn.step (hrun : Run moves s) (hturn : Turn s m s') :
    s'.lifecycle = s.lifecycle ∨ Step s.lifecycle s'.lifecycle := by
  obtain ⟨hregistering, hlocks, htasks, _⟩ := counted_run hrun
  cases hturn with
  | register guard _ => exact .inr (.register _)
  | test guard h => exact .inr (.test _ (hregistering ▸ Finset.card_pos.2 ⟨guard, h⟩))
  | drop guard h => exact .inr (.release _ (hlocks ▸ Finset.card_pos.2 ⟨guard, h⟩))
  | spawn guard task h _ => exact .inr (.spawn _ (hlocks ▸ Finset.card_pos.2 ⟨guard, h⟩))
  | finish task h => exact .inr (.finish _ (htasks ▸ Finset.card_pos.2 ⟨task, h⟩))
  | cancel call _ => exact .inr (.cancel _)
  | close call h => exact .inr (.close _ ((cancelled_run hrun).2 ⟨call, mem_of_closing hrun h⟩))
  | wait _ => exact .inl rfl

theorem drained_run (h : Run moves s) (hwait : .wait ∈ moves) : s.lifecycle.Drained := by
  induction h with
  | start => cases hwait
  | @turn moves s s' m hrun hturn ih =>
      rcases List.mem_append.1 hwait with hwait | hwait
      · rcases hturn.step hrun with heq | hstep
        · rw [heq]
          exact ih hwait
        · exact hstep.drained (ih hwait)
      · obtain rfl := List.mem_singleton.1 hwait
        cases hturn with
        | wait hends =>
            obtain ⟨hclosed, _, hlocks, htasks⟩ := waitEnds_iff.1 hends
            exact ⟨(cancelled_run hrun).2 ((closed_run hrun).1 hclosed).begun, hlocks, htasks⟩

theorem granted_iff (hrun : Run moves s) {guard : Nat} (hturn : Turn s (.test guard) s') :
    guard ∈ s'.held ↔ ∀ call, .cancel call ∉ moves := by
  have hdisjoint := (counted_run hrun).disjoint
  rw [← not_exists, ← cancelled_run hrun]
  cases hturn with
  | test _ hasked =>
      cases hcancelled : s.lifecycle.cancelled with
      | false =>
          rw [test_granted hcancelled]
          exact iff_of_true (Finset.mem_insert_self guard s.held) Bool.false_ne_true
      | true =>
          rw [test_refused hcancelled]
          exact iff_of_false (Finset.disjoint_left.1 hdisjoint hasked) (not_not_intro rfl)

theorem wait_iff (hrun : Run moves s) :
    (∃ s', Turn s .wait s') ↔ ShutDown moves ∧ s.asked = ∅ ∧ s.held = ∅ ∧ s.running = ∅ := by
  obtain ⟨hregistering, hlocks, htasks, _⟩ := counted_run hrun
  have hends : (∃ s', Turn s .wait s') ↔ s.lifecycle.waitEnds = true := by
    constructor
    · rintro ⟨s', ⟨⟩⟩
      assumption
    · intro h
      exact ⟨s, .wait h⟩
  rw [hends, waitEnds_iff, closed_run hrun, hregistering, hlocks, htasks]
  simp only [Finset.card_eq_zero]

/-- `continueLock` and `shutdown` are what comes of their two steps with no other step between them. -/
theorem run_continueLock (hrun : Run moves s) {guard : Nat} (hfree : guard ∉ s.asked ∪ s.held) :
    ∃ s', Run (moves ++ [.register guard, .test guard]) s' ∧ s'.lifecycle = s.lifecycle.continueLock.2 ∧
      (guard ∈ s'.held ↔ s.lifecycle.continueLock.1 = true) := by
  have hregister := Turn.register guard hfree
  have htest := Turn.test (s := { s with lifecycle := s.lifecycle.register, asked := insert guard s.asked }) guard
    (Finset.mem_insert_self guard s.asked)
  refine ⟨_, hrun.turns hregister htest, rfl, ?_⟩
  rw [granted_iff (hrun.turn hregister) htest, ← not_exists, ← cancelled_run (hrun.turn hregister), continueLock,
    test_eq]
  simp

theorem run_shutdown (hrun : Run moves s) {call : Nat} (hfree : call ∉ s.closing) :
    ∃ s', Run (moves ++ [.cancel call, .close call]) s' ∧ s'.lifecycle = s.lifecycle.shutdown := by
  have hcancel := Turn.cancel call hfree
  have hclose := Turn.close (s := { s with lifecycle := s.lifecycle.cancel, closing := insert call s.closing }) call
    (Finset.mem_insert_self call s.closing)
  exact ⟨_, hrun.turns hcancel hclose, rfl⟩

/-- However the steps come: a test grants a guard exactly as long as no shutdown has begun, a wait ends only once
one was carried through and nobody is left, and after a wait there is no guard and no task, nor will there be. -/
theorem wait_drained (hrun : Run moves s) :
    (∀ guard s', Turn s (.test guard) s' → (guard ∈ s'.held ↔ ∀ call, .cancel call ∉ moves)) ∧
      ((∃ s', Turn s .wait s') ↔ ShutDown moves ∧ s.asked = ∅ ∧ s.held = ∅ ∧ s.running = ∅) ∧
      (.wait ∈ moves → s.held = ∅ ∧ s.running = ∅) := by
  refine ⟨fun guard s' hturn => granted_iff hrun hturn, wait_iff hrun, ?_⟩
  intro hwait
  have hcounted := counted_run hrun
  have hdrained := drained_run hrun hwait
  rw [← Finset.card_eq_zero, ← Finset.card_eq_zero, ← hcounted.locks, ← hcounted.tasks]
  exact ⟨hdrained.locks, hdrained.tasks⟩

/-- Two calls of `shutdown` come between the steps of a user: one guard is held and has a task, another is registered
before and tested after. A third and a fourth are asked for too late. -/
def race : List Move :=
  [.register 0, .test 0, .spawn 0 7, .register 1, .cancel 0, .test 1, .cancel 1, .drop 0, .close 1, .register 2,
   .finish 7, .test 2, .wait, .register 3, .close 0, .test 3]

theorem run_race : ∃ s, Run race s := by
  have hheld := ((Run.start.turn (.register 0 (by decide))).turn (.test 0 (by decide))).turn
    (.spawn 0 7 (by decide) (by decide))
  have hcancelled := (((hheld.turn (.register 1 (by decide))).turn (.cancel 0 (by decide))).turn
    (.test 1 (by decide))).turn (.cancel 1 (by decide))
  have hclosed := ((hcancelled.turn (.drop 0 (by decide))).turn (.close 1 (by decide))).turn
    (.register 2 (by decide))
  have hwaited := ((hclosed.turn (.finish 7 (by decide))).turn (.test 2 (by decide))).turn (.wait (by decide))
  exact ⟨_, ((hwaited.turn (.register 3 (by decide))).turn (.close 0 (by decide))).turn (.test 3 (by decide))⟩

theorem wait_drained_race :
    ∃ s, Run race s ∧ Move.wait ∈ race ∧ s.held = ∅ ∧ s.running = ∅ ∧
      ∀ guard s', Turn s (.test guard) s' → guard ∉ s'.held := by
  obtain ⟨s, hrun⟩ := run_race
  have hwait : Move.wait ∈ race := by decide
  obtain ⟨hgranted, _, hafter⟩ := wait_drained hrun
  obtain ⟨hheld, hrunning⟩ := hafter hwait
  refine ⟨s, hrun, hwait, hheld, hrunning, ?_⟩
  intro guard s' hturn
  rw [hgranted guard s' hturn]
  exact fun h => h 0 (by decide)

end Shared
end PairedTls.Lifecycle
