import Mathlib.Data.List.Induction
import PairedTls.Proofs.TaskSteps
import PairedTls.Tls.Server

namespace PairedTls.Server

def withTask (s : Server) (i : Nat) (t : ConnectionTask) (l : Lifecycle)
    (reports : List (ConnectionInfo × ConnectionError)) : Server :=
  { s with lifecycle := l, tasks := s.tasks.set i t, reports := reports ++ s.reports }

inductive Step (s : Server) : Move → Server → Prop
  | accept (peer : SocketAddress) (h : s.stage = .waiting) : Step s (.accept peer) { s with stage := .accepted peer }
  | acceptFails (h : s.stage = .waiting) : Step s .acceptFails s
  | noticeShutdown (h : s.stage = .waiting) (hcancelled : s.lifecycle.cancelled = true) :
      Step s .noticeShutdown { s with stage := .leaving }
  | register (peer : SocketAddress) (h : s.stage = .accepted peer) :
      Step s .register { s with stage := .registered peer, lifecycle := s.lifecycle.register }
  | grant (peer : SocketAddress) (h : s.stage = .registered peer) (hcancelled : s.lifecycle.cancelled = false) :
      Step s .test { s with stage := .admitted peer, lifecycle := s.lifecycle.test.2 }
  | refuse (peer : SocketAddress) (h : s.stage = .registered peer) (hcancelled : s.lifecycle.cancelled = true) :
      Step s .test { s with stage := .leaving, lifecycle := s.lifecycle.test.2 }
  | spawn (peer : SocketAddress) (h : s.stage = .admitted peer) : Step s .spawn (s.spawnTask peer)
  | leave (h : s.stage = .leaving) : Step s .leave { s with stage := .draining, lifecycle := s.lifecycle.cancel }
  | stop (h : s.stage = .draining) (hends : s.lifecycle.waitEnds = true) : Step s .stop { s with stage := .stopped }
  | task (i : Nat) (m : ConnectionTask.Move) (t t' : ConnectionTask) (l : Lifecycle) (r : Option ConnectionError)
      (ht : s.tasks[i]? = some t) (hstep : t.step? s.lifecycle m = some (t', l, r)) :
      Step s (.task (i + 1) m) (s.withTask i t' l (r.map (t'.connection.info, ·)).toList)
  | cancel : Step s .cancel { s with lifecycle := s.lifecycle.cancel }
  | close (hcancelled : s.lifecycle.cancelled = true) : Step s .close { s with lifecycle := s.lifecycle.close }

theorem step?_cases {s s' : Server} {m : Move} (h : s.step? m = some s') : Step s m s' := by
  cases m with
  | accept peer =>
      simp only [step?] at h
      split at h
      · next hstage => cases h; exact .accept peer hstage
      · cases h
  | acceptFails =>
      simp only [step?] at h
      split at h
      · next hstage => cases h; exact .acceptFails hstage
      · cases h
  | noticeShutdown =>
      simp only [step?] at h
      split at h
      · next hstage =>
          split at h
          · next hcancelled => cases h; exact .noticeShutdown hstage hcancelled
          · cases h
      · cases h
  | register =>
      simp only [step?] at h
      split at h
      · next peer hstage => cases h; exact .register peer hstage
      · cases h
  | test =>
      simp only [step?] at h
      split at h
      · next peer hstage =>
          rw [Lifecycle.test_eq] at h
          cases hcancelled : s.lifecycle.cancelled with
          | false =>
              simp only [hcancelled, Bool.not_false] at h
              cases h
              exact .grant peer hstage hcancelled
          | true =>
              simp only [hcancelled, Bool.not_true] at h
              cases h
              exact .refuse peer hstage hcancelled
      · cases h
  | spawn =>
      simp only [step?] at h
      split at h
      · next peer hstage => cases h; exact .spawn peer hstage
      · cases h
  | leave =>
      simp only [step?] at h
      split at h
      · next hstage => cases h; exact .leave hstage
      · cases h
  | stop =>
      simp only [step?] at h
      split at h
      · next hstage =>
          split at h
          · next hends => cases h; exact .stop hstage hends
          · cases h
      · cases h
  | task id m =>
      cases id with
      | zero => cases h
      | succ i =>
          simp only [step?, Nat.succ_ne_zero, if_false] at h
          obtain ⟨t, ht, h⟩ := Option.bind_eq_some_iff.1 h
          obtain ⟨⟨t', l, r⟩, hstep, h⟩ := Option.bind_eq_some_iff.1 h
          cases h
          exact .task i m t t' l r ht hstep
  | cancel => cases h; exact .cancel
  | close =>
      simp only [step?] at h
      split at h
      · next hcancelled => cases h; exact .close hcancelled
      · cases h

theorem Step.step?_eq {s s' : Server} {m : Move} (h : Step s m s') : s.step? m = some s' := by
  cases h with
  | accept _ h | acceptFails h | register _ h | spawn _ h | leave h => simp only [step?, h]
  | noticeShutdown h hcancelled => simp only [step?, h, hcancelled, if_true]
  | grant peer h hcancelled | refuse peer h hcancelled =>
      simp only [step?, h]
      rw [Lifecycle.test_eq, hcancelled]
      rfl
  | stop h hends => simp only [step?, h, hends, if_true]
  | task i m t t' l r ht hstep =>
      simp only [step?, Nat.succ_ne_zero, if_false, taskStep?, Nat.add_sub_cancel, ht, hstep, Option.bind_eq_bind,
        Option.bind_some]
      rfl
  | cancel => rfl
  | close hcancelled => simp only [step?, hcancelled, if_true]

theorem run?_concat (s : Server) (moves : List Move) (m : Move) :
    s.run? (moves ++ [m]) = (s.run? moves).bind (·.step? m) := by
  rw [run?, List.foldlM_append]
  simp [run?]

theorem run?_shutdown (s : Server) :
    s.run? [.cancel, .close] = some { s with lifecycle := s.lifecycle.shutdown } :=
  rfl

/-- What holds at the start and is kept by every move holds after every run. -/
theorem run?_induction {start : Server} {P : List Move → Server → Prop} (hstart : P [] start)
    (hstep : ∀ moves s m s', start.run? moves = some s → P moves s → Step s m s' → P (moves ++ [m]) s')
    {moves : List Move} {s : Server} (hrun : start.run? moves = some s) : P moves s := by
  induction moves using List.reverseRecOn generalizing s with
  | nil => cases hrun; exact hstart
  | append_singleton moves m ih =>
      rw [run?_concat] at hrun
      obtain ⟨middle, hmoves, hlast⟩ := Option.bind_eq_some_iff.1 hrun
      exact hstep moves middle m s hmoves (ih hmoves) (step?_cases hlast)

def count (s : Server) (p : ConnectionTask.Stage → Bool) : Nat :=
  s.tasks.countP fun t => p t.stage

def Stage.registering : Stage → Bool
  | .registered _ => true
  | _ => false

def Stage.guarded : Stage → Bool
  | .admitted _ => true
  | _ => false

structure Counted (s : Server) : Prop where
  locks : s.lifecycle.locks = s.count ConnectionTask.Stage.guarded + s.stage.guarded.toNat
  registering : s.lifecycle.registering = s.count ConnectionTask.Stage.registering + s.stage.registering.toNat
  tasks : s.lifecycle.tasks = s.count ConnectionTask.Stage.running

theorem toNat_le_count {p : ConnectionTask.Stage → Bool} {ts : List ConnectionTask} {i : Nat} {t : ConnectionTask}
    (ht : ts[i]? = some t) : (p t.stage).toNat ≤ ts.countP (fun t => p t.stage) := by
  cases hp : p t.stage with
  | false => exact Nat.zero_le _
  | true => exact List.countP_pos_iff.2 ⟨t, List.mem_of_getElem? ht, hp⟩

theorem count_set {p : ConnectionTask.Stage → Bool} {ts : List ConnectionTask} {i : Nat} {t t' : ConnectionTask}
    (ht : ts[i]? = some t) :
    (ts.set i t').countP (fun t => p t.stage) + (p t.stage).toNat =
      ts.countP (fun t => p t.stage) + (p t'.stage).toNat := by
  have hle := toNat_le_count (p := p) ht
  obtain ⟨hi, rfl⟩ := List.getElem?_eq_some_iff.1 ht
  rw [List.countP_set hi]
  cases hold : p ts[i].stage <;> cases p t'.stage <;>
    simp only [hold, Bool.toNat_true, Bool.toNat_false, if_true, Bool.false_eq_true, if_false] at hle ⊢ <;> omega

theorem counted_start (address : SocketAddress) (timeout : Duration) : (start address timeout).Counted :=
  ⟨rfl, rfl, rfl⟩

theorem counted_step {s s' : Server} {m : Move} (hstep : Step s m s') (h : s.Counted) : s'.Counted := by
  obtain ⟨hlocks, hregistering, htasks⟩ := h
  cases hstep with
  | accept peer hstage | noticeShutdown hstage _ | stop hstage _ =>
      rw [hstage] at hlocks hregistering
      exact ⟨hlocks, hregistering, htasks⟩
  | acceptFails hstage => exact ⟨hlocks, hregistering, htasks⟩
  | leave hstage =>
      rw [hstage] at hlocks hregistering
      exact ⟨hlocks, hregistering, htasks⟩
  | register peer hstage =>
      rw [hstage] at hlocks hregistering
      exact ⟨hlocks, congrArg (· + 1) hregistering, htasks⟩
  | grant peer hstage hcancelled =>
      rw [hstage] at hlocks hregistering
      rw [Lifecycle.test_granted hcancelled]
      exact ⟨congrArg (· + 1) hlocks, congrArg (· - 1) hregistering, htasks⟩
  | refuse peer hstage hcancelled =>
      rw [hstage] at hlocks hregistering
      rw [Lifecycle.test_refused hcancelled]
      exact ⟨hlocks, congrArg (· - 1) hregistering, htasks⟩
  | spawn peer hstage =>
      rw [hstage] at hlocks hregistering
      have hcount : ∀ p : ConnectionTask.Stage → Bool, (s.spawnTask peer).count p = s.count p + (p .spawned).toNat := by
        intro p
        rw [count, spawnTask, List.countP_append, List.countP_singleton]
        cases hp : p .spawned <;> simp [count, ConnectionTask.spawned, hp]
      constructor
      · rw [hcount]; exact hlocks
      · rw [hcount]; exact hregistering
      · rw [hcount]; exact congrArg (· + 1) htasks
  | task i m t t' l r ht htask =>
      obtain ⟨next, htask, _⟩ := ConnectionTask.step?_cases htask
      -- What the task has is part of the counts, so they can be lowered by it.
      have hguarded := toNat_le_count (p := ConnectionTask.Stage.guarded) ht
      have hwaiting := toNat_le_count (p := ConnectionTask.Stage.registering) ht
      have hrunning := toNat_le_count (p := ConnectionTask.Stage.running) ht
      have hcount : ∀ p : ConnectionTask.Stage → Bool,
          (s.withTask i t' l (r.map (t'.connection.info, ·)).toList).count p + (p t.stage).toNat =
            s.count p + (p t'.stage).toNat := fun p => count_set ht
      have hset := htask.counts (by rw [hlocks, count]; omega) (by rw [hregistering, count]; omega)
        (by rw [htasks, count]; omega)
      have hg := hcount ConnectionTask.Stage.guarded
      have hw := hcount ConnectionTask.Stage.registering
      have hr := hcount ConnectionTask.Stage.running
      simp only [withTask] at hg hw hr ⊢
      constructor <;> simp only <;> omega
  | cancel => exact ⟨hlocks, hregistering, htasks⟩
  | close _ => exact ⟨hlocks, hregistering, htasks⟩

theorem counted_run {address : SocketAddress} {timeout : Duration} {moves : List Move} {s : Server}
    (hrun : (start address timeout).run? moves = some s) : s.Counted :=
  run?_induction (counted_start address timeout) (fun _ _ _ _ _ h hstep => counted_step hstep h) hrun

end PairedTls.Server
