import PairedTls.Proofs.ServerSteps

namespace PairedTls.Server

def infos (s : Server) : List ConnectionInfo :=
  s.tasks.map fun t => t.connection.info

def assigned (address : SocketAddress) (peers : List SocketAddress) : List ConnectionInfo :=
  peers.mapIdx fun i peer => ⟨i + 1, peer, address⟩

def accepts (moves : List Move) : List SocketAddress :=
  moves.filterMap fun
    | .accept peer => some peer
    | _ => none

/-- Accepted, and neither spawned nor turned away. -/
def Stage.pending : Stage → List SocketAddress
  | .accepted peer | .registered peer | .admitted peer => [peer]
  | _ => []

def Stage.closing : Stage → Bool
  | .leaving | .draining | .stopped => true
  | _ => false

theorem pending_closing (stage : Stage) : stage.pending.length + stage.closing.toNat ≤ 1 := by
  cases stage <;> exact Nat.le_of_ble_eq_true rfl

structure Numbered (address : SocketAddress) (moves : List Move) (s : Server) : Prop where
  listener : s.address = address
  lastId : s.lastId = s.tasks.length
  infos : s.infos = assigned address (s.infos.map ConnectionInfo.peer)
  accepts : ∃ lost, accepts moves = s.infos.map ConnectionInfo.peer ++ s.stage.pending ++ lost ∧
    lost.length ≤ s.stage.closing.toNat

variable {address : SocketAddress} {timeout : Duration} {moves : List Move} {s s' : Server} {m : Move}

theorem accepts_concat (moves : List Move) (m : Move) : accepts (moves ++ [m]) = accepts moves ++ accepts [m] := by
  rw [accepts, List.filterMap_append]
  rfl

theorem infos_withTask {i : Nat} {t t' : ConnectionTask} (ht : s.tasks[i]? = some t)
    (hinfo : t'.connection.info = t.connection.info) (l : Lifecycle)
    (reports : List (ConnectionInfo × ConnectionError)) : (s.withTask i t' l reports).infos = s.infos := by
  obtain ⟨hi, rfl⟩ := List.getElem?_eq_some_iff.1 ht
  have hi' : i < (s.tasks.map fun t => t.connection.info).length := by simpa using hi
  have hsame : s.tasks[i].connection.info = (s.tasks.map fun t => t.connection.info)[i] := by simp
  rw [infos, withTask, List.map_set, hinfo, hsame, List.set_getElem_self]
  rfl

theorem assigned_concat (peers : List SocketAddress) (peer : SocketAddress) :
    assigned address (peers ++ [peer]) = assigned address peers ++ [⟨peers.length + 1, peer, address⟩] := by
  simp [assigned]

theorem numbered_start (address : SocketAddress) (timeout : Duration) : Numbered address [] (start address timeout) :=
  ⟨rfl, rfl, rfl, [], rfl, Nat.le_refl 0⟩

theorem numbered_same (h : Numbered address moves s) (haddress : s'.address = s.address) (hlast : s'.lastId = s.lastId)
    (htasks : s'.tasks.length = s.tasks.length) (hinfos : s'.infos = s.infos) (hm : accepts [m] = [])
    (hpending : s'.stage.pending = s.stage.pending) (hclosing : s.stage.closing.toNat ≤ s'.stage.closing.toNat) :
    Numbered address (moves ++ [m]) s' where
  listener := haddress.trans h.listener
  lastId := by rw [hlast, htasks, h.lastId]
  infos := by rw [hinfos]; exact h.infos
  accepts := by
    obtain ⟨lost, haccepts, hlost⟩ := h.accepts
    refine ⟨lost, ?_, Nat.le_trans hlost hclosing⟩
    rw [accepts_concat, hm, List.append_nil, hinfos, hpending, haccepts]

theorem numbered_step (h : Numbered address moves s) (hstep : Step s m s') : Numbered address (moves ++ [m]) s' := by
  -- Only accepting, turning away and spawning touch the ids or those who wait for one.
  cases hstep with
  | accept peer hstage =>
      obtain ⟨lost, haccepts, hlost⟩ := h.accepts
      rw [hstage] at haccepts hlost
      obtain rfl := List.eq_nil_of_length_eq_zero (Nat.le_zero.1 hlost)
      refine ⟨h.listener, h.lastId, h.infos, [], ?_, Nat.le_refl 0⟩
      rw [accepts_concat, haccepts]
      simp [Stage.pending, accepts, infos]
  | acceptFails hstage => exact numbered_same h rfl rfl rfl rfl rfl rfl (Nat.le_refl _)
  | noticeShutdown hstage _ =>
      refine numbered_same h rfl rfl rfl rfl rfl ?_ ?_
      · rw [hstage]; rfl
      · rw [hstage]; exact Nat.zero_le _
  | register peer hstage =>
      refine numbered_same h rfl rfl rfl rfl rfl ?_ ?_
      · rw [hstage]; rfl
      · rw [hstage]; exact Nat.zero_le _
  | grant peer hstage _ =>
      refine numbered_same h rfl rfl rfl rfl rfl ?_ ?_
      · rw [hstage]; rfl
      · rw [hstage]; exact Nat.zero_le _
  | refuse peer hstage _ =>
      obtain ⟨lost, haccepts, hlost⟩ := h.accepts
      rw [hstage] at haccepts hlost
      obtain rfl := List.eq_nil_of_length_eq_zero (Nat.le_zero.1 hlost)
      refine ⟨h.listener, h.lastId, h.infos, [peer], ?_, Nat.le_refl 1⟩
      rw [accepts_concat, haccepts]
      simp [Stage.pending, accepts, infos]
  | spawn peer hstage =>
      obtain ⟨lost, haccepts, hlost⟩ := h.accepts
      rw [hstage] at haccepts hlost
      obtain rfl := List.eq_nil_of_length_eq_zero (Nat.le_zero.1 hlost)
      have hinfos : (s.spawnTask peer).infos = s.infos ++ [⟨s.infos.length + 1, peer, address⟩] := by
        simp [infos, spawnTask, ConnectionTask.spawned, Connection.accepted, h.listener, h.lastId]
      constructor
      · exact h.listener
      · simp [spawnTask, h.lastId]
      · rw [hinfos, List.map_append, List.map_singleton, assigned_concat, ← h.infos, List.length_map]
      · refine ⟨[], ?_, Nat.zero_le _⟩
        rw [accepts_concat, haccepts, hinfos]
        simp [Stage.pending, accepts, spawnTask]
  | leave hstage =>
      refine numbered_same h rfl rfl rfl rfl rfl ?_ ?_
      · rw [hstage]; rfl
      · rw [hstage]; exact Nat.le_refl 1
  | stop hstage _ =>
      refine numbered_same h rfl rfl rfl rfl rfl ?_ ?_
      · rw [hstage]; rfl
      · rw [hstage]; exact Nat.le_refl 1
  | task i m t t' l r ht htask =>
      have hinfos := infos_withTask ht (ConnectionTask.info_step htask) l (r.map (t'.connection.info, ·)).toList
      exact numbered_same h rfl rfl List.length_set hinfos rfl rfl (Nat.le_refl _)
  | cancel => exact numbered_same h rfl rfl rfl rfl rfl rfl (Nat.le_refl _)
  | close _ => exact numbered_same h rfl rfl rfl rfl rfl rfl (Nat.le_refl _)

theorem numbered_run (hrun : (start address timeout).run? moves = some s) : Numbered address moves s :=
  run?_induction (numbered_start address timeout) (fun _ _ _ _ _ h hstep => numbered_step h hstep) hrun

theorem id_of_getElem? (h : Numbered address moves s) {i : Nat} {t : ConnectionTask} (ht : s.tasks[i]? = some t) :
    t.connection.info.id = i + 1 := by
  have hinfo : s.infos[i]? = some t.connection.info := by simp [infos, ht]
  rw [h.infos, assigned, List.getElem?_mapIdx, Option.map_eq_some_iff] at hinfo
  obtain ⟨peer, _, hinfo⟩ := hinfo
  rw [← hinfo]

/-- All that the loop looks at. -/
structure View where
  stage : Stage
  cancelled : Bool
  lastId : Nat
  infos : List ConnectionInfo

def view (s : Server) : View :=
  ⟨s.stage, s.lifecycle.cancelled, s.lastId, s.infos⟩

def View.next (address : SocketAddress) (v : View) : Move → View
  | .accept peer => { v with stage := .accepted peer }
  | .noticeShutdown => { v with stage := .leaving }
  | .register =>
    match v.stage with
    | .accepted peer => { v with stage := .registered peer }
    | _ => v
  | .test =>
    match v.stage with
    | .registered peer => { v with stage := if v.cancelled then .leaving else .admitted peer }
    | _ => v
  | .spawn =>
    match v.stage with
    | .admitted peer =>
      { v with stage := .waiting, lastId := v.lastId + 1, infos := v.infos ++ [⟨v.lastId + 1, peer, address⟩] }
    | _ => v
  | .leave => { v with stage := .draining, cancelled := true }
  | .stop => { v with stage := .stopped }
  | .cancel => { v with cancelled := true }
  | .acceptFails | .close | .task .. => v

def Move.ofTask : Move → Bool
  | .task .. => true
  | _ => false

theorem view_step (haddress : s.address = address) (hstep : Step s m s') : s'.view = s.view.next address m := by
  cases hstep with
  | accept _ _ | acceptFails _ | noticeShutdown _ _ | leave _ | stop _ _ | cancel | close _ => rfl
  | register peer hstage => simp [view, View.next, hstage, Lifecycle.register, infos]
  | grant peer hstage hcancelled =>
      rw [Lifecycle.test_granted hcancelled]
      simp [view, View.next, hstage, hcancelled, infos]
  | refuse peer hstage hcancelled =>
      rw [Lifecycle.test_refused hcancelled]
      simp [view, View.next, hstage, hcancelled, infos]
  | spawn peer hstage =>
      simp [view, View.next, hstage, spawnTask, infos, ConnectionTask.spawned, Connection.accepted, haddress,
        Lifecycle.spawn]
  | task i m t t' l r ht htask =>
      obtain ⟨next, hcounts, _⟩ := ConnectionTask.step?_cases htask
      have hinfos := infos_withTask ht (ConnectionTask.info_step htask) l (r.map (t'.connection.info, ·)).toList
      rw [view, hinfos, View.next, view]
      simp only [withTask, hcounts.cancelled]

theorem view_run (hrun : (start address timeout).run? moves = some s) :
    s.view = (moves.filter (!·.ofTask)).foldl (·.next address ·) (start address timeout).view := by
  apply run?_induction
    (P := fun moves s => s.view = (moves.filter (!·.ofTask)).foldl (·.next address ·) (start address timeout).view)
    rfl ?_ hrun
  intro moves s m s' hrun h hstep
  rw [view_step (numbered_run hrun).listener hstep, h, List.filter_append, List.foldl_append]
  cases m <;> rfl

/-- What the loop can do is up to its own view, but for the end of its waiting. -/
theorem step_alike {u : Server} (hview : s.view = u.view) (haddress : s.address = u.address) (hstep : Step s m s')
    (htask : m.ofTask = false) (hstop : m ≠ .stop) : ∃ u', Step u m u' ∧ s'.view = u'.view := by
  have hstage : u.stage = s.stage := (congrArg View.stage hview).symm
  have hcancel : u.lifecycle.cancelled = s.lifecycle.cancelled := (congrArg View.cancelled hview).symm
  obtain ⟨u', hu⟩ : ∃ u', Step u m u' := by
    cases hstep with
    | accept peer h => exact ⟨_, .accept peer (hstage.trans h)⟩
    | acceptFails h => exact ⟨_, .acceptFails (hstage.trans h)⟩
    | noticeShutdown h hcancelled => exact ⟨_, .noticeShutdown (hstage.trans h) (hcancel.trans hcancelled)⟩
    | register peer h => exact ⟨_, .register peer (hstage.trans h)⟩
    | grant peer h hcancelled => exact ⟨_, .grant peer (hstage.trans h) (hcancel.trans hcancelled)⟩
    | refuse peer h hcancelled => exact ⟨_, .refuse peer (hstage.trans h) (hcancel.trans hcancelled)⟩
    | spawn peer h => exact ⟨_, .spawn peer (hstage.trans h)⟩
    | leave h => exact ⟨_, .leave (hstage.trans h)⟩
    | stop _ _ => exact absurd rfl hstop
    | task _ _ _ _ _ _ _ _ => cases htask
    | cancel => exact ⟨_, .cancel⟩
    | close hcancelled => exact ⟨_, .close (hcancel.trans hcancelled)⟩
  refine ⟨u', hu, ?_⟩
  rw [view_step rfl hstep, view_step haddress.symm hu, hview]

/-- The moves that are left without any connection. -/
def Move.alone (m : Move) : Bool :=
  !m.ofTask && m != .stop

theorem run_alone (hrun : (start address timeout).run? moves = some s) :
    ∃ u, (start address timeout).run? (moves.filter Move.alone) = some u ∧ u.infos = s.infos ∧
      u.lifecycle.cancelled = s.lifecycle.cancelled ∧ (s.stage ≠ .stopped → s.view = u.view) := by
  apply run?_induction (P := fun moves s => ∃ u, (start address timeout).run? (moves.filter Move.alone) = some u ∧
    u.infos = s.infos ∧ u.lifecycle.cancelled = s.lifecycle.cancelled ∧ (s.stage ≠ .stopped → s.view = u.view))
    ⟨start address timeout, rfl, rfl, rfl, fun _ => rfl⟩ ?_ hrun
  intro moves s m s' hrun h hstep
  obtain ⟨u, hu, hinfos, hcancelled, hview⟩ := h
  have haddress := (numbered_run hrun).listener
  rw [List.filter_append]
  cases hm : m.alone with
  | false =>
      have hnone : [m].filter Move.alone = [] := List.filter_cons_of_neg (by simp [hm])
      rw [hnone, List.append_nil]
      refine ⟨u, hu, ?_⟩
      cases hstep with
      | task i m t t' l r ht htask =>
          have hsame := view_step haddress (.task i m t t' l r ht htask)
          have hsame : (s.withTask i t' l (r.map (t'.connection.info, ·)).toList).view = s.view := hsame
          rw [hsame]
          exact ⟨hinfos.trans (congrArg View.infos hsame).symm,
            hcancelled.trans (congrArg View.cancelled hsame).symm, hview⟩
      | stop hstage hends => exact ⟨hinfos, hcancelled, fun h => absurd rfl h⟩
      | _ => cases hm
  | true =>
      have hone : [m].filter Move.alone = [m] := List.filter_cons_of_pos hm
      rw [hone, run?_concat, hu]
      have hparts : m.ofTask = false ∧ m ≠ .stop := by simpa [Move.alone] using hm
      by_cases hstopped : s.stage = .stopped
      · -- Nothing but a shutdown can still be asked for.
        cases hstep with
        | cancel => exact ⟨_, rfl, hinfos, rfl, fun h => absurd hstopped h⟩
        | close hclose =>
            exact ⟨_, (Step.close (hcancelled.trans hclose)).step?_eq, hinfos, hcancelled, fun h => absurd hstopped h⟩
        | task _ _ _ _ _ _ _ _ => cases hparts.1
        | accept _ hstage | acceptFails hstage | noticeShutdown hstage _ | register _ hstage | grant _ hstage _
        | refuse _ hstage _ | spawn _ hstage | leave hstage | stop hstage _ => cases hstopped.symm.trans hstage
      · obtain ⟨u', hstep', hview'⟩ := step_alike (hview hstopped)
          (haddress.trans (numbered_run hu).listener.symm) hstep hparts.1 hparts.2
        exact ⟨u', hstep'.step?_eq, (congrArg View.infos hview').symm, (congrArg View.cancelled hview').symm,
          fun _ => hview'⟩

/-- What a task starts with and keeps through its own steps holds of all tasks after a step of the server. -/
theorem tasks_step {P : ConnectionTask → Prop} (hstep : Step s m s')
    (hnew : ∀ info, P (.spawned info s.requestTimeout))
    (hkeep : ∀ i move t t' l r, m = .task (i + 1) move → t ∈ s.tasks → t.step? s.lifecycle move = some (t', l, r) →
      P t → P t') (h : ∀ t ∈ s.tasks, P t) : ∀ t ∈ s'.tasks, P t := by
  cases hstep with
  | spawn peer hstage =>
      intro t ht
      rw [spawnTask, List.mem_append, List.mem_singleton] at ht
      rcases ht with ht | rfl
      · exact h t ht
      · exact hnew _
  | task i move t t' l r ht htask =>
      intro u hu
      rcases List.mem_or_eq_of_mem_set hu with hu | rfl
      · exact h u hu
      · have htmem := List.mem_of_getElem? ht
        exact hkeep i move t _ l r rfl htmem htask (h t htmem)
  | _ => exact h

theorem orderly_run (hrun : (start address timeout).run? moves = some s) : ∀ t ∈ s.tasks, t.Orderly := by
  apply run?_induction (P := fun _ s => ∀ t ∈ s.tasks, t.Orderly) (fun _ ht => absurd ht List.not_mem_nil) ?_ hrun
  intro moves s m s' _ h hstep
  apply tasks_step hstep ?_ ?_ h
  · exact fun info => ConnectionTask.orderly_spawned info _
  · exact fun _ _ _ _ _ _ _ _ htask horderly => ConnectionTask.orderly_step horderly htask

structure Reported (s : Server) : Prop where
  once : (s.reports.map fun r => r.1.id).Nodup
  past : ∀ r ∈ s.reports, ∃ i t, r.1.id = i + 1 ∧ s.tasks[i]? = some t ∧ t.stage.past = true

theorem past_of_locked {stage : ConnectionTask.Stage} (h : stage.locked = true) : stage.past = false := by
  cases stage <;> first | rfl | cases h

theorem past_withTask {i j : Nat} {t t' u : ConnectionTask} {l : Lifecycle} {m : ConnectionTask.Move}
    {r : Option ConnectionError} (ht : s.tasks[i]? = some t) (htask : t.step? s.lifecycle m = some (t', l, r))
    (hu : s.tasks[j]? = some u) (hpast : u.stage.past = true) :
    ∃ u', (s.tasks.set i t')[j]? = some u' ∧ u'.stage.past = true := by
  by_cases hij : i = j
  · subst hij
    obtain ⟨next, hstep, _⟩ := ConnectionTask.step?_cases htask
    rw [ht] at hu
    cases hu
    have hi := (List.getElem?_eq_some_iff.1 ht).1
    exact ⟨t', List.getElem?_set_self hi, (hstep.past hpast).1⟩
  · exact ⟨u, by rw [List.getElem?_set_ne hij, hu], hpast⟩

theorem reported_step (hnumbered : Numbered address moves s) (h : Reported s) (hstep : Step s m s') : Reported s' := by
  cases hstep with
  | spawn peer hstage =>
      refine ⟨h.once, ?_⟩
      intro r hr
      obtain ⟨i, t, hid, ht, hpast⟩ := h.past r hr
      have hi := (List.getElem?_eq_some_iff.1 ht).1
      exact ⟨i, t, hid, by rw [spawnTask, List.getElem?_append_left hi, ht], hpast⟩
  | task i m t t' l r ht htask =>
      have hold : ∀ r ∈ s.reports, ∃ j u, r.1.id = j + 1 ∧ (s.tasks.set i t')[j]? = some u ∧ u.stage.past = true := by
        intro r hr
        obtain ⟨j, u, hid, hu, hpast⟩ := h.past r hr
        obtain ⟨u', hu', hpast'⟩ := past_withTask ht htask hu hpast
        exact ⟨j, u', hid, hu', hpast'⟩
      cases r with
      | none => exact ⟨h.once, hold⟩
      | some e =>
          obtain ⟨next, hstep, _⟩ := ConnectionTask.step?_cases htask
          obtain ⟨hlocked, hending⟩ := hstep.reported
          have hid : t'.connection.info.id = i + 1 := by
            rw [ConnectionTask.info_step htask]
            exact id_of_getElem? hnumbered ht
          constructor
          · change ((t'.connection.info.id) :: s.reports.map fun r => r.1.id).Nodup
            refine List.nodup_cons.2 ⟨?_, h.once⟩
            intro hmem
            -- Whoever has this id is past its report, but the task had its guard a moment ago.
            obtain ⟨r, hr, hsame⟩ := List.mem_map.1 hmem
            obtain ⟨j, u, hj, hu, hpast⟩ := h.past r hr
            obtain rfl : j = i := by omega
            rw [ht] at hu
            cases hu
            rw [past_of_locked hlocked] at hpast
            cases hpast
          · intro r hr
            rcases List.mem_cons.1 hr with rfl | hr
            · have hi := (List.getElem?_eq_some_iff.1 ht).1
              exact ⟨i, t', hid, List.getElem?_set_self hi, by rw [hending]; rfl⟩
            · exact hold r hr
  | _ => exact ⟨h.once, h.past⟩

theorem reported_start (address : SocketAddress) (timeout : Duration) : Reported (start address timeout) :=
  ⟨List.nodup_nil, fun _ hr => absurd hr List.not_mem_nil⟩

theorem reported_run (hrun : (start address timeout).run? moves = some s) : Reported s := by
  apply run?_induction (P := fun _ s => Reported s) (reported_start address timeout) ?_ hrun
  intro moves s m s' hrun h hstep
  exact reported_step (numbered_run hrun) h hstep

/-- A task took its second guard before shutdown began and has had it ever since. -/
def Granted (address : SocketAddress) (timeout : Duration) (id : Nat) (moves : List Move) : Prop :=
  ∃ earlier later before, moves = earlier ++ .task id .test :: later ∧
    (start address timeout).run? earlier = some before ∧ before.lifecycle.cancelled = false ∧
      ∀ part, part <+: later → ∃ s t, (start address timeout).run? (earlier ++ .task id .test :: part) = some s ∧
        s.tasks[id - 1]? = some t ∧ t.stage.locked = true

theorem granted_extend {id : Nat} (h : Granted address timeout id moves) (hrun : (start address timeout).run? (moves ++ [m]) = some s)
    {t : ConnectionTask} (ht : s.tasks[id - 1]? = some t) (hlocked : t.stage.locked = true) :
    Granted address timeout id (moves ++ [m]) := by
  obtain ⟨earlier, later, before, rfl, hbefore, hcancelled, hparts⟩ := h
  refine ⟨earlier, later ++ [m], before, by simp, hbefore, hcancelled, ?_⟩
  intro part hpart
  rcases List.prefix_concat_iff.1 hpart with rfl | hpart
  · exact ⟨s, t, by simpa using hrun, ht, hlocked⟩
  · exact hparts part hpart

theorem granted_run (hrun : (start address timeout).run? moves = some s) :
    ∀ i t, s.tasks[i]? = some t → t.stage.locked = true → Granted address timeout (i + 1) moves := by
  induction moves using List.reverseRecOn generalizing s with
  | nil =>
      cases hrun
      intro i t ht
      cases ht
  | append_singleton moves m ih =>
      have hlast := hrun
      rw [run?_concat] at hlast
      obtain ⟨middle, hmoves, hlast⟩ := Option.bind_eq_some_iff.1 hlast
      have hbefore := ih hmoves
      have hstep := step?_cases hlast
      intro j u hu hlocked
      -- A task that had its second guard before the last move has it still.
      have hkeep : ∀ u', middle.tasks[j]? = some u' → u'.stage.locked = true → Granted address timeout (j + 1) (moves ++ [m]) :=
        fun u' hu' hlocked' => granted_extend (hbefore j u' hu' hlocked') hrun hu hlocked
      cases hstep with
      | spawn peer hstage =>
          by_cases hj : j < middle.tasks.length
          · rw [spawnTask, List.getElem?_append_left hj] at hu
            exact hkeep u hu hlocked
          · rw [spawnTask, List.getElem?_append_right (Nat.not_lt.1 hj), List.getElem?_singleton] at hu
            split at hu
            · cases hu; cases hlocked
            · cases hu
      | task i m t t' l r ht htask =>
          obtain ⟨next, htask, _⟩ := ConnectionTask.step?_cases htask
          by_cases hij : i = j
          · subst hij
            have hi := (List.getElem?_eq_some_iff.1 ht).1
            have hu' := hu
            rw [withTask, List.getElem?_set_self hi] at hu'
            cases hu'
            rcases htask.locked hlocked with hlocked' | ⟨rfl, hcancelled⟩
            · exact hkeep t ht hlocked'
            · refine ⟨moves, [], middle, rfl, hmoves, hcancelled, ?_⟩
              intro part hpart
              obtain rfl := List.prefix_nil.1 hpart
              exact ⟨_, u, hrun, hu, hlocked⟩
          · apply hkeep u
            · rwa [withTask, List.getElem?_set_ne hij] at hu
            · exact hlocked
      | _ => exact hkeep u hu hlocked

theorem requestTimeout_run (hrun : (start address timeout).run? moves = some s) :
    s.requestTimeout = timeout ∧ ∀ t ∈ s.tasks, t.requestTimeout = timeout := by
  apply run?_induction (P := fun _ s => s.requestTimeout = timeout ∧ ∀ t ∈ s.tasks, t.requestTimeout = timeout)
    ⟨rfl, fun _ ht => absurd ht List.not_mem_nil⟩ ?_ hrun
  intro moves s m s' _ h hstep
  constructor
  · cases hstep <;> exact h.1
  · apply tasks_step hstep ?_ ?_ h.2
    · exact fun _ => h.1
    · exact fun _ _ _ _ _ _ _ _ htask hsame => (ConnectionTask.requestTimeout_step htask).trans hsame

/-- One of the moves of a task is a look for idleness that overflows. -/
def Overflowed (address : SocketAddress) (timeout : Duration) (id : Nat) (moves : List Move) : Prop :=
  ∃ earlier m later before t, moves = earlier ++ .task id m :: later ∧
    (start address timeout).run? earlier = some before ∧ before.tasks[id - 1]? = some t ∧ t.Overflows m

theorem overflowed_concat (hrun : (start address timeout).run? moves = some s) {id : Nat} :
    Overflowed address timeout id (moves ++ [m]) ↔
      Overflowed address timeout id moves ∨
        ∃ move t, m = .task id move ∧ s.tasks[id - 1]? = some t ∧ t.Overflows move := by
  constructor
  · rintro ⟨earlier, move, later, before, t, hmoves, hbefore, ht, hover⟩
    rcases List.eq_nil_or_concat' later with rfl | ⟨later, last, rfl⟩
    · obtain ⟨rfl, hm⟩ := List.append_inj' hmoves rfl
      cases hm
      cases hrun.symm.trans hbefore
      exact .inr ⟨move, t, rfl, ht, hover⟩
    · rw [← List.cons_append, ← List.append_assoc] at hmoves
      obtain ⟨rfl, -⟩ := List.append_inj' hmoves rfl
      exact .inl ⟨earlier, move, later, before, t, rfl, hbefore, ht, hover⟩
  · rintro (⟨earlier, move, later, before, t, rfl, hbefore, ht, hover⟩ | ⟨move, t, rfl, ht, hover⟩)
    · exact ⟨earlier, move, later ++ [m], before, t, by simp, hbefore, ht, hover⟩
    · exact ⟨moves, move, [], s, t, rfl, hrun, ht, hover⟩

def cutOff (s : Server) (i : Nat) : Prop :=
  ∃ t, s.tasks[i]? = some t ∧ t.stage.cutOff = true

theorem cutOff_of_getElem? {i : Nat} {t : ConnectionTask} (ht : s.tasks[i]? = some t) :
    s.cutOff i ↔ t.stage.cutOff = true := by
  refine ⟨?_, fun h => ⟨t, ht, h⟩⟩
  rintro ⟨u, hu, hcut⟩
  cases ht.symm.trans hu
  exact hcut

theorem cutOff_step (hstep : Step s m s') (i : Nat) :
    s'.cutOff i ↔ s.cutOff i ∨ ∃ move t, m = .task (i + 1) move ∧ s.tasks[i]? = some t ∧ t.Overflows move := by
  cases hstep with
  | spawn peer hstage =>
      rw [or_iff_left (by rintro ⟨_, _, hm, _⟩; cases hm)]
      by_cases hi : i < s.tasks.length
      · rw [cutOff, spawnTask, List.getElem?_append_left hi]
        rfl
      · -- The new task has not begun, and there was none before.
        rw [cutOff, cutOff, spawnTask, List.getElem?_append_right (Nat.not_lt.1 hi), List.getElem?_singleton,
          List.getElem?_eq_none (Nat.not_lt.1 hi)]
        refine ⟨?_, by rintro ⟨_, ht, _⟩; cases ht⟩
        rintro ⟨t, ht, hcut⟩
        split at ht
        · cases ht; cases hcut
        · cases ht
  | task j move t t' l r ht htask =>
      by_cases hij : j = i
      · subst hij
        have hj := (List.getElem?_eq_some_iff.1 ht).1
        rw [cutOff_of_getElem? (List.getElem?_set_self hj), cutOff_of_getElem? ht, ConnectionTask.cutOff_step htask]
        refine or_congr_right ⟨fun hover => ⟨move, t, rfl, ht, hover⟩, ?_⟩
        rintro ⟨move', u, hm, hu, hover⟩
        cases hm
        cases ht.symm.trans hu
        exact hover
      · rw [or_iff_left (by rintro ⟨_, _, hm, _⟩; cases hm; exact hij rfl), cutOff, withTask,
          List.getElem?_set_ne hij]
        rfl
  | _ => exact (or_iff_left (by rintro ⟨_, _, hm, _⟩; cases hm)).symm

theorem cutOff_run (hrun : (start address timeout).run? moves = some s) (i : Nat) :
    s.cutOff i ↔ Overflowed address timeout (i + 1) moves := by
  apply run?_induction (P := fun moves s => s.cutOff i ↔ Overflowed address timeout (i + 1) moves) ?_ ?_ hrun
  · constructor
    · rintro ⟨_, ht, _⟩
      cases ht
    · rintro ⟨earlier, _, _, _, _, hmoves, _⟩
      cases earlier <;> cases hmoves
  · intro moves s m s' hrun h hstep
    rw [overflowed_concat hrun, cutOff_step hstep, h]
    rfl

def Move.InRange (timeout : Duration) : Move → Prop
  | .task _ m => m.InRange timeout
  | _ => True

theorem timely_run (hrun : (start address timeout).run? moves = some s)
    (hrange : ∀ m ∈ moves, m.InRange timeout) : ∀ t ∈ s.tasks, t.stage.Timely timeout := by
  have hall : (∀ m ∈ moves, m.InRange timeout) → ∀ t ∈ s.tasks, t.stage.Timely timeout := by
    apply run?_induction
      (P := fun moves s => (∀ m ∈ moves, m.InRange timeout) → ∀ t ∈ s.tasks, t.stage.Timely timeout)
      (fun _ _ ht => absurd ht List.not_mem_nil) ?_ hrun
    intro moves s m s' hrun h hstep hrange
    apply tasks_step hstep ?_ ?_ (h fun m hm => hrange m (List.mem_append_left _ hm))
    · exact fun _ => trivial
    · rintro i move t t' l r rfl ht htask htimely
      obtain ⟨next, htask, _⟩ := ConnectionTask.step?_cases htask
      rw [(requestTimeout_run hrun).2 t ht] at htask
      exact htask.timely (hrange _ (List.mem_append_right _ List.mem_cons_self)) htimely
  exact hall hrange

/-- Nothing is left that could take a step. -/
structure Finished (s : Server) : Prop where
  stopped : s.stage = .stopped
  ended : ∀ t ∈ s.tasks, t.stage.running = false

theorem finished_step (h : Finished s) (hstep : Step s m s') : Finished s' ∧ s'.reports = s.reports := by
  obtain ⟨hstopped, hended⟩ := h
  cases hstep with
  | task i m t t' l r ht htask =>
      obtain ⟨next, htask, _⟩ := ConnectionTask.step?_cases htask
      cases htask.running.symm.trans (hended t (List.mem_of_getElem? ht))
  | cancel => exact ⟨⟨hstopped, hended⟩, rfl⟩
  | close _ => exact ⟨⟨hstopped, hended⟩, rfl⟩
  | accept _ hstage | acceptFails hstage | noticeShutdown hstage _ | register _ hstage | grant _ hstage _
  | refuse _ hstage _ | spawn _ hstage | leave hstage | stop hstage _ => cases hstopped.symm.trans hstage

theorem finished_of_stopped (hrun : (start address timeout).run? moves = some s) (hstopped : s.stage = .stopped) :
    Finished s := by
  have hall : s.stage = .stopped → Finished s := by
    have hwaiting : Stage.waiting ≠ .stopped := by decide
    apply run?_induction (P := fun _ s => s.stage = .stopped → Finished s) (fun h => absurd h hwaiting) ?_ hrun
    intro moves s m s' hrun h hstep hstopped
    by_cases hbefore : s.stage = .stopped
    · exact (finished_step (h hbefore) hstep).1
    · cases hstep with
      | stop hstage hends =>
          refine ⟨rfl, ?_⟩
          intro t ht
          have hcounted := counted_run hrun
          rw [Lifecycle.waitEnds, Lifecycle.tracked, Bool.and_eq_true, beq_iff_eq] at hends
          have hnone : s.count ConnectionTask.Stage.running = 0 := by
            rw [← hcounted.tasks]; omega
          exact Bool.eq_false_iff.2 (List.countP_eq_zero.1 hnone t ht)
      | task _ _ _ _ _ _ _ _ | cancel | close _ | acceptFails _ => exact absurd hstopped hbefore
      | accept _ _ | noticeShutdown _ _ | register _ _ | grant _ _ _ | refuse _ _ _ | spawn _ _ | leave _ =>
          cases hstopped
  exact hall hstopped

theorem finished_run (h : Finished s) (hrun : s.run? moves = some s') : Finished s' ∧ s'.reports = s.reports := by
  apply run?_induction (P := fun _ t => Finished t ∧ t.reports = s.reports) ⟨h, rfl⟩ ?_ hrun
  intro moves t m t' _ ht hstep
  obtain ⟨hfinished, hreports⟩ := finished_step ht.1 hstep
  exact ⟨hfinished, hreports.trans ht.2⟩

def Ended (t : ConnectionTask) : Prop :=
  t.stage = .done ∧ t.connection.state = .closed

/-- The task was cut off, with its connection as it was while requests were read. -/
def Abandoned (t : ConnectionTask) : Prop :=
  t.stage = .lost ∧ t.connection.state = .reading

theorem ended_or_abandoned {t : ConnectionTask} (horderly : t.Orderly) (hend : t.stage.running = false) :
    Ended t ∨ Abandoned t := by
  have hstate := horderly.state
  rcases ConnectionTask.Stage.not_running hend with hdone | hlost
  · rw [hdone] at hstate
    exact .inl ⟨hdone, hstate⟩
  · rw [hlost] at hstate
    exact .inr ⟨hlost, hstate⟩

/-- Every interleaving of the loop, its connections and shutdowns: ids follow the accepts and nothing else, a failure
is reported once and under a guard from before shutdown, and the loop outlasts its connections. When it stops, each
connection is closed, but for those whose task was cut off while reading, which are those that looked for idleness
with a deadline past what the clock can tell. -/
theorem serve_run (hrun : (start address timeout).run? moves = some s) :
    (s.infos = assigned address ((accepts moves).take s.tasks.length) ∧
        (accepts moves).length ≤ s.tasks.length + 1) ∧
      (∃ u, (start address timeout).run? (moves.filter Move.alone) = some u ∧ u.infos = s.infos) ∧
      (∀ moves' s', (start address timeout).run? moves' = some s' →
        moves.filter (!·.ofTask) = moves'.filter (!·.ofTask) → s.infos = s'.infos) ∧
      (s.reports.map fun r => r.1.id).Nodup ∧
      (∀ earlier m later before after, moves = earlier ++ m :: later →
        (start address timeout).run? earlier = some before → before.step? m = some after →
          after.reports = before.reports ∨
            ∃ i move t error, m = .task (i + 1) move ∧ before.tasks[i]? = some t ∧
              after.reports = (t.connection.info, error) :: before.reports ∧ t.connection.info.id = i + 1 ∧
                t.stage.locked = true ∧ 0 < before.lifecycle.locks ∧ Granted address timeout (i + 1) earlier) ∧
      (s.stage = .stopped →
        (∀ t ∈ s.tasks, Ended t ∨ Abandoned t) ∧
          (∀ i t, s.tasks[i]? = some t → (Abandoned t ↔ Overflowed address timeout (i + 1) moves)) ∧
          ((∀ m ∈ moves, m.InRange timeout) → ∀ t ∈ s.tasks, Ended t) ∧
          ∀ later s', s.run? later = some s' → s'.reports = s.reports) := by
  refine ⟨?_, ?_, ?_, ?_, ?_, ?_⟩
  · have hnumbered := numbered_run hrun
    obtain ⟨lost, haccepts, hlost⟩ := hnumbered.accepts
    have hlength : (s.infos.map ConnectionInfo.peer).length = s.tasks.length := by simp [infos]
    have hpending := pending_closing s.stage
    constructor
    · rw [haccepts, List.append_assoc, ← hlength, List.take_left]
      exact hnumbered.infos
    · rw [haccepts, List.length_append, List.length_append, hlength]
      omega
  · obtain ⟨u, hu, hinfos, _⟩ := run_alone hrun
    exact ⟨u, hu, hinfos⟩
  · intro moves' s' hrun' hsame
    have hview := view_run hrun
    rw [hsame, ← view_run hrun'] at hview
    exact congrArg View.infos hview
  · exact (reported_run hrun).once
  · -- Reports come from steps of tasks alone, each under the second guard.
    intro earlier m later before after _ hearlier hstep
    cases step?_cases hstep with
    | task i move t t' l r ht htask =>
        cases r with
        | none => exact .inl rfl
        | some error =>
            obtain ⟨next, hstep, _⟩ := ConnectionTask.step?_cases htask
            have hlocked := hstep.reported.1
            have hcounted := counted_run hearlier
            have hlocks : 0 < before.lifecycle.locks := by
              have hone := toNat_le_count (p := ConnectionTask.Stage.guarded) ht
              rw [ConnectionTask.Stage.guarded_of_locked hlocked] at hone
              rw [hcounted.locks]
              exact Nat.lt_of_lt_of_le hone (Nat.le_add_right _ _)
            refine .inr ⟨i, move, t, error, rfl, ht, ?_, id_of_getElem? (numbered_run hearlier) ht, hlocked, hlocks,
              granted_run hearlier i t ht hlocked⟩
            rw [← ConnectionTask.info_step htask]
            rfl
    | _ => exact .inl rfl
  · intro hstopped
    have hfinished := finished_of_stopped hrun hstopped
    have hends : ∀ t ∈ s.tasks, Ended t ∨ Abandoned t :=
      fun t ht => ended_or_abandoned (orderly_run hrun t ht) (hfinished.ended t ht)
    refine ⟨hends, ?_, ?_, fun later s' hlater => (finished_run hfinished hlater).2⟩
    · -- A task that was cut off stays cut off, so the last state tells which ones were.
      intro i t ht
      rw [← cutOff_run hrun i, cutOff_of_getElem? ht]
      rcases hends t (List.mem_of_getElem? ht) with ⟨hdone, hclosed⟩ | ⟨hlost, hreading⟩
      · rw [Abandoned, hdone]
        exact ⟨nofun, nofun⟩
      · rw [Abandoned, hlost]
        exact ⟨fun _ => rfl, fun _ => ⟨rfl, hreading⟩⟩
    · intro hrange t ht
      have htimely := timely_run hrun hrange t ht
      rcases hends t ht with hend | ⟨hlost, _⟩
      · exact hend
      · rw [hlost] at htimely
        exact htimely.elim

/-- Three connections: one runs out of time and is reported, one is served from the thousandth second on and looks for
idleness, and one is cut off by a shutdown. -/
def threeConnections (first second third : SocketAddress) : List Move :=
  [.acceptFails, .accept first, .register, .test, .spawn, .task 1 .start, .accept second, .register, .test, .spawn,
   .task 1 (.decide .timedOut), .task 1 .release, .task 2 .start, .task 2 (.decide (.session .anonymous)),
   .task 2 .release, .task 2 .register, .task 2 .test, .accept third, .register, .test, .spawn, .task 3 .start,
   .task 1 .register, .task 1 .test, .task 1 .settle, .task 2 .settle, .task 2 (.read ⟨1000000000000⟩),
   .task 2 (.look ⟨1000000000000⟩), .task 1 .report, .task 2 .leave, .cancel, .task 3 .abandon, .task 3 .leave,
   .noticeShutdown, .close, .leave, .task 1 .leave, .stop]

def localhost (port : Nat) : SocketAddress :=
  ⟨.v4 127 0 0 1, 0, port⟩

theorem serve_run_threeConnections :
    let info (id : Nat) : ConnectionInfo := ⟨id, localhost id, localhost 443⟩
    let longest : Duration := .ofSecs 18446744073709551615 (by decide)
    ∃ s, (start (localhost 443) longest).run? (threeConnections (localhost 1) (localhost 2) (localhost 3)) = some s ∧
      s.stage = .stopped ∧ s.infos = [info 1, info 2, info 3] ∧ s.reports = [(info 1, .timeout)] ∧
        s.tasks.map (fun t => t.connection.state) = [.closed, .reading, .closed] ∧
          Overflowed (localhost 443) longest 2 (threeConnections (localhost 1) (localhost 2) (localhost 3)) ∧
            ∀ later s', s.run? later = some s' → s'.reports = s.reports := by
  intro info longest
  have hends : ((start (localhost 443) longest).run? (threeConnections (localhost 1) (localhost 2) (localhost 3))).map
      (fun s => (s.stage, s.reports, s.tasks.map fun t => (t.stage, t.connection.state))) =
        some (.stopped, [(info 1, .timeout)], [(.done, .closed), (.lost, .reading), (.done, .closed)]) := by
    decide +kernel
  obtain ⟨s, hrun, hends⟩ := Option.map_eq_some_iff.1 hends
  simp only [Prod.mk.injEq] at hends
  obtain ⟨hstopped, hreports, htasks⟩ := hends
  obtain ⟨⟨hinfos, _⟩, _, _, _, _, hend⟩ := serve_run hrun
  obtain ⟨_, habandoned, _, hlater⟩ := hend hstopped
  have hlength : s.tasks.length = 3 := by simpa using congrArg List.length htasks
  rw [hlength] at hinfos
  obtain ⟨t, ht, hlost⟩ : ∃ t, s.tasks[1]? = some t ∧ (t.stage, t.connection.state) = (.lost, .reading) := by
    have hsecond := congrArg (·[1]?) htasks
    simpa using hsecond
  obtain ⟨hlost, hreading⟩ := Prod.mk.inj hlost
  refine ⟨s, hrun, hstopped, hinfos, hreports, ?_, (habandoned 1 t ht).1 ⟨hlost, hreading⟩, hlater⟩
  have hstates := congrArg (List.map Prod.snd) htasks
  rwa [List.map_map] at hstates

end PairedTls.Server
