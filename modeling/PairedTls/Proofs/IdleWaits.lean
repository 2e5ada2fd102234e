import Mathlib.Data.Finset.Card
import PairedTls.Idle
import PairedTls.Proofs.Sequences

namespace PairedTls.IdleTracker

/-- What the holders of a tracker do. Clones have one state, so it makes no difference through which of them. -/
inductive Call where
  | begin (guard : Nat)
  | drop (guard : Nat)
  deriving DecidableEq, Repr

def Call.activity : Call → Activity
  | .begin _ => .began
  | .drop _ => .ended

def live (calls : List (Instant × Call)) : Finset Nat :=
  calls.foldl (fun held call =>
    match call.2 with
    | .begin guard => insert guard held
    | .drop guard => held.erase guard) ∅

/-- Calls in the order of time, none before the tracker was made. A guard that is given out is not held yet,
and one that is dropped is held. -/
structure Schedule (created : Instant) (calls : List (Instant × Call)) : Prop where
  since : ∀ call ∈ calls, created.nanos ≤ call.1.nanos
  ordered : calls.Pairwise fun call later => call.1.nanos ≤ later.1.nanos
  fresh : ∀ front time guard rest, calls = front ++ (time, .begin guard) :: rest → guard ∉ live front
  held : ∀ front time guard rest, calls = front ++ (time, .drop guard) :: rest → guard ∈ live front

def after (created : Instant) (calls : List (Instant × Call)) : IdleTracker :=
  calls.foldl (fun t call => t.apply call.1 call.2.activity) (start created)

/-- No request is in flight, and what happened so far is a timeout back. -/
structure Idle (timeout : Duration) (created : Instant) (calls : List (Instant × Call)) (now : Instant) : Prop where
  quiet : live calls = ∅
  sinceCreated : created.nanos + timeout.totalNanos ≤ now.nanos
  sinceCalls : ∀ call ∈ calls, call.1.nanos + timeout.totalNanos ≤ now.nanos

def upTo (now : Instant) (calls : List (Instant × Call)) : List (Instant × Call) :=
  calls.filter fun call => decide (call.1.nanos ≤ now.nanos)

/-- What a schedule has for the time before `now`, and `ties` of what it has for `now` itself. -/
def catchUpTo (now : Instant) : Nat → IdleTracker → List (Instant × Activity) →
    IdleTracker × List (Instant × Activity)
  | _, t, [] => (t, [])
  | 0, t, (time, activity) :: rest =>
    if time.nanos < now.nanos then catchUpTo now 0 (t.apply time activity) rest
    else (t, (time, activity) :: rest)
  | ties + 1, t, (time, activity) :: rest =>
    if time.nanos < now.nanos then catchUpTo now (ties + 1) (t.apply time activity) rest
    else if time.nanos = now.nanos then catchUpTo now ties (t.apply time activity) rest
    else (t, (time, activity) :: rest)

/-- Waiting where `ties` says how many of the calls that fall on an instant come before the look at it. -/
def waitTied (ties : Instant → Nat) (timeout : Duration) :
    Nat → IdleTracker → Instant → List (Instant × Activity) → Wait
  | 0, _, _, _ => .unfinished
  | fuel + 1, t, now, schedule =>
    match t.poll timeout now with
    | .idle => .idleAt now t
    | .overflow => .overflow
    | .sleepUntil time =>
      let (t, later) := catchUpTo time (ties time) t schedule
      waitTied ties timeout fuel t time later

theorem catchUpTo_zero (now : Instant) (t : IdleTracker) (schedule : List (Instant × Activity)) :
    catchUpTo now 0 t schedule = t.catchUp now schedule := by
  induction schedule generalizing t with
  | nil => rfl
  | cons entry rest ih =>
      rw [catchUpTo, catchUp, ih]

theorem waitTied_none (timeout : Duration) (fuel : Nat) (t : IdleTracker) (now : Instant)
    (schedule : List (Instant × Activity)) :
    waitTied (fun _ => 0) timeout fuel t now schedule = wait timeout fuel t now schedule := by
  induction fuel generalizing t now schedule with
  | zero => rfl
  | succ fuel ih =>
      rw [waitTied, wait]
      cases t.poll timeout now with
      | idle => rfl
      | overflow => rfl
      | sleepUntil time => simp only [catchUpTo_zero, ih]

def activities (calls : List (Instant × Call)) : List (Instant × Activity) :=
  calls.map fun call => (call.1, call.2.activity)

theorem after_append (created : Instant) (calls more : List (Instant × Call)) :
    after created (calls ++ more) = more.foldl (fun t call => t.apply call.1 call.2.activity) (after created calls) :=
  List.foldl_append

theorem catchUpTo_split (created now : Instant) (ties : Nat) (seen : List (Instant × Call))
    {later : List (Instant × Call)}
    (hordered : later.Pairwise fun call next => call.1.nanos ≤ next.1.nanos) :
    ∃ middle rest, later = middle ++ rest ∧
      catchUpTo now ties (after created seen) (activities later) = (after created (seen ++ middle), activities rest) ∧
      (∀ call ∈ middle, call.1.nanos ≤ now.nanos) ∧ ∀ call ∈ rest, now.nanos ≤ call.1.nanos := by
  induction later generalizing ties seen with
  | nil => exact ⟨[], [], rfl, by cases ties <;> simp [catchUpTo, activities], nofun, nofun⟩
  | cons call later ih =>
      obtain ⟨hfirst, hrest⟩ := List.pairwise_cons.1 hordered
      -- Taking a call and stopping in front of it are the same whichever of the tests leads there.
      have hstep (ties : Nat) (hle : call.1.nanos ≤ now.nanos) : ∃ middle rest, call :: later = middle ++ rest ∧
          catchUpTo now ties ((after created seen).apply call.1 call.2.activity) (activities later) =
            (after created (seen ++ middle), activities rest) ∧
          (∀ call ∈ middle, call.1.nanos ≤ now.nanos) ∧ ∀ call ∈ rest, now.nanos ≤ call.1.nanos := by
        obtain ⟨middle, rest, hlater, hcatch, hmiddle, hrest⟩ := ih ties (seen ++ [call]) hrest
        refine ⟨call :: middle, rest, by rw [hlater]; rfl, ?_, ?_, hrest⟩
        · rw [after_append] at hcatch
          rw [List.append_assoc] at hcatch
          exact hcatch
        · exact List.forall_mem_cons.2 ⟨hle, hmiddle⟩
      have hstop (hge : now.nanos ≤ call.1.nanos) : ∃ middle rest, call :: later = middle ++ rest ∧
          (after created seen, activities (call :: later)) = (after created (seen ++ middle), activities rest) ∧
          (∀ call ∈ middle, call.1.nanos ≤ now.nanos) ∧ ∀ call ∈ rest, now.nanos ≤ call.1.nanos := by
        refine ⟨[], call :: later, rfl, by rw [List.append_nil], nofun, ?_⟩
        exact List.forall_mem_cons.2 ⟨hge, fun next hnext => Int.le_trans hge (hfirst next hnext)⟩
      rw [activities, List.map_cons]
      cases ties with
      | zero =>
          rw [catchUpTo]
          split
          · next hlt => exact hstep 0 (Int.le_of_lt hlt)
          · next hge => exact hstop (Int.not_lt.1 hge)
      | succ ties =>
          rw [catchUpTo]
          split
          · next hlt => exact hstep (ties + 1) (Int.le_of_lt hlt)
          · next hge =>
              split
              · next heq => exact hstep ties (Int.le_of_eq heq)
              · next hne => exact hstop (Int.not_lt.1 hge)

theorem live_append (calls : List (Instant × Call)) (call : Instant × Call) :
    live (calls ++ [call]) =
      match call.2 with
      | .begin guard => insert guard (live calls)
      | .drop guard => (live calls).erase guard := by
  rw [live, List.foldl_append]
  rfl

theorem Schedule.front {created : Instant} {calls more : List (Instant × Call)} (h : Schedule created (calls ++ more)) :
    Schedule created calls where
  since := fun call hcall => h.since call (List.mem_append_left more hcall)
  ordered := (List.pairwise_append.1 h.ordered).1
  fresh := fun front time guard rest hcalls => h.fresh front time guard (rest ++ more) (by simp [hcalls])
  held := fun front time guard rest hcalls => h.held front time guard (rest ++ more) (by simp [hcalls])

theorem schedule_nil (created : Instant) : Schedule created [] :=
  ⟨nofun, .nil, fun front _ _ _ h => absurd h (by simp), fun front _ _ _ h => absurd h (by simp)⟩

theorem Schedule.concat {created : Instant} {calls : List (Instant × Call)} (h : Schedule created calls)
    (call : Instant × Call) (hsince : created.nanos ≤ call.1.nanos)
    (hordered : ∀ earlier ∈ calls, earlier.1.nanos ≤ call.1.nanos)
    (hguard : match call.2 with
      | .begin guard => guard ∉ live calls
      | .drop guard => guard ∈ live calls) : Schedule created (calls ++ [call]) where
  since := by
    intro other hother
    rcases List.mem_append.1 hother with hother | hother
    · exact h.since other hother
    · rwa [List.mem_singleton.1 hother]
  ordered := List.pairwise_append.2 ⟨h.ordered, List.pairwise_singleton _ _, by simpa using hordered⟩
  fresh := by
    intro front time guard rest hsplit
    rcases concat_eq_split hsplit with ⟨rfl, rfl, -⟩ | ⟨before, -, hbefore⟩
    · exact hguard
    · exact h.fresh front time guard before hbefore
  held := by
    intro front time guard rest hsplit
    rcases concat_eq_split hsplit with ⟨rfl, rfl, -⟩ | ⟨before, -, hbefore⟩
    · exact hguard
    · exact h.held front time guard before hbefore

theorem inFlight_after {created : Instant} {calls : List (Instant × Call)} (h : Schedule created calls) :
    (after created calls).inFlight = (live calls).card := by
  induction calls using List.reverseRecOn with
  | nil => rfl
  | append_singleton calls call ih =>
      obtain ⟨time, kind⟩ := call
      have hcalls := ih h.front
      rw [after_append, live_append]
      cases kind with
      | begin guard =>
          have hfresh := h.fresh calls time guard [] rfl
          rw [Finset.card_insert_of_notMem hfresh, ← hcalls]
          rfl
      | drop guard =>
          have hheld := h.held calls time guard [] rfl
          rw [Finset.card_erase_of_mem hheld, ← hcalls]
          rfl

theorem last_after {created : Instant} {calls : List (Instant × Call)} (h : Schedule created calls) :
    created.nanos ≤ (after created calls).last.nanos ∧
      (∀ call ∈ calls, call.1.nanos ≤ (after created calls).last.nanos) ∧
        ((after created calls).last = created ∨ ∃ call ∈ calls, call.1 = (after created calls).last) := by
  induction calls using List.reverseRecOn with
  | nil => exact ⟨Int.le_refl _, nofun, .inl rfl⟩
  | append_singleton calls call ih =>
      have hlast : (after created (calls ++ [call])).last = call.1 := by
        rw [after_append]
        obtain ⟨time, kind⟩ := call
        cases kind <;> rfl
      rw [hlast]
      have hmem : call ∈ calls ++ [call] := List.mem_append_right calls List.mem_cons_self
      refine ⟨h.since call hmem, ?_, .inr ⟨call, hmem, rfl⟩⟩
      intro earlier hearlier
      rw [List.mem_append, List.mem_singleton] at hearlier
      rcases hearlier with hearlier | rfl
      · exact (List.pairwise_append.1 h.ordered).2.2 earlier hearlier call List.mem_cons_self
      · exact Int.le_refl _

theorem last_of_all {created : Instant} {calls : List (Instant × Call)} (h : Schedule created calls)
    (P : Instant → Prop) (hcreated : P created) (hcalls : ∀ call ∈ calls, P call.1) :
    P (after created calls).last := by
  rcases (last_after h).2.2 with hlast | ⟨call, hcall, hlast⟩
  · rwa [hlast]
  · rw [← hlast]
    exact hcalls call hcall

/-- A time from which the timeout still leads to a time that the clock can tell. -/
def InRange (timeout : Duration) (time : Instant) : Prop :=
  Instant.representable (time.nanos + timeout.totalNanos) = true

instance (timeout : Duration) (time : Instant) : Decidable (InRange timeout time) :=
  inferInstanceAs (Decidable (_ = true))

theorem representable_between {a b c : Int} (ha : Instant.representable a = true) (hc : Instant.representable c = true)
    (hab : a ≤ b) (hbc : b ≤ c) : Instant.representable b = true := by
  simp only [Instant.representable, decide_eq_true_eq,
    Int.fdiv_eq_ediv_of_nonneg _ (by decide : (0 : Int) ≤ 1000000000)] at ha hc ⊢
  omega

theorem add?_of_inRange {timeout : Duration} {time : Instant} (h : InRange timeout time) :
    time.add? timeout = some ⟨time.nanos + timeout.totalNanos⟩ :=
  if_pos h

variable {timeout : Duration} {created s : Instant} {calls : List (Instant × Call)}

/-- All that is asked of a schedule: its requests end, and the clock can tell the deadlines. -/
structure Ending (timeout : Duration) (created : Instant) (calls : List (Instant × Call)) : Prop where
  schedule : Schedule created calls
  positive : 0 < timeout.totalNanos
  rangeCreated : InRange timeout created
  rangeCalls : ∀ call ∈ calls, InRange timeout call.1
  ends : live calls = ∅

/-- Where a wait stands when it looks at the tracker. -/
structure Looking (timeout : Duration) (created s : Instant) (calls seen later : List (Instant × Call))
    (now : Instant) : Prop where
  split : calls = seen ++ later
  past : ∀ call ∈ seen, call.1.nanos ≤ now.nanos
  ahead : ∀ call ∈ later, now.nanos ≤ call.1.nanos
  made : created.nanos ≤ now.nanos
  since : s.nanos ≤ now.nanos
  never : ∀ time : Instant, s.nanos ≤ time.nanos → time.nanos < now.nanos →
    ¬ Idle timeout created (upTo time calls) time

theorem mem_upTo {time : Instant} {call : Instant × Call} :
    call ∈ upTo time calls ↔ call ∈ calls ∧ call.1.nanos ≤ time.nanos := by
  simp [upTo]

theorem upTo_append_of_past {seen later : List (Instant × Call)} {time : Instant}
    (h : ∀ call ∈ seen, call.1.nanos ≤ time.nanos) : upTo time (seen ++ later) = seen ++ upTo time later := by
  rw [upTo, List.filter_append, List.filter_eq_self.2]
  · rfl
  · intro call hcall
    simpa using h call hcall

variable {seen later : List (Instant × Call)} {now : Instant}

/-- A request that is in flight has its end ahead, and the connection is not idle for a timeout after that. -/
theorem not_idle_of_inFlight (hlook : Looking timeout created s calls seen later now) (hbusy : live seen ≠ ∅)
    {time : Instant} (hnow : now.nanos ≤ time.nanos) (htime : time.nanos < now.nanos + timeout.totalNanos) :
    ¬ Idle timeout created (upTo time calls) time := by
  intro hidle
  have hupTo : upTo time calls = seen ++ upTo time later := by
    rw [hlook.split, upTo_append_of_past fun call hcall => Int.le_trans (hlook.past call hcall) hnow]
  cases hlater : upTo time later with
  | nil =>
      rw [hlater, List.append_nil] at hupTo
      exact hbusy (hupTo ▸ hidle.quiet)
  | cons call rest =>
      have hmem : call ∈ upTo time later := hlater ▸ List.mem_cons_self
      have hcall := hidle.sinceCalls call (hupTo ▸ List.mem_append_right seen hmem)
      have hahead := hlook.ahead call (mem_upTo.1 hmem).1
      omega

theorem not_idle_of_last (hschedule : Schedule created seen) (hlook : Looking timeout created s calls seen later now)
    {time : Instant} (hnow : now.nanos ≤ time.nanos)
    (htime : time.nanos < (after created seen).last.nanos + timeout.totalNanos) :
    ¬ Idle timeout created (upTo time calls) time := by
  intro hidle
  rcases (last_after hschedule).2.2 with hlast | ⟨call, hcall, hlast⟩
  · rw [hlast] at htime
    exact absurd hidle.sinceCreated (Int.not_le.2 htime)
  · rw [← hlast] at htime
    refine absurd (hidle.sinceCalls call (mem_upTo.2 ⟨?_, Int.le_trans (hlook.past call hcall) hnow⟩))
      (Int.not_le.2 htime)
    rw [hlook.split]
    exact List.mem_append_left later hcall

/-- While a request is in flight, the next look is a timeout away. -/
theorem poll_busy (hschedule : Schedule created seen) (hbusy : live seen ≠ ∅) :
    (after created seen).poll timeout now = .sleepUntil (now.addOrFar timeout) := by
  have hcount : (after created seen).inFlight ≠ 0 := by
    rw [inFlight_after hschedule]
    exact Finset.card_ne_zero.2 (Finset.nonempty_iff_ne_empty.2 hbusy)
  rw [poll, deadline, if_neg hcount]

/-- A look either ends the wait, at an idle instant, or puts it off over instants that are not idle. -/
theorem poll_cases (h : Ending timeout created calls) (hlook : Looking timeout created s calls seen later now)
    {horizon : Int} (hcreated : created.nanos ≤ horizon) (hcalls : ∀ call ∈ calls, call.1.nanos ≤ horizon) :
    (after created seen).poll timeout now = .idle ∧ Idle timeout created seen now ∨
      ∃ wake : Instant, (after created seen).poll timeout now = .sleepUntil wake ∧ now.nanos < wake.nanos ∧
        wake.nanos ≤ horizon + timeout.totalNanos ∧
        ∀ time : Instant, now.nanos ≤ time.nanos → time.nanos < wake.nanos →
          ¬ Idle timeout created (upTo time calls) time := by
  have hpositive := h.positive
  have hschedule : Schedule created seen := (hlook.split ▸ h.schedule).front
  have hmem (call : Instant × Call) (hcall : call ∈ seen) : call ∈ calls :=
    hlook.split ▸ List.mem_append_left later hcall
  by_cases hquiet : live seen = ∅
  · obtain ⟨hlastCreated, hlastCalls, _⟩ := last_after hschedule
    have hrange : InRange timeout (after created seen).last :=
      last_of_all hschedule (InRange timeout) h.rangeCreated fun call hcall => h.rangeCalls call (hmem call hcall)
    have hhorizon : (after created seen).last.nanos ≤ horizon :=
      last_of_all hschedule (·.nanos ≤ horizon) hcreated fun call hcall => hcalls call (hmem call hcall)
    have hcount := inFlight_after hschedule
    rw [hquiet, Finset.card_empty] at hcount
    have hdeadline : (after created seen).deadline timeout =
        .at ⟨(after created seen).last.nanos + timeout.totalNanos⟩ := by
      rw [deadline, if_pos hcount, add?_of_inRange hrange]
    rw [poll, hdeadline]
    by_cases hdue : (after created seen).last.nanos + timeout.totalNanos ≤ now.nanos
    · refine .inl ⟨if_pos hdue, hquiet, by omega, ?_⟩
      intro call hcall
      have hle := hlastCalls call hcall
      omega
    · refine .inr ⟨_, if_neg hdue, Int.not_le.1 hdue, by simpa using hhorizon, ?_⟩
      intro time hnow htime
      exact not_idle_of_last hschedule hlook hnow htime
  · -- A request in flight has its end among the later calls, which keeps the next look in range.
    obtain ⟨call, hcall⟩ : ∃ call, call ∈ later := by
      refine List.exists_mem_of_ne_nil later ?_
      rintro rfl
      rw [hlook.split, List.append_nil] at h
      exact hquiet h.ends
    have hmem : call ∈ calls := hlook.split ▸ List.mem_append_right seen hcall
    have hahead := hlook.ahead call hcall
    have hhorizon := hcalls call hmem
    have hnow := hlook.made
    have hrange : InRange timeout now :=
      representable_between h.rangeCreated (h.rangeCalls call hmem) (by omega) (by omega)
    refine .inr ⟨⟨now.nanos + timeout.totalNanos⟩, ?_, ?_, ?_, ?_⟩
    · rw [poll_busy hschedule hquiet, Instant.addOrFar, add?_of_inRange hrange]
      rfl
    · simp only; omega
    · simp only; omega
    · intro time hnow htime
      exact not_idle_of_inFlight hlook hquiet hnow htime

theorem waitTied_sleep {wake : Instant} (hpoll : (after created seen).poll timeout now = .sleepUntil wake)
    (ties : Instant → Nat) (hordered : later.Pairwise fun call next => call.1.nanos ≤ next.1.nanos) :
    ∃ middle rest, later = middle ++ rest ∧ (∀ call ∈ middle, call.1.nanos ≤ wake.nanos) ∧
      (∀ call ∈ rest, wake.nanos ≤ call.1.nanos) ∧
      ∀ fuel, waitTied ties timeout (fuel + 1) (after created seen) now (activities later) =
        waitTied ties timeout fuel (after created (seen ++ middle)) wake (activities rest) := by
  obtain ⟨middle, rest, rfl, hcatch, hmiddle, hrest⟩ := catchUpTo_split created wake (ties wake) seen hordered
  refine ⟨middle, rest, rfl, hmiddle, hrest, ?_⟩
  intro fuel
  rw [waitTied, hpoll]
  simp only [hcatch]

theorem waitTied_of_looking (h : Ending timeout created calls) (ties : Instant → Nat) {horizon : Int}
    (hcreated : created.nanos ≤ horizon) (hcalls : ∀ call ∈ calls, call.1.nanos ≤ horizon) (n : Nat)
    (hlook : Looking timeout created s calls seen later now)
    (hn : (horizon + timeout.totalNanos - now.nanos).toNat < n) :
    ∃ time seen' later', Looking timeout created s calls seen' later' time ∧ Idle timeout created seen' time ∧
      ∀ fuel, n ≤ fuel →
        waitTied ties timeout fuel (after created seen) now (activities later) =
          .idleAt time (after created seen') := by
  -- Each sleep brings the look nearer to the horizon; the induction is on what is left of the way.
  induction n generalizing seen later now with
  | zero => exact absurd hn (Nat.not_lt_zero _)
  | succ n ih =>
      rcases poll_cases h hlook hcreated hcalls with ⟨hpoll, hidle⟩ | ⟨wake, hpoll, hlate, hsoon, hnever⟩
      · refine ⟨now, seen, later, hlook, hidle, ?_⟩
        intro fuel hfuel
        obtain ⟨fuel, rfl⟩ := Nat.exists_eq_add_of_le' hfuel
        rw [← Nat.add_assoc, waitTied, hpoll]
      · have hordered : later.Pairwise fun call next => call.1.nanos ≤ next.1.nanos :=
          (List.pairwise_append.1 (hlook.split ▸ h.schedule.ordered)).2.1
        obtain ⟨middle, rest, rfl, hmiddle, hrest, hsleep⟩ := waitTied_sleep hpoll ties hordered
        have hnext : Looking timeout created s calls (seen ++ middle) rest wake := by
          have hmade := hlook.made
          have hsince := hlook.since
          constructor
          · rw [hlook.split, List.append_assoc]
          · intro call hcall
            rcases List.mem_append.1 hcall with hseen | hcaught
            · exact Int.le_trans (hlook.past call hseen) (Int.le_of_lt hlate)
            · exact hmiddle call hcaught
          · exact hrest
          · omega
          · omega
          · intro time hstart htime
            rcases Int.lt_or_le time.nanos now.nanos with hbefore | hafter
            · exact hlook.never time hstart hbefore
            · exact hnever time hafter htime
        obtain ⟨time, seen', later', hlast, hidle, hwait⟩ := ih hnext (by omega)
        refine ⟨time, seen', later', hlast, hidle, ?_⟩
        intro fuel hfuel
        obtain ⟨fuel, rfl⟩ := Nat.exists_eq_add_of_le' hfuel
        rw [← Nat.add_assoc, hsleep]
        exact hwait (fuel + n) (Nat.le_add_left n fuel)

def waitFrom (ties : Instant → Nat) (timeout : Duration) (fuel : Nat) (created s : Instant)
    (calls : List (Instant × Call)) : Wait :=
  let (t, later) := catchUpTo s (ties s) (start created) (activities calls)
  waitTied ties timeout fuel t s later

theorem exists_horizon (created : Instant) (calls : List (Instant × Call)) :
    ∃ horizon : Int, created.nanos ≤ horizon ∧ ∀ call ∈ calls, call.1.nanos ≤ horizon := by
  induction calls with
  | nil => exact ⟨created.nanos, Int.le_refl _, nofun⟩
  | cons call calls ih =>
      obtain ⟨horizon, hcreated, hcalls⟩ := ih
      refine ⟨max horizon call.1.nanos, by omega, List.forall_mem_cons.2 ⟨by omega, ?_⟩⟩
      intro other hother
      have hle := hcalls other hother
      omega

theorem waitFrom_none (timeout : Duration) (fuel : Nat) (created s : Instant) (calls : List (Instant × Call)) :
    waitFrom (fun _ => 0) timeout fuel created s calls =
      wait timeout fuel ((start created).catchUp s (activities calls)).1 s
        ((start created).catchUp s (activities calls)).2 := by
  rw [waitFrom, catchUpTo_zero]
  exact waitTied_none timeout fuel _ s _

theorem waitFrom_split (h : Schedule created calls) (ties : Instant → Nat) (s : Instant) :
    ∃ seen later, calls = seen ++ later ∧ (∀ call ∈ seen, call.1.nanos ≤ s.nanos) ∧
      (∀ call ∈ later, s.nanos ≤ call.1.nanos) ∧
      ∀ timeout fuel, waitFrom ties timeout fuel created s calls =
        waitTied ties timeout fuel (after created seen) s (activities later) := by
  obtain ⟨seen, later, rfl, hcatch, hpast, hahead⟩ := catchUpTo_split created s (ties s) [] h.ordered
  have hfirst : catchUpTo s (ties s) (start created) (activities (seen ++ later)) =
      (after created seen, activities later) := hcatch
  refine ⟨seen, later, rfl, hpast, hahead, ?_⟩
  intro timeout fuel
  rw [waitFrom, hfirst]

theorem waitFrom_of_ending (h : Ending timeout created calls) (hstart : created.nanos ≤ s.nanos)
    (ties : Instant → Nat) :
    ∃ time seen later looks, Looking timeout created s calls seen later time ∧ Idle timeout created seen time ∧
      ∀ fuel, looks ≤ fuel → waitFrom ties timeout fuel created s calls = .idleAt time (after created seen) := by
  obtain ⟨horizon, hmade, hlast⟩ := exists_horizon created calls
  obtain ⟨seen, later, rfl, hpast, hahead, hfrom⟩ := waitFrom_split h.schedule ties s
  have hlook : Looking timeout created s (seen ++ later) seen later s :=
    ⟨rfl, hpast, hahead, hstart, Int.le_refl _, fun time hle hlt => absurd hlt (Int.not_lt.2 hle)⟩
  obtain ⟨time, seen', later', hend, hidle, hwait⟩ :=
    waitTied_of_looking h ties hmade hlast _ hlook (Nat.lt_succ_self _)
  refine ⟨time, seen', later', (horizon + timeout.totalNanos - s.nanos).toNat + 1, hend, hidle, ?_⟩
  intro fuel hfuel
  rw [hfrom]
  exact hwait fuel hfuel

/-- The requests in flight are counted exactly, and once all requests end, the wait ends at the first instant from
its start at which the connection is idle, however calls at the same instant as a look are ordered. -/
theorem wait_first_idle (h : Schedule created calls) (hpositive : 0 < timeout.totalNanos)
    (hcreated : InRange timeout created) (hcalls : ∀ call ∈ calls, InRange timeout call.1)
    (hstart : created.nanos ≤ s.nanos) :
    (∀ seen later, calls = seen ++ later → (after created seen).inFlight = (live seen).card) ∧
    (∀ seen time guard later, calls = seen ++ (time, .drop guard) :: later → 0 < (after created seen).inFlight) ∧
    (live calls = ∅ → ∀ ties : Instant → Nat, ∃ time seen later looks,
      calls = seen ++ later ∧ (∀ call ∈ seen, call.1.nanos ≤ time.nanos) ∧
      (∀ call ∈ later, time.nanos ≤ call.1.nanos) ∧ s.nanos ≤ time.nanos ∧ Idle timeout created seen time ∧
      (∀ earlier : Instant, s.nanos ≤ earlier.nanos → earlier.nanos < time.nanos →
        ¬ Idle timeout created (upTo earlier calls) earlier) ∧
      ∀ fuel, looks ≤ fuel → waitFrom ties timeout fuel created s calls = .idleAt time (after created seen)) ∧
    ∀ fuel, waitFrom (fun _ => 0) timeout fuel created s calls =
      wait timeout fuel ((start created).catchUp s (activities calls)).1 s
        ((start created).catchUp s (activities calls)).2 := by
  refine ⟨?_, ?_, ?_, fun fuel => waitFrom_none timeout fuel created s calls⟩
  · rintro seen later rfl
    exact inFlight_after h.front
  · intro seen time guard later hsplit
    have hheld := h.held seen time guard later hsplit
    subst hsplit
    rw [inFlight_after h.front]
    exact Finset.card_pos.2 ⟨guard, hheld⟩
  · intro hends ties
    obtain ⟨time, seen, later, looks, hend, hidle, hwait⟩ :=
      waitFrom_of_ending ⟨h, hpositive, hcreated, hcalls, hends⟩ hstart ties
    exact ⟨time, seen, later, looks, hend.split, hend.past, hend.ahead, hend.since, hidle, hend.never, hwait⟩

def overlapping : List (Instant × Call) :=
  [(⟨10⟩, .begin 0), (⟨20⟩, .begin 1), (⟨30⟩, .drop 0), (⟨60⟩, .drop 1)]

theorem schedule_overlapping : Schedule ⟨0⟩ overlapping := by
  have hnone := schedule_nil ⟨0⟩
  have hone := hnone.concat (⟨10⟩, .begin 0) (by decide) (by decide) (by decide)
  have htwo := hone.concat (⟨20⟩, .begin 1) (by decide) (by decide) (by decide)
  have hthree := htwo.concat (⟨30⟩, .drop 0) (by decide) (by decide) (by decide)
  exact hthree.concat (⟨60⟩, .drop 1) (by decide) (by decide) (by decide)

theorem wait_first_idle_overlapping :
    let timeout : Duration := ⟨0, 50, by decide, by decide⟩
    Schedule ⟨0⟩ overlapping ∧ 0 < timeout.totalNanos ∧ live overlapping = ∅ ∧
      (∃ time seen looks, Idle timeout ⟨0⟩ seen time ∧
        ∀ fuel, looks ≤ fuel → waitFrom (fun _ => 0) timeout fuel ⟨0⟩ ⟨0⟩ overlapping = .idleAt time (after ⟨0⟩ seen)) ∧
      waitFrom (fun _ => 0) timeout 4 ⟨0⟩ ⟨0⟩ overlapping = .idleAt ⟨110⟩ ⟨0, ⟨60⟩⟩ := by
  intro timeout
  have hpositive : 0 < timeout.totalNanos := by decide
  obtain ⟨-, -, hwait, -⟩ := wait_first_idle schedule_overlapping hpositive (by decide) (by decide)
    (Int.le_refl (Instant.nanos ⟨0⟩))
  obtain ⟨time, seen, later, looks, -, -, -, -, hidle, -, hends⟩ := hwait (by decide) fun _ => 0
  exact ⟨schedule_overlapping, hpositive, by decide, ⟨time, seen, looks, hidle, hends⟩, by decide⟩

end PairedTls.IdleTracker
