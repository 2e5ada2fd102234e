import PairedTls.Proofs.DurationText
import PairedTls.Proofs.IdleWaits

namespace PairedTls

namespace Instant

/-- The first number of nanoseconds that the clock cannot tell. -/
def limit : Int := UInt64.size / 2 * 1000000000

theorem representable_iff {nanos : Int} (h : 0 ≤ nanos) : representable nanos = true ↔ nanos < limit := by
  simp only [representable, limit, decide_eq_true_eq,
    Int.fdiv_eq_ediv_of_nonneg _ (by decide : (0 : Int) ≤ 1000000000)]
  omega

theorem add?_eq_none {t : Instant} {d : Duration} (h : 0 ≤ t.nanos) :
    t.add? d = none ↔ limit ≤ t.nanos + d.totalNanos := by
  rw [add?, ← Int.not_lt, ← representable_iff (by omega)]
  simp

end Instant

namespace IdleTracker

variable {timeout : Duration} {created s now : Instant} {calls seen later : List (Instant × Call)}

theorem deadline_eq_overflow {t : IdleTracker} :
    t.deadline timeout = .overflow ↔ t.inFlight = 0 ∧ t.last.add? timeout = none := by
  rw [deadline]
  split
  · next hidle => cases t.last.add? timeout <;> simp [hidle]
  · next hbusy => simp [hbusy]

theorem deadline_overflow_iff (h : Schedule created calls) (hclock : 0 ≤ created.nanos) :
    (after created calls).deadline timeout = .overflow ↔
      live calls = ∅ ∧ Instant.limit ≤ (after created calls).last.nanos + timeout.totalNanos := by
  have hlast := (last_after h).1
  rw [deadline_eq_overflow, Instant.add?_eq_none (by omega), inFlight_after h, Finset.card_eq_zero]

theorem poll_eq_overflow {t : IdleTracker} : t.poll timeout now = .overflow ↔ t.deadline timeout = .overflow := by
  rw [poll]
  cases t.deadline timeout with
  | inFlight => simp
  | «at» time => simp only; split <;> simp
  | overflow => simp

theorem deadline_of_poll_idle {t : IdleTracker} (h : t.poll timeout now = .idle) :
    ∃ time, t.deadline timeout = .at time := by
  rw [poll] at h
  cases hdeadline : t.deadline timeout with
  | inFlight => rw [hdeadline] at h; cases h
  | «at» time => exact ⟨time, rfl⟩
  | overflow => rw [hdeadline] at h; cases h

/-- A wait that is over was ended by its last look, at the tracker as it was after some of the calls. -/
theorem waitTied_last_look (ties : Instant → Nat) (timeout : Duration) (fuel : Nat) (seen : List (Instant × Call))
    (now : Instant) (hordered : later.Pairwise fun call next => call.1.nanos ≤ next.1.nanos) :
    let wait := waitTied ties timeout fuel (after created seen) now (activities later)
    wait = .unfinished ∨ ∃ middle rest time, later = middle ++ rest ∧
      ((after created (seen ++ middle)).poll timeout time = .idle ∧
          wait = .idleAt time (after created (seen ++ middle)) ∨
        (after created (seen ++ middle)).poll timeout time = .overflow ∧ wait = .overflow) := by
  induction fuel generalizing seen later now with
  | zero => exact .inl rfl
  | succ fuel ih =>
      intro wait
      cases hpoll : (after created seen).poll timeout now with
      | idle =>
          refine .inr ⟨[], later, now, rfl, .inl ?_⟩
          rw [List.append_nil]
          refine ⟨hpoll, ?_⟩
          simp only [wait, waitTied, hpoll]
      | overflow =>
          refine .inr ⟨[], later, now, rfl, .inr ?_⟩
          rw [List.append_nil]
          refine ⟨hpoll, ?_⟩
          simp only [wait, waitTied, hpoll]
      | sleepUntil wake =>
          obtain ⟨middle, rest, rfl, _, _, hsleep⟩ := waitTied_sleep hpoll ties hordered
          have hwait : wait = waitTied ties timeout fuel (after created (seen ++ middle)) wake (activities rest) :=
            hsleep fuel
          rcases ih (seen ++ middle) wake (List.pairwise_append.1 hordered).2.1 with
            hnot | ⟨more, rest', time, rfl, hlook⟩
          · exact .inl (hwait.trans hnot)
          · rw [← hwait, List.append_assoc] at hlook
            exact .inr ⟨middle ++ more, rest', time, (List.append_assoc middle more rest').symm, hlook⟩

theorem waitFrom_last_look (h : Schedule created calls) (ties : Instant → Nat) (timeout : Duration) (fuel : Nat)
    (s : Instant) :
    let wait := waitFrom ties timeout fuel created s calls
    wait = .unfinished ∨ ∃ seen later time, calls = seen ++ later ∧
      ((after created seen).poll timeout time = .idle ∧ wait = .idleAt time (after created seen) ∨
        (after created seen).poll timeout time = .overflow ∧ wait = .overflow) := by
  intro wait
  obtain ⟨seen, later, rfl, _, _, hfrom⟩ := waitFrom_split h ties s
  have hwait : wait = waitTied ties timeout fuel (after created seen) s (activities later) := hfrom timeout fuel
  rcases waitTied_last_look ties timeout fuel seen s (List.pairwise_append.1 h.ordered).2.1 with
    hnot | ⟨middle, rest, time, rfl, hlook⟩
  · exact .inl (hwait.trans hnot)
  · rw [← hwait] at hlook
    exact .inr ⟨seen ++ middle, rest, time, (List.append_assoc seen middle rest).symm, hlook⟩

theorem waitFrom_ne_overflow (h : Schedule created calls) (hclock : 0 ≤ created.nanos) {horizon : Int}
    (hcreated : created.nanos ≤ horizon) (hcalls : ∀ call ∈ calls, call.1.nanos ≤ horizon)
    (hroom : horizon + timeout.totalNanos < Instant.limit) (ties : Instant → Nat) (fuel : Nat) :
    waitFrom ties timeout fuel created s calls ≠ .overflow := by
  intro hover
  rcases waitFrom_last_look h ties timeout fuel s with
    hnot | ⟨seen, later, time, rfl, ⟨_, hidle⟩ | ⟨hpoll, _⟩⟩
  · cases hnot.symm.trans hover
  · cases hidle.symm.trans hover
  · have hpast := ((deadline_overflow_iff h.front hclock).1 (poll_eq_overflow.1 hpoll)).2
    have hlast : (after created seen).last.nanos ≤ horizon :=
      last_of_all h.front (·.nanos ≤ horizon) hcreated fun call hcall => hcalls call (List.mem_append_left later hcall)
    omega

theorem waitFrom_ne_idleAt (h : Schedule created calls) (hclock : 0 ≤ created.nanos)
    (hpast : Instant.limit ≤ created.nanos + timeout.totalNanos) (ties : Instant → Nat) (fuel : Nat) (time : Instant)
    (t : IdleTracker) : waitFrom ties timeout fuel created s calls ≠ .idleAt time t := by
  intro hends
  rcases waitFrom_last_look h ties timeout fuel s with
    hnot | ⟨seen, later, look, rfl, ⟨hpoll, _⟩ | ⟨_, hover⟩⟩
  · cases hnot.symm.trans hends
  · obtain ⟨deadline, hdeadline⟩ := deadline_of_poll_idle hpoll
    have hlast := (last_after h.front).1
    have hnone : (after created seen).last.add? timeout = none := (Instant.add?_eq_none (by omega)).2 (by omega)
    rw [IdleTracker.deadline, hnone] at hdeadline
    split at hdeadline <;> cases hdeadline
  · cases hover.symm.trans hends

/-- While requests are in flight each look puts the next one off by about thirty years, and the first look after the
last of them finds a deadline that cannot be computed. -/
theorem waitTied_overflow (h : Schedule created calls) (hclock : 0 ≤ created.nanos) (hends : live calls = ∅)
    (hpast : Instant.limit ≤ created.nanos + timeout.totalNanos) (ties : Instant → Nat) {horizon : Int}
    (hcalls : ∀ call ∈ calls, call.1.nanos ≤ horizon) (n : Nat) (hsplit : calls = seen ++ later)
    (hahead : ∀ call ∈ later, now.nanos ≤ call.1.nanos) (hmade : created.nanos ≤ now.nanos)
    (hn : (horizon + 1 - now.nanos).toNat < n) :
    ∀ fuel, n ≤ fuel → waitTied ties timeout fuel (after created seen) now (activities later) = .overflow := by
  induction n generalizing seen later now with
  | zero => exact absurd hn (Nat.not_lt_zero _)
  | succ n ih =>
      intro fuel hfuel
      obtain ⟨fuel, rfl⟩ := Nat.exists_eq_add_of_le' hfuel
      have hschedule : Schedule created seen := (hsplit ▸ h).front
      by_cases hquiet : live seen = ∅
      · have hlast := (last_after hschedule).1
        have hpoll : (after created seen).poll timeout now = .overflow :=
          poll_eq_overflow.2 ((deadline_overflow_iff hschedule hclock).2 ⟨hquiet, by omega⟩)
        rw [← Nat.add_assoc, waitTied, hpoll]
      · have hnone : now.add? timeout = none := (Instant.add?_eq_none (by omega)).2 (by omega)
        let wake : Instant := ⟨now.nanos + Instant.farSeconds * Duration.nanosPerSecond⟩
        have hpoll : (after created seen).poll timeout now = .sleepUntil wake := by
          rw [poll_busy hschedule hquiet, Instant.addOrFar, hnone]
          rfl
        have hlate : now.nanos < wake.nanos := by
          simp only [wake, Instant.farSeconds, Duration.nanosPerSecond]
          omega
        -- a request in flight has its end ahead, so the horizon is not reached yet
        have hbefore : now.nanos ≤ horizon := by
          cases later with
          | nil =>
              rw [List.append_nil] at hsplit
              exact absurd (hsplit ▸ hends) hquiet
          | cons call rest =>
              have hnow := hahead call List.mem_cons_self
              have hcall := hcalls call (hsplit ▸ List.mem_append_right seen List.mem_cons_self)
              omega
        have hordered : later.Pairwise fun call next => call.1.nanos ≤ next.1.nanos :=
          (List.pairwise_append.1 (hsplit ▸ h.ordered)).2.1
        obtain ⟨middle, rest, rfl, _, hrest, hsleep⟩ := waitTied_sleep hpoll ties hordered
        rw [← Nat.add_assoc, hsleep]
        refine ih ?_ hrest (by omega) (by omega) (fuel + n) (Nat.le_add_left n fuel)
        rw [hsplit, List.append_assoc]

theorem waitFrom_overflow (h : Schedule created calls) (hclock : 0 ≤ created.nanos) (hends : live calls = ∅)
    (hpast : Instant.limit ≤ created.nanos + timeout.totalNanos) (hstart : created.nanos ≤ s.nanos)
    (ties : Instant → Nat) :
    ∃ looks, ∀ fuel, looks ≤ fuel → waitFrom ties timeout fuel created s calls = .overflow := by
  obtain ⟨horizon, _, hcalls⟩ := exists_horizon created calls
  obtain ⟨seen, later, rfl, _, hahead, hfrom⟩ := waitFrom_split h ties s
  refine ⟨(horizon + 1 - s.nanos).toNat + 1, ?_⟩
  intro fuel hfuel
  rw [hfrom]
  exact waitTied_overflow h hclock hends hpast ties hcalls _ rfl hahead hstart (Nat.lt_succ_self _) fuel hfuel

/-- For a timeout that was read from a text: the deadline overflows exactly if no request is in flight and it lies past
what the clock can tell. Where the clock has room for the timeout up to the horizon of all calls, no wait overflows.
Where it has none from the start, no wait is ended by idleness, and once all requests end the wait overflows. No text
in milliseconds reads as that much, but each whole number of 64-bit seconds has a text. -/
theorem wait_overflow_by_range {text : String} (hparse : Duration.parse text = .ok timeout)
    (h : Schedule created calls) (hclock : 0 ≤ created.nanos) (hstart : created.nanos ≤ s.nanos) {horizon : Int}
    (hcreated : created.nanos ≤ horizon) (hcalls : ∀ call ∈ calls, call.1.nanos ≤ horizon) :
    (∀ seen later, calls = seen ++ later →
      ((after created seen).deadline timeout = .overflow ↔
        live seen = ∅ ∧ Instant.limit ≤ (after created seen).last.nanos + timeout.totalNanos)) ∧
    (horizon + timeout.totalNanos < Instant.limit →
      ∀ ties fuel, waitFrom ties timeout fuel created s calls ≠ .overflow) ∧
    (Instant.limit ≤ created.nanos + timeout.totalNanos →
      (∀ ties fuel time t, waitFrom ties timeout fuel created s calls ≠ .idleAt time t) ∧
        (live calls = ∅ → ∀ ties, ∃ looks, ∀ fuel, looks ≤ fuel →
          waitFrom ties timeout fuel created s calls = .overflow)) ∧
    (['m', 's'] <:+ text.toList → horizon ≤ Instant.limit / 2 → horizon + timeout.totalNanos < Instant.limit) ∧
    ∀ n (hn : n < UInt64.size), Duration.parse (n.repr ++ "s") = .ok (Duration.ofSecs n hn) := by
  refine ⟨?_, waitFrom_ne_overflow h hclock hcreated hcalls, ?_, ?_, fun n => Duration.parse_seconds⟩
  · rintro seen later rfl
    exact deadline_overflow_iff h.front hclock
  · intro hpast
    exact ⟨waitFrom_ne_idleAt h hclock hpast, fun hends => waitFrom_overflow h hclock hends hpast hstart⟩
  · intro hmillis hhorizon
    rcases Duration.parse_cases hparse with ⟨_, n, hn, rfl⟩ | ⟨hnot, _⟩
    · have hlimit : Instant.limit = 9223372036854775808 * 1000000000 := rfl
      have hsize : n < 18446744073709551616 := hn
      rw [Duration.totalNanos_ofMillis]
      omega
    · exact absurd hmillis hnot

theorem wait_overflow_by_range_largest :
    let timeout := Duration.ofSecs 18446744073709551615 (by decide)
    Duration.parse "18446744073709551615s" = .ok timeout ∧ Schedule ⟨0⟩ overlapping ∧
      (after ⟨0⟩ []).deadline timeout = .overflow ∧
      ∃ looks, ∀ fuel, looks ≤ fuel →
        waitFrom (fun _ => 0) timeout fuel ⟨0⟩ ⟨0⟩ overlapping = .overflow := by
  intro timeout
  have hparse : Duration.parse "18446744073709551615s" = .ok timeout := by decide +kernel
  have hpast : Instant.limit ≤ Instant.nanos ⟨0⟩ + timeout.totalNanos := by decide
  obtain ⟨hdeadline, -, hover, -, -⟩ := wait_overflow_by_range hparse schedule_overlapping (by decide)
    (Int.le_refl (Instant.nanos ⟨0⟩)) (by decide : Instant.nanos ⟨0⟩ ≤ 60) (by decide)
  exact ⟨hparse, schedule_overlapping, (hdeadline [] overlapping rfl).2 ⟨rfl, hpast⟩,
    (hover hpast).2 (by decide) fun _ => 0⟩

end IdleTracker
end PairedTls
