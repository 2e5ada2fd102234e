import Mathlib.Tactic.Common
import PairedTls.Duration
import PairedTls.Proofs.Acts

namespace PairedTls.Duration

theorem gather_append (limit acc : Nat) (front rest : List Char) :
    gather limit acc (front ++ rest) = (gather limit acc front).bind fun n => gather limit n rest := by
  induction front generalizing acc with
  | nil => rfl
  | cons c front ih =>
      rw [List.cons_append, gather, gather]
      split
      · simp only
        split
        · exact ih _
        · rfl
      · rfl

theorem gather_digitChar {limit acc d : Nat} (hd : d < 10) (hfits : acc * 10 + d < limit) :
    gather limit acc [d.digitChar] = .ok (acc * 10 + d) := by
  have hdigits : ∀ k : Fin 10, ('0' ≤ k.val.digitChar ∧ k.val.digitChar ≤ '9') ∧ k.val.digitChar.toNat - 48 = k.val := by
    decide
  obtain ⟨hdigit, hvalue⟩ := hdigits ⟨d, hd⟩
  rw [gather, if_pos hdigit]
  simp only at hvalue
  simp only [hvalue, if_pos hfits]
  rfl

theorem gather_toDigits {limit n : Nat} (h : n < limit) : gather limit 0 (Nat.toDigits 10 n) = .ok n := by
  induction n using Nat.strongRecOn with
  | ind n ih =>
      rcases Nat.lt_or_ge n 10 with hn | hn
      · rw [Nat.toDigits_of_lt_base hn, gather_digitChar hn (by omega), Nat.zero_mul, Nat.zero_add]
      · have hsplit : n / 10 * 10 + n % 10 = n := by omega
        rw [Nat.toDigits_of_base_le (by decide) hn, gather_append, ih (n / 10) (by omega) (by omega)]
        simp only [Except.bind]
        rw [gather_digitChar (Nat.mod_lt n (by decide)) (by omega), hsplit]

theorem notMem_toDigits {c : Char} (hc : c.isDigit = false) (n : Nat) : c ∉ Nat.toDigits 10 n := by
  intro hmem
  rw [Nat.isDigit_of_mem_toDigits (by decide) (by decide) hmem] at hc
  cases hc

theorem number_toDigits {n : Nat} (h : n < UInt64.size) : number (Nat.toDigits 10 n) = .ok n := by
  have hdigits := gather_toDigits h
  have hplus := notMem_toDigits (by decide : '+'.isDigit = false) n
  cases htext : Nat.toDigits 10 n with
  | nil => exact absurd htext Nat.toDigits_ne_nil
  | cons c rest =>
      rw [htext] at hdigits hplus
      have hsign : c ≠ '+' := fun heq => hplus (heq ▸ List.mem_cons_self)
      simp [number, readNumber, hsign, hdigits]

theorem stem?_append (unit cs : List Char) : stem? unit (cs ++ unit) = some cs := by
  have hsuffix : unit.isSuffixOf (cs ++ unit) = true := List.isSuffixOf_iff_suffix.2 (List.suffix_append cs unit)
  rw [stem?, if_pos hsuffix, List.length_append, Nat.add_sub_cancel, List.take_left]

theorem stem?_eq_none {unit cs : List Char} : stem? unit cs = none ↔ ¬unit <:+ cs := by
  rw [stem?, ← List.isSuffixOf_iff_suffix]
  split <;> simp [*]

theorem totalNanos_ofMillis (n : Nat) (h : n < UInt64.size) : (ofMillis n h).totalNanos = n * 1000000 := by
  simp only [ofMillis, totalNanos, nanosPerSecond]
  omega

theorem secsOf_eq_ok {n : Nat} {fault : DurationFault} {d : Duration} (h : secsOf n fault = .ok d) :
    ∃ hn, d = ofSecs n hn := by
  rw [secsOf] at h
  split at h
  · next hn => exact ⟨hn, (Except.ok.inj h).symm⟩
  · cases h

theorem parse_seconds {n : Nat} (h : n < UInt64.size) : parse (n.repr ++ "s") = .ok (ofSecs n h) := by
  have htext : (n.repr ++ "s").toList = Nat.toDigits 10 n ++ ['s'] := by simp
  have hmillis : ¬['m', 's'] <:+ Nat.toDigits 10 n ++ ['s'] := by
    rintro ⟨front, hfront⟩
    have hdigits : front ++ ['m'] = Nat.toDigits 10 n := List.append_cancel_right (by simpa using hfront)
    have hm : 'm' ∈ Nat.toDigits 10 n := hdigits ▸ List.mem_append_right front List.mem_cons_self
    exact notMem_toDigits (by decide) n hm
  rw [parse, htext]
  simp only [stem?_eq_none.2 hmillis, stem?_append, number_toDigits h]
  exact dif_pos h

/-- With the unit `ms` a text is a whole number of milliseconds, with any other or none a whole number of seconds. -/
theorem parse_cases {text : String} {d : Duration} (h : parse text = .ok d) :
    ['m', 's'] <:+ text.toList ∧ (∃ n hn, d = ofMillis n hn) ∨
      ¬['m', 's'] <:+ text.toList ∧ ∃ n hn, d = ofSecs n hn := by
  rw [parse] at h
  simp only at h
  split at h
  · next stem hstem =>
      left
      constructor
      · by_contra hnot
        rw [stem?_eq_none.2 hnot] at hstem
        cases hstem
      · obtain ⟨n, -, hn⟩ := bind_eq_ok h
        split at hn
        · next hlt => exact ⟨n, hlt, (Except.ok.inj hn).symm⟩
        · cases hn
  · next hnone =>
      right
      refine ⟨stem?_eq_none.1 hnone, ?_⟩
      split at h
      · obtain ⟨n, -, hn⟩ := bind_eq_ok h
        exact ⟨n, secsOf_eq_ok hn⟩
      · split at h
        · obtain ⟨n, -, hn⟩ := bind_eq_ok h
          exact ⟨n * 60, secsOf_eq_ok hn⟩
        · obtain ⟨n, -, hn⟩ := bind_eq_ok h
          exact ⟨n, secsOf_eq_ok hn⟩

end PairedTls.Duration
