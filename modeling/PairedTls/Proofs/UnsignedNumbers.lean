import Mathlib.Data.Nat.Size
import PairedTls.Certificate.Basic
import PairedTls.Proofs.DerReading

namespace PairedTls

namespace Bytes

theorem significant_cons_zero (b : Bytes) : significant (0 :: b) = significant b :=
  List.dropWhile_cons_of_pos rfl

theorem significant_of_ne {x : UInt8} (hx : x ≠ 0) (b : Bytes) : significant (x :: b) = x :: b :=
  List.dropWhile_cons_of_neg (by simpa using hx)

theorem toNat_significant (b : Bytes) : toNat (significant b) = toNat b := by
  induction b with
  | nil => rfl
  | cons x b ih =>
      by_cases hx : x = 0
      · subst hx
        rw [significant_cons_zero, ih, toNat_cons]
        simp
      · rw [significant_of_ne hx]

theorem significant_cases (b : Bytes) :
    significant b = [] ∧ toNat b = 0 ∨ ∃ x rest, significant b = x :: rest ∧ x ≠ 0 ∧ toNat b = toNat (x :: rest) := by
  have hvalue := toNat_significant b
  cases hb : significant b with
  | nil =>
      rw [hb] at hvalue
      exact .inl ⟨rfl, hvalue.symm⟩
  | cons x rest =>
      rw [hb] at hvalue
      refine .inr ⟨x, rest, rfl, ?_, hvalue.symm⟩
      have hdrop : b.dropWhile (· == 0) = x :: rest := hb
      have hhead := List.head?_dropWhile_not (· == (0 : UInt8)) b
      rw [hdrop] at hhead
      simpa using hhead

/-- What counts of a byte string is the shortest spelling of its number. -/
theorem significant_eq (b : Bytes) : significant b = minimal (toNat b) := by
  have hhead : (significant b).head? ≠ some 0 := by
    rcases significant_cases b with ⟨hb, -⟩ | ⟨x, rest, hb, hx, -⟩
    · rw [hb]
      exact nofun
    · rw [hb]
      exact fun hzero => hx (Option.some.inj hzero)
  rw [← toNat_significant, minimal_toNat hhead]

theorem length_significant (b : Bytes) : (significant b).length = widthOf (toNat b) := by
  rw [significant_eq, minimal, length_ofNat]

theorem toNat_zeros (count : Nat) (b : Bytes) : toNat (List.replicate count 0 ++ b) = toNat b := by
  induction count with
  | zero => rfl
  | succ count ih =>
      rw [List.replicate_succ, List.cons_append, toNat_cons, ih]
      simp

theorem pow_le_toNat {x : UInt8} (hx : x ≠ 0) (rest : Bytes) : 256 ^ rest.length ≤ toNat (x :: rest) := by
  have hpos : 1 ≤ x.toNat := Nat.one_le_iff_ne_zero.2 fun hzero => hx (UInt8.toNat_inj.1 hzero)
  rw [toNat_cons]
  exact Nat.le_trans (Nat.le_mul_of_pos_left _ hpos) (Nat.le_add_right _ _)

end Bytes

theorem Rsa.bitLength_eq_size (n : Nat) : bitLength n = n.size := by
  rw [bitLength]
  split_ifs with hn
  · rw [hn, Nat.size_zero]
  · exact Nat.le_antisymm (Nat.lt_size.2 (Nat.log2_self_le hn)) (Nat.size_le.2 Nat.lt_log2_self)

theorem unsignedBitLength_eq (b : Bytes) : unsignedBitLength b = Rsa.bitLength (Bytes.toNat b) := by
  rcases Bytes.significant_cases b with ⟨hb, hzero⟩ | ⟨x, rest, hb, hx, hvalue⟩
  · simp [unsignedBitLength, hb, hzero, Rsa.bitLength]
  · have hne : x.toNat ≠ 0 := fun hzero => hx (UInt8.toNat_inj.1 hzero)
    have hnumber : Bytes.toNat (x :: rest) ≠ 0 := by
      have hlow := Bytes.pow_le_toNat hx rest
      have hpow : 0 < 256 ^ rest.length := Nat.pow_pos (by decide)
      omega
    have hlog : (Bytes.toNat (x :: rest)).log2 = 8 * rest.length + x.toNat.log2 := by
      have hrest := Bytes.toNat_lt rest
      have hlow := Nat.mul_le_mul_right (2 ^ (8 * rest.length)) (Nat.log2_self_le hne)
      have hhigh := Nat.mul_le_mul_right (2 ^ (8 * rest.length)) (Nat.succ_le_of_lt (Nat.lt_log2_self (n := x.toNat)))
      rw [Bytes.pow_byte] at hrest
      rw [Nat.log2_eq_iff hnumber, Bytes.toNat_cons, Bytes.pow_byte, Nat.pow_add, Nat.pow_succ, Nat.pow_add]
      rw [Nat.pow_succ, Nat.succ_mul] at hhigh
      constructor
      · rw [Nat.mul_comm] at hlow
        omega
      · have hcomm : 2 ^ (8 * rest.length) * 2 ^ x.toNat.log2 * 2 = 2 ^ x.toNat.log2 * 2 * 2 ^ (8 * rest.length) := by
          ring
        omega
    rw [unsignedBitLength, hb, hvalue, Rsa.bitLength, if_neg hnumber, hlog, Nat.add_assoc]

/-- Shifting loses nothing while eight bits are free. -/
theorem toNat_shift_or {acc : UInt64} (d : UInt8) (h : acc.toNat * 256 < 2 ^ 64) :
    ((acc <<< 8) ||| d.toUInt64).toNat = acc.toNat * 256 + d.toNat := by
  have hshift : acc.toNat <<< 8 = acc.toNat * 256 := Nat.shiftLeft_eq _ _
  have height : (8 : UInt64).toNat % 64 = 8 := rfl
  rw [UInt64.toNat_or, UInt64.toNat_shiftLeft, UInt8.toNat_toUInt64, height, hshift, Nat.mod_eq_of_lt h, ← hshift,
    Nat.shiftLeft_add_eq_or_of_lt (by exact d.toNat_lt)]

theorem toNat_gather (acc : UInt64) (digits : Bytes)
    (h : acc.toNat * 256 ^ digits.length + Bytes.toNat digits < 2 ^ 64) :
    (digits.foldl (fun (acc : UInt64) (d : UInt8) => (acc <<< 8) ||| d.toUInt64) acc).toNat =
      acc.toNat * 256 ^ digits.length + Bytes.toNat digits := by
  induction digits generalizing acc with
  | nil => simp [Bytes.toNat]
  | cons d digits ih =>
      rw [List.length_cons, Bytes.toNat_cons, Nat.pow_succ] at h ⊢
      have hsum : acc.toNat * (256 ^ digits.length * 256) + (d.toNat * 256 ^ digits.length + Bytes.toNat digits) =
          (acc.toNat * 256 + d.toNat) * 256 ^ digits.length + Bytes.toNat digits := by
        ring
      have hpow : 0 < 256 ^ digits.length := Nat.pow_pos (by decide)
      have hfree : acc.toNat * 256 < 2 ^ 64 := by
        have hle := Nat.le_mul_of_pos_right (acc.toNat * 256 + d.toNat) hpow
        omega
      rw [hsum] at h ⊢
      rw [← toNat_shift_or d hfree] at h ⊢
      exact ih _ h

theorem exponentValue_eq (b : Bytes) :
    exponentValue b =
      if Bytes.toNat b < 2 ^ 64 then .ok (UInt64.ofNat (Bytes.toNat b))
      else .error (.wideExponent (Bytes.significant b).length) := by
  have hfits : (Bytes.significant b).length ≤ 8 ↔ Bytes.toNat b < 2 ^ 64 := by
    constructor
    · intro hlength
      rw [← Bytes.toNat_significant]
      exact Nat.lt_of_lt_of_le (Bytes.toNat_lt _) (Nat.pow_le_pow_right (by decide) hlength)
    · intro hlt
      by_contra hlong
      rcases Bytes.significant_cases b with ⟨hb, _⟩ | ⟨x, rest, hb, hx, hvalue⟩
      · rw [hb] at hlong
        exact hlong (Nat.zero_le _)
      · rw [hb, List.length_cons] at hlong
        have hlow := Bytes.pow_le_toNat hx rest
        have hpow : 256 ^ 8 ≤ 256 ^ rest.length := Nat.pow_le_pow_right (by decide) (by omega)
        omega
  rw [exponentValue]
  by_cases hlt : Bytes.toNat b < 2 ^ 64
  · have hvalue := toNat_gather 0 (Bytes.significant b) (by rw [Bytes.toNat_significant]; simpa using hlt)
    rw [Bytes.toNat_significant, UInt64.toNat_zero, Nat.zero_mul, Nat.zero_add] at hvalue
    rw [if_pos hlt, if_neg (Nat.not_lt.2 (hfits.2 hlt)), ← hvalue, UInt64.ofNat_toNat]
  · rw [if_neg hlt, if_pos (Nat.lt_of_not_le (mt hfits.1 hlt))]

/-- The length in bits is that of the number, and the number itself comes out whole if it fits into 64 bits; one that
does not is refused, with its width in bytes. Zero bytes at the front change neither. -/
theorem unsigned_by_value (b : Bytes) :
    let v := Bytes.toNat b
    unsignedBitLength b = v.size ∧
      (v < 2 ^ 64 ↔ ∃ u, exponentValue b = .ok u ∧ u.toNat = v) ∧
      (2 ^ 64 ≤ v ↔ exponentValue b = .error (.wideExponent (Bytes.widthOf v))) ∧
      ∀ zeros, unsignedBitLength (List.replicate zeros 0 ++ b) = unsignedBitLength b ∧
        exponentValue (List.replicate zeros 0 ++ b) = exponentValue b := by
  intro v
  have hexponent := exponentValue_eq b
  rw [Bytes.length_significant] at hexponent
  refine ⟨(unsignedBitLength_eq b).trans (Rsa.bitLength_eq_size v), ?_, ?_, ?_⟩
  · rw [hexponent]
    constructor
    · intro hv
      exact ⟨UInt64.ofNat v, if_pos hv, UInt64.toNat_ofNat_of_lt' hv⟩
    · rintro ⟨u, -, hu⟩
      exact hu ▸ u.toNat_lt
  · rw [hexponent]
    split_ifs with hv
    · exact iff_of_false (Nat.not_le.2 hv) nofun
    · exact iff_of_true (Nat.not_lt.1 hv) rfl
  · intro zeros
    rw [unsignedBitLength_eq, unsignedBitLength_eq, exponentValue_eq, exponentValue_eq, Bytes.length_significant,
      Bytes.length_significant, Bytes.toNat_zeros]
    exact ⟨rfl, rfl⟩

end PairedTls
