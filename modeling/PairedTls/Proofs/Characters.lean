import PairedTls.Decimal.Binary
import PairedTls.Text.Blank

namespace PairedTls

namespace Text

theorem whiteSpace_eq_false {c : Char} (hlow : 0x20 < c.toNat) (hhigh : c.toNat < 0x7F) : whiteSpace c = false := by
  simp [whiteSpace]
  omega

theorem whiteSpace_toLower (c : Char) : whiteSpace c.toLower = whiteSpace c := by
  by_cases h : c.val ≥ 'A'.val ∧ c.val ≤ 'Z'.val
  · have hcapital : 65 ≤ c.toNat ∧ c.toNat ≤ 90 := by
      simpa [UInt32.le_iff_toNat_le] using h
    have hsmall : c.toLower.toNat = c.toNat + 32 := by
      refine (congrArg Char.toNat (dif_pos h)).trans ((UInt32.toNat_add ..).trans (Nat.mod_eq_of_lt ?_))
      change c.toNat + 32 < 2 ^ 32
      omega
    rw [whiteSpace_eq_false (by omega) (by omega), whiteSpace_eq_false (by omega) (by omega)]
  · exact congrArg whiteSpace (dif_neg h)

theorem trim_toLower (cs : List Char) : trim (cs.map Char.toLower) = (trim cs).map Char.toLower := by
  have hcomp : whiteSpace ∘ Char.toLower = whiteSpace := funext whiteSpace_toLower
  simp only [trim, List.dropWhile_map, hcomp, ← List.map_reverse]

theorem dropWhile_whiteSpace {cs : List Char} (h : ∀ c ∈ cs, whiteSpace c = false) : cs.dropWhile whiteSpace = cs := by
  cases cs with
  | nil => rfl
  | cons c rest =>
      have hc := h c List.mem_cons_self
      exact List.dropWhile_cons_of_neg (by simp [hc])

theorem trim_eq_self {cs : List Char} (h : ∀ c ∈ cs, whiteSpace c = false) : trim cs = cs := by
  have hreverse : ∀ c ∈ cs.reverse, whiteSpace c = false := fun c hc => h c (List.mem_reverse.1 hc)
  rw [trim, dropWhile_whiteSpace h, dropWhile_whiteSpace hreverse, List.reverse_reverse]

end Text

theorem Binary64.digitsValue_eq (cs : List Char) : digitsValue cs = Nat.ofDigitChars 10 cs 0 := by
  have hstep : (fun (n : Nat) (c : Char) => n * 10 + (c.toNat - 48)) = fun n c => 10 * n + (c.toNat - '0'.toNat) := by
    funext n c
    rw [Nat.mul_comm]
    rfl
  rw [digitsValue, Nat.ofDigitChars_eq_foldl, hstep]

end PairedTls
