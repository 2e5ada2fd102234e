import Mathlib.Data.List.TakeWhile
import PairedTls.Proofs.ConfigEnvironment
import PairedTls.Proofs.DurationGrammar

namespace PairedTls.Config.Environment

open Duration

def spelling (c : Char) : Bool :=
  c.isDigit || ['+', 'm', 's'].contains c

theorem ne_of_spelling {c other : Char} (h : spelling c = true) (hother : spelling other = false) : c ≠ other := by
  rintro rfl
  rw [h] at hother
  cases hother

theorem whiteSpace_of_spelling {c : Char} (h : spelling c = true) : Text.whiteSpace c = false := by
  have hrange : 0x20 < c.toNat ∧ c.toNat < 0x7F := by
    simp only [spelling, Char.isDigit, Bool.or_eq_true, Bool.and_eq_true, decide_eq_true_eq, List.contains_eq_mem,
      List.mem_cons, List.not_mem_nil, or_false, UInt32.le_iff_toNat_le, ge_iff_le] at h
    rcases h with ⟨hlow, hhigh⟩ | rfl | rfl | rfl
    · change 48 ≤ c.toNat at hlow
      change c.toNat ≤ 57 at hhigh
      omega
    all_goals decide
  exact Text.whiteSpace_eq_false hrange.1 hrange.2

theorem readValue?_spelling {cs : List Char} (fuel : Nat) (hne : cs ≠ []) (h : ∀ c ∈ cs, spelling c = true) :
    readValue? (fuel + 1) cs = some (.scalar .environment (word cs), []) := by
  have htrim := Text.trim_eq_self fun c hc => whiteSpace_of_spelling (h c hc)
  have htake : cs.takeWhile (!separates ·) = cs := by
    refine List.takeWhile_eq_self_iff.2 fun c hc => ?_
    have hne (other : Char) : spelling other = false → c ≠ other := ne_of_spelling (h c hc)
    simp [separates, hne ',' rfl, hne '{' rfl, hne '}' rfl, hne '[' rfl, hne ']' rfl]
  obtain ⟨c, rest, rfl⟩ := List.exists_cons_of_ne_nil hne
  have hc (other : Char) : spelling other = false → c ≠ other := ne_of_spelling (h c List.mem_cons_self)
  have hblank : skipBlanks (c :: rest) = c :: rest := by
    simp [skipBlanks, blank, hc ' ' rfl, hc '\t' rfl, hc '\n' rfl, hc '\x0c' rfl, hc '\r' rfl]
  have htrue : stripWord? "true" (c :: rest) = none := by
    simp [stripWord?, (hc 't' rfl).symm]
  have hfalse : stripWord? "false" (c :: rest) = none := by
    simp [stripWord?, (hc 'f' rfl).symm]
  rw [readValue?]
  simp only [hblank, htrue, hfalse]
  split
  · next heq => exact absurd (List.cons.inj heq).1 (hc _ rfl)
  · next heq => exact absurd (List.cons.inj heq).1 (hc _ rfl)
  · next heq => exact absurd (List.cons.inj heq).1 (hc _ rfl)
  · next heq => exact absurd (List.cons.inj heq).1 (hc _ rfl)
  · rw [htake, htrim, List.drop_length]
    rfl

theorem value_spelling {text : String} (hne : text.toList ≠ []) (h : ∀ c ∈ text.toList, spelling c = true) :
    value text = .scalar .environment (word text.toList) := by
  rw [value]
  simp only [readValue?_spelling _ hne h]

theorem splitSign_numeral (w : Numeral) (tail : List Char) :
    Binary64.splitSign (w.text ++ tail) = (false, w.digits ++ tail) := by
  obtain ⟨signed, digits, hne, hdigits⟩ := w
  cases signed with
  | true => rfl
  | false =>
      obtain ⟨c, rest, rfl⟩ := List.exists_cons_of_ne_nil hne
      have hc := hdigits c List.mem_cons_self
      change Binary64.splitSign (c :: (rest ++ tail)) = (false, c :: (rest ++ tail))
      unfold Binary64.splitSign
      split
      · next heq =>
          rw [(List.cons.inj heq).1] at hc
          cases hc
      · next heq =>
          rw [(List.cons.inj heq).1] at hc
          cases hc
      · rfl

theorem spelling_of_text {w : Spelling} : ∀ c ∈ w.number.text ++ w.unit.text, spelling c = true := by
  have hdigits : ∀ c ∈ w.number.digits, spelling c = true := fun c hc => by
    rw [spelling, w.number.decimal c hc, Bool.true_or]
  have hunit : ∀ c ∈ w.unit.text, spelling c = true := by
    cases w.unit <;> exact List.all_eq_true.1 (by decide)
  intro c hc
  rcases List.mem_append.1 hc with hc | hc
  · rw [Numeral.text] at hc
    split_ifs at hc
    · rcases List.mem_cons.1 hc with rfl | hc
      · rfl
      · exact hdigits c hc
    · exact hdigits c hc
  · exact hunit c hc

theorem word_spelling {w : Spelling} (hfits : w.number.value < UInt64.size) :
    word (w.number.text ++ w.unit.text) =
      if w.unit = .unsaid then .unsigned w.number.value else .text w.text := by
  have hpoint : (w.number.text ++ w.unit.text).contains '.' = false := by
    refine Bool.eq_false_iff.2 fun hmem => ?_
    exact ne_of_spelling (spelling_of_text '.' (List.contains_iff_mem.1 hmem)) rfl rfl
  have hwhole : (!(w.number.digits ++ w.unit.text).isEmpty && (w.number.digits ++ w.unit.text).all Char.isDigit) =
      decide (w.unit = .unsaid) := by
    have hempty : (w.number.digits ++ w.unit.text).isEmpty = false := by
      simp [w.number.ne_nil]
    have hall : w.number.digits.all Char.isDigit = true := List.all_eq_true.2 w.number.decimal
    rw [hempty, List.all_append, hall]
    cases w.unit <;> rfl
  rw [word]
  simp only [splitSign_numeral, hpoint, hwhole, Bool.false_eq_true, if_false, Bool.not_false, Bool.and_true,
    Bool.and_false]
  by_cases hunit : w.unit = .unsaid
  · simp only [hunit, TimeUnit.text, List.append_nil, decide_true, Bool.true_and, Binary64.digitsValue_eq, if_true]
    exact if_pos (decide_eq_true hfits)
  · simp only [hunit, decide_false, Bool.false_and, if_false, Bool.false_eq_true]
    rfl

theorem value_of_spelling {w : Spelling} (hfits : w.number.value < UInt64.size) :
    value w.text = .scalar .environment (if w.unit = .unsaid then .unsigned w.number.value else .text w.text) := by
  have hlist : w.text.toList = w.number.text ++ w.unit.text := String.toList_ofList
  have hne : w.text.toList ≠ [] := by
    rw [hlist, Numeral.text]
    split_ifs <;> simp [w.number.ne_nil]
  rw [value_spelling hne (hlist ▸ spelling_of_text), hlist, word_spelling hfits]

end PairedTls.Config.Environment
