import Mathlib.Data.List.Basic
import Mathlib.Tactic.IntervalCases
import PairedTls.Base64

namespace PairedTls.Base64

def sextets : Bytes → List Nat
  | [] => []
  | [a] => [a.toNat / 4, a.toNat % 4 * 16]
  | [a, b] => [a.toNat / 4, a.toNat % 4 * 16 + b.toNat / 16, b.toNat % 16 * 4]
  | a :: b :: c :: rest =>
    a.toNat / 4 :: (a.toNat % 4 * 16 + b.toNat / 16) :: (b.toNat % 16 * 4 + c.toNat / 64) ::
      (c.toNat % 64) :: sextets rest

def padding : Bytes → Bytes
  | [] => []
  | [_] => [pad, pad]
  | [_, _] => [pad]
  | _ :: _ :: _ :: rest => padding rest

theorem encode_eq (der : Bytes) : encode der = (sextets der).map digit ++ padding der := by
  fun_induction encode der with
  | case1 | case2 | case3 => rfl
  | case4 a b c rest ih => simp [sextets, padding, ih]

theorem sextets_lt (der : Bytes) : ∀ n ∈ sextets der, n < 64 := by
  fun_induction sextets der with
  | case1 => simp
  | case2 a =>
      have ha := a.toNat_lt
      simp only [List.mem_cons, List.not_mem_nil, or_false]
      rintro n (rfl | rfl) <;> omega
  | case3 a b =>
      have ha := a.toNat_lt
      have hb := b.toNat_lt
      simp only [List.mem_cons, List.not_mem_nil, or_false]
      rintro n (rfl | rfl | rfl) <;> omega
  | case4 a b c rest ih =>
      have ha := a.toNat_lt
      have hb := b.toNat_lt
      have hc := c.toNat_lt
      simp only [List.mem_cons]
      rintro n (rfl | rfl | rfl | rfl | hn)
      · omega
      · omega
      · omega
      · omega
      · exact ih n hn

theorem padding_cases (der : Bytes) : padding der = [] ∨ padding der = [pad] ∨ padding der = [pad, pad] := by
  fun_induction padding der with
  | case1 => exact .inl rfl
  | case2 => exact .inr (.inr rfl)
  | case3 => exact .inr (.inl rfl)
  | case4 a b c rest ih => exact ih

theorem length_encode (der : Bytes) : (encode der).length % 4 = 0 := by
  fun_induction encode der with
  | case1 | case2 | case3 => simp
  | case4 a b c rest ih => simp only [List.length_cons]; omega

theorem value?_digit {n : Nat} (hn : n < 64) : value? (digit n) = some n := by
  have h : ∀ n : Fin 64, value? (digit n) = some n.val := by decide
  exact h ⟨n, hn⟩

def inAlphabet (b : UInt8) : Bool :=
  (value? b).isSome || b == pad

theorem mem_encode {der : Bytes} {b : UInt8} (hb : b ∈ encode der) : inAlphabet b = true := by
  rw [encode_eq, List.mem_append, List.mem_map] at hb
  rcases hb with ⟨n, hn, rfl⟩ | hb
  · simp [inAlphabet, value?_digit (sextets_lt der n hn)]
  · rcases padding_cases der with h | h | h <;> simp_all [inAlphabet]

theorem inAlphabet_spec {b : UInt8} (hb : inAlphabet b = true) :
    b ≠ 45 ∧ b ≠ 10 ∧ b ≠ 13 ∧ b.toNat < 128 ∧ blank b = false := by
  have h : ∀ n : Fin 256, inAlphabet (UInt8.ofNat n.val) = true →
      UInt8.ofNat n.val ≠ 45 ∧ UInt8.ofNat n.val ≠ 10 ∧ UInt8.ofNat n.val ≠ 13 ∧
        (UInt8.ofNat n.val).toNat < 128 ∧ blank (UInt8.ofNat n.val) = false := by decide +kernel
  have hn := h ⟨b.toNat, b.toNat_lt⟩
  simp only [UInt8.ofNat_toNat] at hn
  exact hn hb

theorem ofNat_eq {a : UInt8} {n : Nat} (h : n = a.toNat) : UInt8.ofNat n = a := by
  rw [h, UInt8.ofNat_toNat]

theorem ofDigits_sextets (der : Bytes) : ofDigits (sextets der) = some (der, 0) := by
  fun_induction sextets der with
  | case1 => rfl
  | case2 a =>
      have ha := a.toNat_lt
      have h : UInt8.ofNat (a.toNat / 4 * 4 + a.toNat % 4 * 16 / 16) = a := ofNat_eq (by omega)
      simp only [ofDigits, h]
      congr 2
      omega
  | case3 a b =>
      have ha := a.toNat_lt
      have hb := b.toNat_lt
      have h : UInt8.ofNat (a.toNat / 4 * 4 + (a.toNat % 4 * 16 + b.toNat / 16) / 16) = a := ofNat_eq (by omega)
      have h' : UInt8.ofNat ((a.toNat % 4 * 16 + b.toNat / 16) % 16 * 16 + b.toNat % 16 * 4 / 4) = b :=
        ofNat_eq (by omega)
      simp only [ofDigits, h, h']
      congr 2
      omega
  | case4 a b c rest ih =>
      have ha := a.toNat_lt
      have hb := b.toNat_lt
      have hc := c.toNat_lt
      have h : UInt8.ofNat (a.toNat / 4 * 4 + (a.toNat % 4 * 16 + b.toNat / 16) / 16) = a := ofNat_eq (by omega)
      have h' : UInt8.ofNat ((a.toNat % 4 * 16 + b.toNat / 16) % 16 * 16 +
          (b.toNat % 16 * 4 + c.toNat / 64) / 4) = b := ofNat_eq (by omega)
      have h'' : UInt8.ofNat ((b.toNat % 16 * 4 + c.toNat / 64) % 4 * 64 + c.toNat % 64) = c := ofNat_eq (by omega)
      simp only [ofDigits, ih, h, h', h'', Option.bind_eq_bind, Option.bind_some, pure]

theorem digits?_map (ns : List Nat) (hns : ∀ n ∈ ns, n < 64) : digits? (ns.map digit) = some ns := by
  induction ns with
  | nil => rfl
  | cons n ns ih =>
      have h := ih fun m hm => hns m (List.mem_cons_of_mem n hm)
      simp [digits?, value?_digit (hns n List.mem_cons_self), h]

theorem digit_ne_pad {n : Nat} (hn : n < 64) : digit n ≠ pad := by
  intro h
  have hv := value?_digit hn
  have hpad : value? pad = none := rfl
  rw [h, hpad] at hv
  cases hv

theorem splitPadding_encode (der : Bytes) :
    splitPadding (encode der) = ((sextets der).map digit, padding der) := by
  have hdigits : ∀ b ∈ (sextets der).map digit, (b != pad) = true := by
    intro b hb
    obtain ⟨n, hn, rfl⟩ := List.mem_map.1 hb
    simpa using digit_ne_pad (sextets_lt der n hn)
  have hpad : (padding der).takeWhile (· != pad) = [] ∧ (padding der).dropWhile (· != pad) = padding der := by
    rcases padding_cases der with h | h | h <;> rw [h] <;> decide
  rw [splitPadding, encode_eq, List.takeWhile_append_of_pos hdigits, List.dropWhile_append_of_pos hdigits,
    hpad.1, hpad.2, List.append_nil]

theorem padding_ok (der : Bytes) : (padding der).any (· != pad) = false ∧ (padding der).length ≤ 2 := by
  rcases padding_cases der with h | h | h <;> rw [h] <;> decide

theorem decodeExact?_encode (der : Bytes) : decodeExact? (encode der) = some der := by
  obtain ⟨hpad, hlen⟩ := padding_ok der
  simp [decodeExact?, splitPadding_encode, length_encode, hpad, Nat.not_lt.2 hlen,
    digits?_map _ (sextets_lt der), ofDigits_sextets]

theorem decodeLoose?_encode (der : Bytes) : decodeLoose? (encode der) = some der := by
  obtain ⟨hpad, hlen⟩ := padding_ok der
  have hsolid : (encode der).filter (!blank ·) = encode der :=
    List.filter_eq_self.2 fun b hb => by simp [(inAlphabet_spec (mem_encode hb)).2.2.2.2]
  simp [decodeLoose?, hsolid, splitPadding_encode, length_encode, hpad, Nat.not_lt.2 hlen,
    digits?_map _ (sextets_lt der), ofDigits_sextets]

/-- Blanks make no difference to the tolerant reader, wherever they stand. -/
theorem decodeLoose?_filter (text : Bytes) : decodeLoose? (text.filter (!blank ·)) = decodeLoose? text := by
  simp [decodeLoose?, List.filter_filter]

theorem value?_of_digits? {bs : Bytes} {ds : List Nat} (h : digits? bs = some ds) :
    ∀ b ∈ bs, (value? b).isSome = true := by
  induction bs generalizing ds with
  | nil => exact List.forall_mem_nil _
  | cons b bs ih =>
      obtain ⟨d, hd, h⟩ := Option.bind_eq_some_iff.1 h
      obtain ⟨more, hmore, -⟩ := Option.bind_eq_some_iff.1 h
      exact List.forall_mem_cons.2 ⟨by rw [hd]; rfl, ih hmore⟩

theorem mem_of_decodeLoose? {text out : Bytes} (h : decodeLoose? text = some out) {b : UInt8} (hb : b ∈ text) :
    blank b = true ∨ inAlphabet b = true := by
  by_cases hblank : blank b = true
  · exact .inl hblank
  · right
    have hsolid : b ∈ text.filter (!blank ·) := List.mem_filter.2 ⟨hb, by simp [hblank]⟩
    rw [decodeLoose?] at h
    dsimp only [splitPadding] at h
    simp only [Option.ite_none_left_eq_some] at h
    obtain ⟨hpad, -, h⟩ := h
    obtain ⟨ds, hds, -⟩ := Option.bind_eq_some_iff.1 h
    rw [← List.takeWhile_append_dropWhile (p := (· != pad)) (l := text.filter (!blank ·)), List.mem_append] at hsolid
    rcases hsolid with hbody | hpadding
    · rw [inAlphabet, value?_of_digits? hds b hbody, Bool.true_or]
    · obtain rfl : b = pad := by
        by_contra hne
        exact hpad (List.any_eq_true.2 ⟨b, hpadding, bne_iff_ne.2 hne⟩)
      rfl

theorem plain_of_decodeLoose? {text out : Bytes} (h : decodeLoose? text = some out) {b : UInt8} (hb : b ∈ text) :
    b ≠ 45 ∧ b ≠ 58 ∧ b < 0x80 := by
  have hall : ∀ n : Fin 256, blank (UInt8.ofNat n.val) = true ∨ inAlphabet (UInt8.ofNat n.val) = true →
      UInt8.ofNat n.val ≠ 45 ∧ UInt8.ofNat n.val ≠ 58 ∧ UInt8.ofNat n.val < 0x80 := by decide +kernel
  have hn := hall ⟨b.toNat, b.toNat_lt⟩
  simp only [UInt8.ofNat_toNat] at hn
  exact hn (mem_of_decodeLoose? h hb)

theorem decodeLoose?_of_decodeExact? {text out : Bytes} (hsolid : ∀ b ∈ text, blank b = false)
    (h : decodeExact? text = some out) : decodeLoose? text = some out := by
  have hfilter : text.filter (!blank ·) = text := List.filter_eq_self.2 fun b hb => by simp [hsolid b hb]
  rw [decodeExact?] at h
  rw [decodeLoose?, hfilter]
  dsimp only [splitPadding] at h ⊢
  simp only [Option.ite_none_left_eq_some] at h ⊢
  obtain ⟨hshape, h⟩ := h
  obtain ⟨hlength, hpadding⟩ := not_or.1 hshape
  obtain ⟨hshort, hany⟩ := not_or.1 hpadding
  obtain ⟨ds, hds, h⟩ := Option.bind_eq_some_iff.1 h
  obtain ⟨⟨bytes, loose⟩, hbytes, h⟩ := Option.bind_eq_some_iff.1 h
  obtain ⟨-, h⟩ := Option.ite_none_right_eq_some.1 h
  refine ⟨hany, fun hcut => hcut.2.elim hlength hshort, ?_⟩
  rw [hds, ← h]
  simp only [Option.bind_eq_bind, Option.bind_some, hbytes]
  rfl

end PairedTls.Base64
