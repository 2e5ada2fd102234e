import Mathlib.Data.Nat.Log
import Mathlib.Tactic.Ring
import PairedTls.Certificate.Decode
import PairedTls.Der.Writer

namespace PairedTls

namespace Bytes

theorem foldl_eq (b : Bytes) (n : Nat) :
    b.foldl (fun n x => n * 256 + x.toNat) n = n * 256 ^ b.length + toNat b := by
  induction b generalizing n with
  | nil => simp [toNat]
  | cons x b ih =>
      have hcons : toNat (x :: b) = (0 * 256 + x.toNat) * 256 ^ b.length + toNat b := ih (0 * 256 + x.toNat)
      rw [List.foldl_cons, ih, hcons, List.length_cons, Nat.pow_succ]
      ring

theorem toNat_cons (x : UInt8) (b : Bytes) : toNat (x :: b) = x.toNat * 256 ^ b.length + toNat b := by
  rw [toNat, List.foldl_cons, foldl_eq, Nat.zero_mul, Nat.zero_add]

theorem toNat_ofNat (width n : Nat) : toNat (ofNat width n) = n % 256 ^ width := by
  induction width with
  | zero => simp [ofNat, toNat, Nat.mod_one]
  | succ width ih =>
      have hbyte : (UInt8.ofNat (n / Nat.pow 256 width)).toNat = n / 256 ^ width % 256 := UInt8.toNat_ofNat'
      rw [ofNat, toNat_cons, ih, length_ofNat, hbyte, Nat.pow_succ, Nat.mod_mul]
      ring

theorem pow_byte (w : Nat) : 256 ^ w = 2 ^ (8 * w) :=
  (Nat.pow_mul 2 8 w).symm

theorem lt_pow_widthOf (n : Nat) : n < 256 ^ widthOf n := by
  by_cases hn : n = 0
  · simp [hn]
  · have h := Nat.lt_log2_self (n := n)
    have hle : n.log2 + 1 ≤ 8 * (n.log2 / 8 + 1) := by omega
    have hpow := Nat.pow_le_pow_right (n := 2) (by omega) hle
    rw [Nat.pow_mul] at hpow
    rw [widthOf, if_neg hn]
    exact Nat.lt_of_lt_of_le h hpow

theorem widthOf_le {n w : Nat} (h : n < 256 ^ w) : widthOf n ≤ w := by
  by_cases hn : n = 0
  · simp [widthOf, hn]
  · rw [widthOf, if_neg hn]
    have hlog : 2 ^ n.log2 < 2 ^ (8 * w) := by
      rw [Nat.pow_mul]
      exact Nat.lt_of_le_of_lt (Nat.log2_self_le hn) h
    have := (Nat.pow_lt_pow_iff_right (by omega : 1 < 2)).1 hlog
    omega

theorem toNat_minimal (n : Nat) : toNat (minimal n) = n := by
  rw [minimal, toNat_ofNat, Nat.mod_eq_of_lt (lt_pow_widthOf n)]

theorem length_minimal (n : Nat) : (minimal n).length = widthOf n :=
  length_ofNat _ _

theorem minimal_head {n : Nat} (hn : n ≠ 0) : ∃ b rest, minimal n = b :: rest ∧ b ≠ 0 := by
  have hwidth : widthOf n = n.log2 / 8 + 1 := if_neg hn
  refine ⟨UInt8.ofNat (n / Nat.pow 256 (n.log2 / 8)), ofNat (n.log2 / 8) n, by rw [minimal, hwidth, ofNat], ?_⟩
  intro h
  have hlow : 256 ^ (n.log2 / 8) ≤ n := by
    refine Nat.le_trans ?_ (Nat.log2_self_le hn)
    rw [pow_byte]
    exact Nat.pow_le_pow_right (by omega) (by omega)
  have hhigh : n < 256 * 256 ^ (n.log2 / 8) := by
    have h := lt_pow_widthOf n
    rwa [hwidth, Nat.pow_succ, Nat.mul_comm] at h
  have hpos : 0 < 256 ^ (n.log2 / 8) := Nat.pow_pos (by omega)
  have hone : 1 ≤ n / 256 ^ (n.log2 / 8) := (Nat.one_le_div_iff hpos).2 hlow
  have hlt : n / 256 ^ (n.log2 / 8) < 256 := (Nat.div_lt_iff_lt_mul hpos).2 hhigh
  have hval := congrArg UInt8.toNat h
  rw [UInt8.toNat_ofNat', Nat.mod_eq_of_lt (by simpa using hlt)] at hval
  change n / 256 ^ (n.log2 / 8) = 0 at hval
  omega

theorem toNat_singleton (b : UInt8) : toNat [b] = b.toNat := by simp [toNat]

theorem toNat_lt (b : Bytes) : toNat b < 256 ^ b.length := by
  induction b with
  | nil => decide
  | cons x b ih =>
      have hx : x.toNat + 1 ≤ 256 := x.toNat_lt
      have hmul := Nat.mul_le_mul_right (256 ^ b.length) hx
      rw [toNat_cons, List.length_cons, Nat.pow_succ, Nat.mul_comm _ 256]
      rw [Nat.add_mul, Nat.one_mul] at hmul
      omega

theorem eq_of_toNat {a b : Bytes} (hlength : a.length = b.length) (h : toNat a = toNat b) : a = b := by
  induction a generalizing b with
  | nil => exact (List.length_eq_zero_iff.1 hlength.symm).symm
  | cons x a ih =>
      cases b with
      | nil => cases hlength
      | cons y b =>
          have hrest : a.length = b.length := Nat.succ.inj hlength
          have ha := toNat_lt a
          have hb := toNat_lt b
          have hpos : 0 < 256 ^ b.length := Nat.pow_pos (by decide)
          rw [hrest] at ha
          rw [toNat_cons, toNat_cons, hrest] at h
          have hfirst : x.toNat = y.toNat := by
            have hdiv := congrArg (· / 256 ^ b.length) h
            simpa [Nat.mul_comm, Nat.mul_add_div hpos, Nat.div_eq_of_lt ha, Nat.div_eq_of_lt hb] using hdiv
          rw [hfirst] at h
          rw [UInt8.toNat_inj.1 hfirst, ih hrest (Nat.add_left_cancel h)]

theorem minimal_toNat {b : Bytes} (h : b.head? ≠ some 0) : minimal (toNat b) = b := by
  have hwidth : widthOf (toNat b) = b.length := by
    refine Nat.le_antisymm (widthOf_le (toNat_lt b)) ?_
    cases b with
    | nil => exact Nat.zero_le _
    | cons x b =>
        have hx : 1 ≤ x.toNat := Nat.one_le_iff_ne_zero.2 fun hzero =>
          h (congrArg some (UInt8.toNat_inj.1 hzero))
        have hlow : 256 ^ b.length ≤ toNat (x :: b) := by
          rw [toNat_cons]
          exact Nat.le_trans (Nat.le_mul_of_pos_left _ hx) (Nat.le_add_right _ _)
        have hlt := Nat.lt_of_le_of_lt hlow (lt_pow_widthOf (toNat (x :: b)))
        exact (Nat.pow_lt_pow_iff_right (by decide : 1 < 256)).1 hlt
  refine eq_of_toNat ((length_minimal _).trans hwidth) (toNat_minimal _)

end Bytes

namespace Der

/-- What an element can hold for its length to be readable. -/
def sizeBound : Nat := 4294967296

theorem splitExact_append {n : Nat} {a : Bytes} (hn : a.length = n) (b : Bytes) :
    splitExact n (a ++ b) = some (a, b) := by
  subst hn
  simp [splitExact]

theorem splitExact_eq_some {n : Nat} {bs front rest : Bytes} (h : splitExact n bs = some (front, rest)) :
    front.length = n ∧ bs = front ++ rest ∧ rest = bs.drop n := by
  rw [splitExact] at h
  obtain ⟨hlength, h⟩ := Option.ite_none_left_eq_some.1 h
  obtain ⟨rfl, rfl⟩ := Prod.mk.inj (Option.some.inj h)
  rw [List.length_take] at hlength ⊢
  exact ⟨by omega, (List.take_append_drop n bs).symm, rfl⟩

theorem consumed_append (a rest : Bytes) : consumed (a ++ rest) rest = a := by
  simp [consumed]

theorem widthOf_bounds {n : Nat} (hlow : 128 ≤ n) (hn : n < sizeBound) :
    0 < Bytes.widthOf n ∧ Bytes.widthOf n ≤ 4 := by
  constructor
  · rw [Bytes.widthOf, if_neg (by omega)]; omega
  · exact Bytes.widthOf_le (by simpa [sizeBound] using hn)

theorem toNat_ofNat_lt {n : Nat} (hn : n < 256) : (UInt8.ofNat n).toNat = n := by
  rw [UInt8.toNat_ofNat', Nat.mod_eq_of_lt hn]

theorem length_write_le {content : Bytes} (h : content.length < sizeBound) (tag : UInt8) :
    (write tag content).length ≤ content.length + 6 := by
  simp only [write, writeLength, List.length_append, List.length_cons]
  split
  · simp only [List.length_cons, List.length_nil]; omega
  · have hw := (widthOf_bounds (by omega) h).2
    simp only [List.length_cons, Bytes.length_minimal]; omega

theorem write_eq_cons {content : Bytes} (h : content.length < sizeBound) (tag : UInt8) (tail : Bytes) :
    ∃ n rest, write tag content ++ tail = tag :: n :: rest ∧ rest.drop (n.toNat - 128) = content ++ tail := by
  rw [write, writeLength, List.append_assoc]
  split
  · next hshort =>
      refine ⟨UInt8.ofNat content.length, content ++ tail, rfl, ?_⟩
      rw [toNat_ofNat_lt (by omega), Nat.sub_eq_zero_of_le (by omega)]
      rfl
  · next hlong =>
      obtain ⟨_, hwidth⟩ := widthOf_bounds (Nat.not_lt.1 hlong) h
      refine ⟨UInt8.ofNat (128 + Bytes.widthOf content.length), _, rfl, ?_⟩
      rw [toNat_ofNat_lt (by omega), Nat.add_sub_cancel_left, ← Bytes.length_minimal]
      exact List.drop_left

namespace Strict

theorem readLength_writeLength {n : Nat} (hn : n < sizeBound) (rest : Bytes) :
    readLength (writeLength n ++ rest) = some (n, rest) := by
  rw [writeLength]
  split
  · next h =>
      rw [List.singleton_append, readLength, toNat_ofNat_lt (by omega), if_pos h]
  · next h =>
      obtain ⟨hpos, hle⟩ := widthOf_bounds (Nat.not_lt.1 h) hn
      obtain ⟨b, more, hb, hne⟩ := Bytes.minimal_head (n := n) (by omega)
      rw [List.cons_append, readLength, toNat_ofNat_lt (by omega), if_neg (by omega),
        if_neg (by omega), splitExact_append (by rw [Bytes.length_minimal]; omega)]
      have hval := Bytes.toNat_minimal n
      rw [hb] at hval ⊢
      simp [hval, h, hne]

theorem sequenceTag_short : sequenceTag.toNat % 32 ≠ 31 := by decide

theorem integerTag_short : integerTag.toNat % 32 ≠ 31 := by decide

theorem bitStringTag_short : bitStringTag.toNat % 32 ≠ 31 := by decide

theorem octetStringTag_short : octetStringTag.toNat % 32 ≠ 31 := by decide

theorem readAny_write {tag : UInt8} (htag : tag.toNat % 32 ≠ 31) {content : Bytes} (h : content.length < sizeBound)
    (rest : Bytes) : readAny (write tag content ++ rest) = some (tag, content, rest) := by
  simp [write, readAny, htag, readLength_writeLength h, splitExact_append rfl]

theorem read_write {tag : UInt8} (htag : tag.toNat % 32 ≠ 31) {content : Bytes} (h : content.length < sizeBound)
    (rest : Bytes) : read tag (write tag content ++ rest) = some (content, rest) := by
  simp [read, readAny_write htag h]

theorem read_write_ne {tag other : UInt8} (htag : tag.toNat % 32 ≠ 31) (hne : tag ≠ other) {content : Bytes}
    (h : content.length < sizeBound) (rest : Bytes) : read other (write tag content ++ rest) = none := by
  simp [read, readAny_write htag h, hne]

theorem readOnly_write {tag : UInt8} (htag : tag.toNat % 32 ≠ 31) {content : Bytes}
    (h : content.length < sizeBound) : readOnly tag (write tag content) = some content := by
  have hread := read_write htag h []
  rw [List.append_nil] at hread
  simp [readOnly, hread]

theorem natural_naturalContent (n : Nat) : natural (naturalContent n) = some n := by
  by_cases hn : n = 0
  · subst hn; rfl
  · obtain ⟨b, more, hb, hne⟩ := Bytes.minimal_head hn
    have hval := Bytes.toNat_minimal n
    rw [hb] at hval
    have hnat : b.toNat ≠ 0 := fun h => hne (UInt8.toNat_inj.1 (by simpa using h))
    simp only [naturalContent, hb]
    split
    · next hlt =>
        cases more with
        | nil => rw [natural, if_pos hlt, ← Bytes.toNat_singleton, hval]
        | cons c more => rw [natural, if_neg (by simp [hne]; omega), hval]
    · next hge =>
        have hzero : Bytes.toNat (0 :: b :: more) = n := by
          rw [Bytes.toNat_cons, hval]
          simp
        rw [natural, if_neg (by simp; omega), hzero]

theorem toNat_naturalContent (n : Nat) : Bytes.toNat (naturalContent n) = n := by
  have hvalue := Bytes.toNat_minimal n
  rw [naturalContent]
  split
  · next hdigits =>
      rw [hdigits] at hvalue
      rw [Bytes.toNat_singleton]
      exact hvalue
  · split
    · exact hvalue
    · rw [Bytes.toNat_cons, hvalue]
      simp

theorem length_naturalContent_le (n : Nat) : (naturalContent n).length ≤ Bytes.widthOf n + 1 := by
  have hlen := Bytes.length_minimal n
  rw [naturalContent]
  split
  · simp
  · next hb =>
      rw [hb] at hlen
      split
      · rw [hb]; omega
      · rw [List.length_cons, hb]; omega

theorem readNatural_writeNatural {n : Nat} (h : Bytes.widthOf n + 1 < sizeBound) (rest : Bytes) :
    readNatural (writeNatural n ++ rest) = some (n, rest) := by
  have hlen := Nat.lt_of_le_of_lt (length_naturalContent_le n) h
  simp [readNatural, writeNatural, read_write integerTag_short hlen, natural_naturalContent]

theorem readLength_eq_write {bs rest : Bytes} {n : Nat} (h : readLength bs = some (n, rest)) :
    n < sizeBound ∧ bs = writeLength n ++ rest := by
  cases bs with
  | nil => cases h
  | cons b more =>
      rw [readLength] at h
      split_ifs at h with hb
      · obtain ⟨rfl, rfl⟩ := Prod.mk.inj (Option.some.inj h)
        refine ⟨Nat.lt_trans hb (by decide), ?_⟩
        rw [writeLength, if_pos hb, UInt8.ofNat_toNat]
        rfl
      · dsimp only at h
        obtain ⟨hcount, h⟩ := Option.ite_none_left_eq_some.1 h
        obtain ⟨⟨spelled, after⟩, hsplit, h⟩ := Option.bind_eq_some_iff.1 h
        obtain ⟨hshape, h⟩ := Option.ite_none_left_eq_some.1 h
        obtain ⟨rfl, rfl⟩ := Prod.mk.inj (Option.some.inj h)
        obtain ⟨hlow, hhead⟩ := not_or.1 hshape
        obtain ⟨hlength, rfl, -⟩ := splitExact_eq_some hsplit
        have hminimal := Bytes.minimal_toNat hhead
        have hwidth : Bytes.widthOf (Bytes.toNat spelled) = b.toNat - 128 := by
          rw [← Bytes.length_minimal, hminimal, hlength]
        have hfirst : UInt8.ofNat (128 + (b.toNat - 128)) = b := by
          rw [Nat.add_sub_cancel' (by omega), UInt8.ofNat_toNat]
        refine ⟨?_, ?_⟩
        · have hpow : 256 ^ spelled.length ≤ 256 ^ 4 := Nat.pow_le_pow_right (by decide) (by omega)
          exact Nat.lt_of_lt_of_le (Bytes.toNat_lt spelled) hpow
        · rw [writeLength, if_neg hlow, hwidth, hfirst, hminimal]
          rfl

/-- What is read stands there as it would be written. -/
theorem read_eq_some {tag : UInt8} {bs content rest : Bytes} (h : read tag bs = some (content, rest)) :
    content.length < sizeBound ∧ bs = write tag content ++ rest := by
  obtain ⟨⟨found, inner, after⟩, hany, h⟩ := Option.bind_eq_some_iff.1 h
  obtain ⟨rfl, hfound⟩ := Option.ite_none_right_eq_some.1 h
  obtain ⟨rfl, rfl⟩ := Prod.mk.inj (Option.some.inj hfound)
  cases bs with
  | nil => cases hany
  | cons first bs =>
      rw [readAny] at hany
      obtain ⟨-, hany⟩ := Option.ite_none_left_eq_some.1 hany
      obtain ⟨⟨n, rest⟩, hlength, hany⟩ := Option.bind_eq_some_iff.1 hany
      obtain ⟨⟨front, back⟩, hsplit, hany⟩ := Option.bind_eq_some_iff.1 hany
      obtain ⟨rfl, hpair⟩ := Prod.mk.inj (Option.some.inj hany)
      obtain ⟨rfl, rfl⟩ := Prod.mk.inj hpair
      obtain ⟨hbound, rfl⟩ := readLength_eq_write hlength
      obtain ⟨rfl, rfl, -⟩ := splitExact_eq_some hsplit
      exact ⟨hbound, by rw [write, List.append_assoc, List.cons_append]⟩

theorem readOnly_eq_some {tag : UInt8} {bs content : Bytes} (h : readOnly tag bs = some content) :
    bs = write tag content := by
  obtain ⟨⟨inner, rest⟩, hread, h⟩ := Option.bind_eq_some_iff.1 h
  obtain ⟨hrest, hcontent⟩ := Option.ite_none_right_eq_some.1 h
  obtain rfl := Option.some.inj hcontent
  rw [(read_eq_some hread).2, List.isEmpty_iff.1 hrest, List.append_nil]

theorem readBits_eq_some {bs bits rest : Bytes} (h : readBits bs = some (bits, rest)) :
    bs = writeBits bits ++ rest := by
  obtain ⟨⟨content, after⟩, hread, h⟩ := Option.bind_eq_some_iff.1 h
  dsimp only at h
  split at h
  · obtain ⟨rfl, rfl⟩ := Prod.mk.inj (Option.some.inj h)
    exact (read_eq_some hread).2
  · cases h

theorem natural_eq_some {content : Bytes} {n : Nat} (h : natural content = some n) : content = naturalContent n := by
  match content with
  | [] => cases h
  | [b] =>
      rw [natural] at h
      obtain ⟨hlow, h⟩ := Option.ite_none_right_eq_some.1 h
      cases Option.some.inj h
      by_cases hb : b = 0
      · rw [hb]; rfl
      · have hminimal : Bytes.minimal (Bytes.toNat [b]) = [b] := Bytes.minimal_toNat (by simpa using hb)
        rw [Bytes.toNat_singleton] at hminimal
        rw [naturalContent, hminimal]
        exact (if_pos hlow).symm
  | b :: c :: more =>
      rw [natural] at h
      obtain ⟨hshape, h⟩ := Option.ite_none_left_eq_some.1 h
      obtain ⟨hhigh, hlow⟩ := not_or.1 hshape
      cases Option.some.inj h
      by_cases hb : b = 0
      · have hc : 128 ≤ c.toNat := Nat.le_of_not_lt fun hlt => hlow ⟨hb, hlt⟩
        have hne : c ≠ 0 := fun hzero => absurd (hzero ▸ hc) (by decide)
        have hvalue : Bytes.toNat (b :: c :: more) = Bytes.toNat (c :: more) := by
          rw [hb, Bytes.toNat_cons]
          simp
        rw [hvalue, naturalContent, Bytes.minimal_toNat (by simpa using hne), hb]
        exact (if_neg (Nat.not_lt.2 hc)).symm
      · rw [naturalContent, Bytes.minimal_toNat (by simpa using hb)]
        exact (if_pos (Nat.lt_of_not_le hhigh)).symm

theorem readNatural_eq_some {bs rest : Bytes} {n : Nat} (h : readNatural bs = some (n, rest)) :
    bs = writeNatural n ++ rest := by
  obtain ⟨⟨content, after⟩, hread, h⟩ := Option.bind_eq_some_iff.1 h
  obtain ⟨m, hnatural, h⟩ := Option.bind_eq_some_iff.1 h
  obtain ⟨rfl, rfl⟩ := Prod.mk.inj (Option.some.inj h)
  rw [writeNatural, ← natural_eq_some hnatural]
  exact (read_eq_some hread).2

end Strict

theorem readLength_writeLength {n : Nat} (hn : n < sizeBound) (rest : Bytes) :
    readLength (writeLength n ++ rest) = some (some n, rest) := by
  rw [writeLength]
  split
  · next h =>
      rw [List.singleton_append, readLength, toNat_ofNat_lt (by omega)]
      exact if_pos h
  · next h =>
      obtain ⟨hpos, hle⟩ := widthOf_bounds (Nat.not_lt.1 h) hn
      have hlen : (Bytes.minimal n).length = 128 + Bytes.widthOf n - 128 := by rw [Bytes.length_minimal]; omega
      have hsignificant : (Bytes.significant (Bytes.minimal n)).length ≤ 8 :=
        (List.dropWhile_sublist _).length_le.trans (by omega)
      simp only [List.cons_append, readLength, toNat_ofNat_lt (by omega : 128 + Bytes.widthOf n < 256)]
      rw [if_neg (by omega), if_neg (by omega), if_neg (by omega), ← hlen, List.take_left, List.drop_left,
        if_neg (by omega), Bytes.toNat_minimal]

def headerOf (tag : UInt8) (content : Bytes) : Header :=
  ⟨tag.toNat / 64, tag.toNat / 32 % 2 = 1, tag.toNat % 32, some content.length⟩

def elementOf (tag : UInt8) (content : Bytes) : Element :=
  ⟨tag.toNat / 64, tag.toNat / 32 % 2 = 1, tag.toNat % 32, content⟩

variable {tag : UInt8} {content : Bytes}

theorem readHeader_write (htag : tag.toNat % 32 ≠ 31) (h : content.length < sizeBound) (rest : Bytes) :
    readHeader (write tag content ++ rest) = some (headerOf tag content, content ++ rest) := by
  simp [write, readHeader, htag, readLength_writeLength h, headerOf]

theorem readElement_write (htag : tag.toNat % 32 ≠ 31) (h : content.length < sizeBound) (rest : Bytes) :
    readElement (write tag content ++ rest) = some (elementOf tag content, rest) := by
  rw [readElement, readHeader_write htag h]
  simp [headerOf, elementOf, splitExact_append]

theorem readTagged_write (htag : tag.toNat % 32 ≠ 31) (h : content.length < sizeBound) (rest : Bytes) :
    readTagged (tag.toNat % 32) (write tag content ++ rest) = some (elementOf tag content, rest) := by
  rw [readTagged, readElement_write htag h]
  simp [elementOf]

theorem readTagged_write_ne {number : Nat} (htag : tag.toNat % 32 ≠ 31) (hne : tag.toNat % 32 ≠ number)
    (h : content.length < sizeBound) (rest : Bytes) : readTagged number (write tag content ++ rest) = none := by
  rw [readTagged, readElement_write htag h]
  exact if_neg hne

theorem readContent_write (htag : tag.toNat % 32 ≠ 31) (h : content.length < sizeBound) (rest : Bytes) :
    readContent (tag.toNat % 32) (write tag content ++ rest) = some (content, rest) := by
  rw [readContent, readTagged_write htag h]
  rfl

theorem readContent_sequence (h : content.length < sizeBound) (rest : Bytes) :
    readContent Tag.sequence (write Strict.sequenceTag content ++ rest) = some (content, rest) :=
  readContent_write Strict.sequenceTag_short h rest

theorem readPrimitive_write (htag : tag.toNat % 32 ≠ 31) (hplain : tag.toNat / 32 % 2 = 0)
    (h : content.length < sizeBound) (rest : Bytes) :
    readPrimitive (tag.toNat % 32) (write tag content ++ rest) = some (content, rest) := by
  rw [readPrimitive, readTagged_write htag h]
  simp [elementOf, hplain]

theorem readNested_write (htag : tag.toNat % 32 ≠ 31) (hzero : tag.toNat % 32 ≠ 0) (h : content.length < sizeBound)
    (rest : Bytes) : readNested (write tag content ++ rest) = some (elementOf tag content, rest) := by
  rw [readNested, readHeader_write htag h]
  simp [skipContent, maxDepth, headerOf, hzero, splitExact_append, consumed_append, elementOf]

variable {bs rest : Bytes} {number n : Nat}

theorem splitExact_behind {front : Bytes} (h : splitExact n bs = some (front, rest)) (tail : Bytes) :
    splitExact n (bs ++ tail) = some (front, rest ++ tail) := by
  obtain ⟨hlength, rfl, -⟩ := splitExact_eq_some h
  rw [List.append_assoc, splitExact_append hlength]

theorem longNumber_behind {fuel acc : Nat} (h : longNumber fuel acc bs = some (n, rest)) (tail : Bytes) :
    longNumber fuel acc (bs ++ tail) = some (n, rest ++ tail) := by
  induction fuel generalizing acc bs with
  | zero => cases h
  | succ fuel ih =>
      cases bs with
      | nil => cases h
      | cons b bs =>
          simp only [List.cons_append, longNumber] at h ⊢
          split_ifs at h ⊢
          · obtain ⟨rfl, rfl⟩ := Prod.mk.inj (Option.some.inj h)
            rfl
          · exact ih h

theorem readLength_behind {length : Option Nat} (h : readLength bs = some (length, rest)) (tail : Bytes) :
    readLength (bs ++ tail) = some (length, rest ++ tail) := by
  cases bs with
  | nil => cases h
  | cons b bs =>
      simp only [List.cons_append, readLength] at h ⊢
      by_cases hspelled : (bs.take (b.toNat - 128)).length < b.toNat - 128 ∨
          8 < (Bytes.significant (bs.take (b.toNat - 128))).length
      · rw [if_pos hspelled] at h
        split_ifs at h ⊢
        all_goals
          obtain ⟨rfl, rfl⟩ := Prod.mk.inj (Option.some.inj h)
          rfl
      · have hlength : b.toNat - 128 ≤ bs.length := by
          rw [List.length_take] at hspelled
          omega
        rw [List.take_append_of_le_length hlength, List.drop_append_of_le_length hlength]
        split_ifs at h ⊢
        all_goals
          obtain ⟨rfl, rfl⟩ := Prod.mk.inj (Option.some.inj h)
          rfl

theorem readHeader_behind {header : Header} (h : readHeader bs = some (header, rest)) (tail : Bytes) :
    readHeader (bs ++ tail) = some (header, rest ++ tail) := by
  cases bs with
  | nil => cases h
  | cons b bs =>
      simp only [List.cons_append, readHeader] at h ⊢
      split_ifs at h ⊢ with hlong
      · obtain ⟨⟨number, after⟩, hnumber, h⟩ := Option.bind_eq_some_iff.1 h
        obtain ⟨⟨length, after'⟩, hlength, h⟩ := Option.bind_eq_some_iff.1 h
        obtain ⟨rfl, rfl⟩ := Prod.mk.inj (Option.some.inj h)
        simp only [longNumber_behind hnumber tail, readLength_behind hlength tail, Option.bind_eq_bind,
          Option.bind_some]
        rfl
      · obtain ⟨_, hnumber, h⟩ := Option.bind_eq_some_iff.1 h
        cases hnumber
        obtain ⟨⟨length, after⟩, hlength, h⟩ := Option.bind_eq_some_iff.1 h
        obtain ⟨rfl, rfl⟩ := Prod.mk.inj (Option.some.inj h)
        simp only [readLength_behind hlength tail, Option.bind_eq_bind, Option.bind_some]
        rfl

theorem readElement_behind {element : Element} (h : readElement bs = some (element, rest)) (tail : Bytes) :
    readElement (bs ++ tail) = some (element, rest ++ tail) := by
  obtain ⟨⟨header, after⟩, hheader, h⟩ := Option.bind_eq_some_iff.1 h
  obtain ⟨n, hn, h⟩ := Option.bind_eq_some_iff.1 h
  obtain ⟨⟨content, after'⟩, hsplit, h⟩ := Option.bind_eq_some_iff.1 h
  obtain ⟨rfl, rfl⟩ := Prod.mk.inj (Option.some.inj h)
  simp only [readElement, readHeader_behind hheader tail, hn, splitExact_behind hsplit tail, Option.bind_eq_bind,
    Option.bind_some]
  rfl

theorem readContent_behind {content : Bytes} (h : readContent number bs = some (content, rest)) (tail : Bytes) :
    readContent number (bs ++ tail) = some (content, rest ++ tail) := by
  obtain ⟨⟨element, after⟩, htagged, h⟩ := Option.bind_eq_some_iff.1 h
  obtain ⟨⟨found, after'⟩, helement, htagged⟩ := Option.bind_eq_some_iff.1 htagged
  obtain ⟨hnumber, htagged⟩ := Option.ite_none_right_eq_some.1 htagged
  obtain ⟨rfl, rfl⟩ := Prod.mk.inj (Option.some.inj htagged)
  obtain ⟨rfl, rfl⟩ := Prod.mk.inj (Option.some.inj h)
  simp only [readContent, readTagged, readElement_behind helement tail, Option.bind_eq_bind, Option.bind_some]
  rw [if_pos hnumber]
  rfl

end Der

/-- Bytes after the outer element are not looked at. -/
theorem CertFields.decode?_behind {der : Bytes} {f : CertFields} (h : decode? der = some f) (tail : Bytes) :
    decode? (der ++ tail) = some f := by
  obtain ⟨⟨outer, rest⟩, hcontent, h⟩ := Option.bind_eq_some_iff.1 h
  rw [decode?, Der.readContent_behind hcontent tail]
  exact h

end PairedTls
