import PairedTls.Config.Decode
import PairedTls.Proofs.DurationText

namespace PairedTls

namespace Duration

structure Numeral where
  signed : Bool
  digits : List Char
  ne_nil : digits ≠ []
  decimal : ∀ c ∈ digits, c.isDigit = true

namespace Numeral

def text (w : Numeral) : List Char :=
  if w.signed then '+' :: w.digits else w.digits

def value (w : Numeral) : Nat :=
  Nat.ofDigitChars 10 w.digits 0

theorem not_suffix_text (w : Numeral) {c : Char} (hc : c.isDigit = false) : ¬[c] <:+ w.text := by
  intro hsuffix
  have hlast : w.text.getLast? = some c := by
    obtain ⟨front, hfront⟩ := hsuffix
    rw [← hfront, List.getLast?_concat]
  have hdigits : w.text.getLast? = w.digits.getLast? := by
    rw [text]
    split_ifs
    · exact List.getLast?_cons_of_ne_nil w.ne_nil
    · rfl
  have hmem := w.decimal c (List.mem_of_getLast? (hdigits ▸ hlast))
  rw [hc] at hmem
  cases hmem

theorem head?_digits (w : Numeral) : w.digits.head? ≠ some '+' := by
  intro hhead
  have hplus := w.decimal '+' (List.mem_of_head? hhead)
  cases hplus

theorem eq_of_text {w w' : Numeral} (h : w.text = w'.text) : w = w' := by
  have hhead := w.head?_digits
  have hhead' := w'.head?_digits
  obtain ⟨signed, digits, hne, hdigits⟩ := w
  obtain ⟨signed', digits', hne', hdigits'⟩ := w'
  cases signed <;> cases signed'
  · obtain rfl : digits = digits' := h
    rfl
  · obtain rfl : digits = '+' :: digits' := h
    exact absurd rfl hhead
  · obtain rfl : '+' :: digits = digits' := h
    exact absurd rfl hhead'
  · obtain rfl : digits = digits' := List.tail_eq_of_cons_eq h
    rfl

end Numeral

theorem le_ofDigitChars (cs : List Char) (acc : Nat) : acc ≤ Nat.ofDigitChars 10 cs acc := by
  rw [Nat.ofDigitChars_eq_ofDigitChars_zero]
  exact Nat.le_add_right_of_le (Nat.le_mul_of_pos_left acc (Nat.pow_pos (by decide)))

/-- Only a number that passes the limit as a whole passes it on the way. -/
theorem gather_eq_ok_iff {limit acc n : Nat} {cs : List Char} (hacc : acc < limit) :
    gather limit acc cs = .ok n ↔
      (∀ c ∈ cs, c.isDigit = true) ∧ Nat.ofDigitChars 10 cs acc = n ∧ n < limit := by
  induction cs generalizing acc with
  | nil =>
      rw [gather, Except.ok.injEq, Nat.ofDigitChars_nil]
      exact ⟨fun h => ⟨List.forall_mem_nil _, h, h ▸ hacc⟩, fun h => h.2.1⟩
  | cons c cs ih =>
      have hdigit : ('0' ≤ c ∧ c ≤ '9') ↔ c.isDigit = true := by
        simp [Char.isDigit, Char.le_def]
      have hstep : Nat.ofDigitChars 10 (c :: cs) acc = Nat.ofDigitChars 10 cs (acc * 10 + (c.toNat - 48)) := by
        rw [Nat.ofDigitChars_cons, Nat.mul_comm]
        rfl
      rw [gather, List.forall_mem_cons, hstep, ← hdigit]
      split_ifs with hc
      · dsimp only
        split_ifs with hfits
        · rw [ih hfits]
          simp only [hc, and_self, true_and]
        · have hle := le_ofDigitChars cs (acc * 10 + (c.toNat - 48))
          refine ⟨fun h => (by cases h), ?_⟩
          rintro ⟨-, rfl, hlt⟩
          omega
      · exact ⟨fun h => (by cases h), fun h => absurd h.1.1 hc⟩

theorem readNumber_unsigned {cs : List Char} (hne : cs ≠ []) (hplus : cs.head? ≠ some '+') :
    readNumber cs = gather UInt64.size 0 cs := by
  unfold readNumber
  split
  · exact absurd rfl hne
  · exact absurd rfl hplus
  · exact absurd rfl hplus
  · rfl

theorem readNumber_signed {cs : List Char} (hne : cs ≠ []) : readNumber ('+' :: cs) = gather UInt64.size 0 cs := by
  cases cs with
  | nil => exact absurd rfl hne
  | cons c cs => rfl

theorem readNumber_eq_ok_iff {cs : List Char} {n : Nat} :
    readNumber cs = .ok n ↔ ∃ w : Numeral, w.text = cs ∧ w.value = n ∧ n < UInt64.size := by
  have hpos : 0 < UInt64.size := by decide
  constructor
  · intro h
    by_cases hplus : ∃ rest, cs = '+' :: rest
    · obtain ⟨rest, rfl⟩ := hplus
      have hne : rest ≠ [] := by
        rintro rfl
        cases h
      rw [readNumber_signed hne] at h
      obtain ⟨hdigits, hvalue, hfits⟩ := (gather_eq_ok_iff hpos).1 h
      exact ⟨⟨true, rest, hne, hdigits⟩, rfl, hvalue, hfits⟩
    · have hne : cs ≠ [] := by
        rintro rfl
        cases h
      have hhead : cs.head? ≠ some '+' := fun hhead => hplus (List.head?_eq_some_iff.1 hhead)
      rw [readNumber_unsigned hne hhead] at h
      obtain ⟨hdigits, hvalue, hfits⟩ := (gather_eq_ok_iff hpos).1 h
      exact ⟨⟨false, cs, hne, hdigits⟩, rfl, hvalue, hfits⟩
  · rintro ⟨w, rfl, hvalue, hfits⟩
    have hhead := w.head?_digits
    obtain ⟨signed, digits, hne, hdigits⟩ := w
    have hgather := (gather_eq_ok_iff hpos).2 ⟨hdigits, hvalue, hfits⟩
    cases signed with
    | true => exact (readNumber_signed hne).trans hgather
    | false => exact (readNumber_unsigned hne hhead).trans hgather

theorem number_eq_ok_iff {cs : List Char} {n : Nat} :
    number cs = .ok n ↔ ∃ w : Numeral, w.text = cs ∧ w.value = n ∧ n < UInt64.size := by
  rw [← readNumber_eq_ok_iff, number]
  cases readNumber cs <;> simp

inductive TimeUnit where
  | milliseconds
  | seconds
  | minutes
  | unsaid
  deriving DecidableEq, Repr

namespace TimeUnit

def text : TimeUnit → List Char
  | .milliseconds => ['m', 's']
  | .seconds => ['s']
  | .minutes => ['m']
  | .unsaid => []

def nanos : TimeUnit → Nat
  | .milliseconds => 1000000
  | .seconds | .unsaid => nanosPerSecond
  | .minutes => 60 * nanosPerSecond

end TimeUnit

structure Spelling where
  number : Numeral
  unit : TimeUnit

namespace Spelling

def text (w : Spelling) : String :=
  String.ofList (w.number.text ++ w.unit.text)

def nanos (w : Spelling) : Nat :=
  w.number.value * w.unit.nanos

/-- The number fits, and so does that of the seconds. -/
def Fits (w : Spelling) : Prop :=
  w.number.value < UInt64.size ∧ (w.unit = .minutes → 60 * w.number.value < UInt64.size)

end Spelling

theorem stem?_eq_some {unit cs stem : List Char} : stem? unit cs = some stem ↔ cs = stem ++ unit := by
  constructor
  · intro h
    rw [stem?] at h
    obtain ⟨hsuffix, h⟩ := Option.ite_none_right_eq_some.1 h
    obtain ⟨front, rfl⟩ := List.isSuffixOf_iff_suffix.1 hsuffix
    rw [List.length_append, Nat.add_sub_cancel, List.take_left] at h
    rw [Option.some.inj h]
  · rintro rfl
    exact stem?_append unit stem

def TimeUnit.finish (text : String) : TimeUnit → Nat → Except DurationFault Duration
  | .milliseconds, n => if h : n < UInt64.size then .ok (ofMillis n h) else .error (.number .overflow)
  | .seconds, n | .unsaid, n => secsOf n (.number .overflow)
  | .minutes, n => secsOf (n * 60) (.tooLarge text)

theorem parse_split (s : String) : ∃ (stem : List Char) (unit : TimeUnit),
    s.toList = stem ++ unit.text ∧ parse s = number stem >>= unit.finish s := by
  rw [parse]
  cases hmillis : stem? ['m', 's'] s.toList with
  | some stem => exact ⟨stem, .milliseconds, stem?_eq_some.1 hmillis, rfl⟩
  | none =>
      cases hsecs : stem? ['s'] s.toList with
      | some stem => exact ⟨stem, .seconds, stem?_eq_some.1 hsecs, rfl⟩
      | none =>
          cases hmins : stem? ['m'] s.toList with
          | some stem => exact ⟨stem, .minutes, stem?_eq_some.1 hmins, rfl⟩
          | none => exact ⟨s.toList, .unsaid, (List.append_nil _).symm, rfl⟩

/-- Where that front is a numeral, it is all but the unit: no other unit can be taken off instead. -/
theorem parse_text (w : Spelling) : parse w.text = number w.number.text >>= w.unit.finish w.text := by
  have hlist : w.text.toList = w.number.text ++ w.unit.text := String.toList_ofList
  have hs : ¬['s'] <:+ w.number.text := w.number.not_suffix_text rfl
  have hm : ¬['m'] <:+ w.number.text := w.number.not_suffix_text rfl
  have hlast {cs : List Char} (h : ['m', 's'] <:+ cs) : ['s'] <:+ cs := (List.suffix_append ['m'] ['s']).trans h
  rw [parse, hlist]
  cases w.unit with
  | milliseconds => rw [TimeUnit.text, stem?_append]; rfl
  | seconds =>
      have hmillis : ¬['m', 's'] <:+ w.number.text ++ ['s'] := by
        rintro ⟨front, hfront⟩
        exact hm ⟨front, List.append_cancel_right (by simpa using hfront)⟩
      rw [TimeUnit.text, stem?_eq_none.2 hmillis, stem?_append]
      rfl
  | minutes =>
      have hsecs : ¬['s'] <:+ w.number.text ++ ['m'] := by
        rintro ⟨front, hfront⟩
        cases (List.append_inj' hfront rfl).2
      rw [TimeUnit.text, stem?_eq_none.2 (mt hlast hsecs)]
      dsimp only
      rw [stem?_eq_none.2 hsecs, stem?_append]
      rfl
  | unsaid =>
      rw [TimeUnit.text, List.append_nil, stem?_eq_none.2 (mt hlast hs)]
      dsimp only
      rw [stem?_eq_none.2 hs]
      dsimp only
      rw [stem?_eq_none.2 hm]
      rfl

theorem eq_of_totalNanos {d d' : Duration} (h : d.totalNanos = d'.totalNanos) : d = d' := by
  obtain ⟨secs, nanos, hsecs, hnanos⟩ := d
  obtain ⟨secs', nanos', hsecs', hnanos'⟩ := d'
  simp only [totalNanos, nanosPerSecond] at h
  obtain rfl : secs = secs' := by omega
  obtain rfl : nanos = nanos' := by omega
  rfl

theorem totalNanos_ofSecs (n : Nat) (h : n < UInt64.size) : (ofSecs n h).totalNanos = n * nanosPerSecond := by
  simp only [ofSecs, totalNanos, Nat.add_zero]

theorem secsOf_eq_ok_iff {n : Nat} {fault : DurationFault} {d : Duration} :
    secsOf n fault = .ok d ↔ n < UInt64.size ∧ d.totalNanos = n * nanosPerSecond := by
  constructor
  · intro h
    obtain ⟨hn, rfl⟩ := secsOf_eq_ok h
    exact ⟨hn, totalNanos_ofSecs n hn⟩
  · rintro ⟨hn, hd⟩
    rw [secsOf, dif_pos hn, eq_of_totalNanos (hd.trans (totalNanos_ofSecs n hn).symm)]

theorem TimeUnit.finish_eq_ok_iff {unit : TimeUnit} {text : String} {n : Nat} {d : Duration} (hn : n < UInt64.size) :
    unit.finish text n = .ok d ↔ (unit = .minutes → 60 * n < UInt64.size) ∧ d.totalNanos = n * unit.nanos := by
  cases unit with
  | milliseconds =>
      rw [finish, dif_pos hn, Except.ok.injEq, nanos, ← totalNanos_ofMillis n hn]
      exact ⟨fun h => ⟨nofun, h ▸ rfl⟩, fun h => (eq_of_totalNanos h.2).symm⟩
  | seconds | unsaid =>
      rw [finish, secsOf_eq_ok_iff, nanos]
      exact ⟨fun h => ⟨nofun, h.2⟩, fun h => ⟨hn, h.2⟩⟩
  | minutes =>
      rw [finish, secsOf_eq_ok_iff, nanos, Nat.mul_comm 60 n, Nat.mul_assoc]
      exact ⟨fun h => ⟨fun _ => h.1, h.2⟩, fun h => ⟨h.1 rfl, h.2⟩⟩

theorem parse_eq_ok_iff {s : String} {d : Duration} :
    parse s = .ok d ↔ ∃ w : Spelling, w.text = s ∧ w.Fits ∧ d.totalNanos = w.nanos := by
  constructor
  · intro h
    obtain ⟨stem, unit, hs, hparse⟩ := parse_split s
    obtain ⟨n, hnumber, hfinish⟩ := bind_eq_ok (hparse ▸ h)
    obtain ⟨w, rfl, rfl, hn⟩ := number_eq_ok_iff.1 hnumber
    obtain ⟨hmins, hd⟩ := (TimeUnit.finish_eq_ok_iff hn).1 hfinish
    exact ⟨⟨w, unit⟩, String.toList_inj.1 (String.toList_ofList.trans hs.symm), ⟨hn, hmins⟩, hd⟩
  · rintro ⟨w, rfl, ⟨hn, hmins⟩, hd⟩
    rw [parse_text, number_eq_ok_iff.2 ⟨w.number, rfl, rfl, hn⟩]
    exact (TimeUnit.finish_eq_ok_iff hn).2 ⟨hmins, hd⟩

theorem Spelling.value_lt_of_parse {w : Spelling} {d : Duration} (h : parse w.text = .ok d) :
    w.number.value < UInt64.size := by
  rw [parse_text] at h
  obtain ⟨n, hnumber, -⟩ := bind_eq_ok h
  obtain ⟨w', htext, rfl, hn⟩ := number_eq_ok_iff.1 hnumber
  rwa [← Numeral.eq_of_text htext]

theorem Spelling.Fits.exists_duration {w : Spelling} (h : w.Fits) : ∃ d : Duration, d.totalNanos = w.nanos := by
  obtain ⟨hn, hmins⟩ := h
  rw [Spelling.nanos]
  cases hunit : w.unit with
  | milliseconds => exact ⟨ofMillis w.number.value hn, totalNanos_ofMillis _ hn⟩
  | seconds | unsaid => exact ⟨ofSecs w.number.value hn, totalNanos_ofSecs _ hn⟩
  | minutes =>
      refine ⟨ofSecs (60 * w.number.value) (hmins hunit), ?_⟩
      rw [totalNanos_ofSecs, TimeUnit.nanos, Nat.mul_comm 60, Nat.mul_assoc]

theorem number_ne_tooLarge (cs : List Char) (text : String) : number cs ≠ .error (.tooLarge text) := by
  rw [number]
  intro h
  cases hread : readNumber cs <;> rw [hread] at h <;> cases h

theorem secsOf_eq_error_iff {n : Nat} {fault fault' : DurationFault} :
    secsOf n fault = .error fault' ↔ fault = fault' ∧ UInt64.size ≤ n := by
  rw [secsOf]
  split_ifs with hn
  · exact ⟨fun h => (by cases h), fun h => absurd hn (Nat.not_lt.2 h.2)⟩
  · rw [Except.error.injEq]
    exact ⟨fun h => ⟨h, Nat.not_lt.1 hn⟩, fun h => h.1⟩

theorem parse_eq_tooLarge_iff {s text : String} :
    parse s = .error (.tooLarge text) ↔ text = s ∧ ∃ w : Spelling, w.text = s ∧ w.unit = .minutes ∧
      w.number.value < UInt64.size ∧ UInt64.size ≤ 60 * w.number.value := by
  constructor
  · intro h
    obtain ⟨stem, unit, hs, hparse⟩ := parse_split s
    rw [hparse] at h
    cases hnumber : number stem with
    | error fault =>
        rw [hnumber] at h
        cases h
        exact absurd hnumber (number_ne_tooLarge stem text)
    | ok n =>
        rw [hnumber] at h
        change unit.finish s n = _ at h
        obtain ⟨w, rfl, rfl, hn⟩ := number_eq_ok_iff.1 hnumber
        cases unit with
        | milliseconds =>
            rw [TimeUnit.finish, dif_pos hn] at h
            cases h
        | seconds | unsaid => cases (secsOf_eq_error_iff.1 h).1
        | minutes =>
            obtain ⟨hfault, hlarge⟩ := secsOf_eq_error_iff.1 h
            cases hfault
            rw [Nat.mul_comm] at hlarge
            exact ⟨rfl, ⟨w, .minutes⟩, String.toList_inj.1 (String.toList_ofList.trans hs.symm), rfl, hn, hlarge⟩
  · rintro ⟨rfl, w, rfl, hunit, hn, hlarge⟩
    rw [parse_text, number_eq_ok_iff.2 ⟨w.number, rfl, rfl, hn⟩, hunit]
    rw [Nat.mul_comm] at hlarge
    exact secsOf_eq_error_iff.2 ⟨rfl, hlarge⟩

end Duration

namespace Config.Decoder

open Duration

theorem duration_text (source : Source) (s : String) :
    duration (.scalar source (.text s)) = (parse s).mapError fun fault => ⟨.duration fault, [], source⟩ := by
  rw [duration]
  refine bind_of_ok (a := s) rfl ?_
  cases parse s <;> rfl

/-- A text is read as a duration exactly if it is spelled as one and fits. It is then what it says; any other text is
refused, and called too large only if it gives too many minutes. -/
theorem duration_by_spelling (source : Source) (s : String) :
    (∀ w : Spelling, w.text = s → w.Fits →
      ∃ d, duration (.scalar source (.text s)) = .ok d ∧ d.totalNanos = w.nanos) ∧
    ((¬∃ w : Spelling, w.text = s ∧ w.Fits) →
      ∃ fault, duration (.scalar source (.text s)) = .error ⟨.duration fault, [], source⟩ ∧
        (fault = .tooLarge s ↔ ∃ w : Spelling, w.text = s ∧ w.unit = .minutes ∧
          w.number.value < UInt64.size ∧ UInt64.size ≤ 60 * w.number.value)) := by
  rw [duration_text]
  constructor
  · intro w hw hfits
    obtain ⟨d, hd⟩ := hfits.exists_duration
    refine ⟨d, ?_, hd⟩
    rw [parse_eq_ok_iff.2 ⟨w, hw, hfits, hd⟩]
    rfl
  · intro hnone
    cases hparse : parse s with
    | ok d =>
        obtain ⟨w, hw, hfits, -⟩ := parse_eq_ok_iff.1 hparse
        exact absurd ⟨w, hw, hfits⟩ hnone
    | error fault =>
        have hlarge : parse s = .error (.tooLarge s) ↔ _ := parse_eq_tooLarge_iff
        rw [hparse, Except.error.injEq, eq_self, true_and] at hlarge
        exact ⟨fault, rfl, hlarge⟩

def mostMinutes : Spelling :=
  ⟨⟨true, "0307445734561825860".toList, by decide, List.all_eq_true.1 (by decide)⟩, .minutes⟩

theorem duration_by_spelling_mostMinutes :
    mostMinutes.text = "+0307445734561825860m" ∧ mostMinutes.Fits ∧
      (∃ d, duration (.scalar .direct (.text "+0307445734561825860m")) = .ok d ∧
        d.totalNanos = 18446744073709551600000000000) ∧
      (¬∃ w : Spelling, w.text = "307445734561825861m" ∧ w.Fits) ∧
        duration (.scalar .direct (.text "307445734561825861m")) =
          .error ⟨.duration (.tooLarge "307445734561825861m"), [], .direct⟩ := by
  have htext : mostMinutes.text = "+0307445734561825860m" := by decide
  have hfits : mostMinutes.Fits := ⟨by decide, fun _ => by decide⟩
  have hrefused : duration (.scalar .direct (.text "307445734561825861m")) =
      .error ⟨.duration (.tooLarge "307445734561825861m"), [], .direct⟩ := by decide
  refine ⟨htext, hfits, ?_, ?_, hrefused⟩
  · exact (duration_by_spelling .direct "+0307445734561825860m").1 mostMinutes htext hfits
  · rintro ⟨w, hw, hfits⟩
    obtain ⟨d, hd, -⟩ := (duration_by_spelling .direct "307445734561825861m").1 w hw hfits
    rw [hrefused] at hd
    cases hd

end Config.Decoder
end PairedTls
