import Mathlib.Tactic.IntervalCases
import PairedTls.Certificate.Time

namespace PairedTls.CertTime

/-- Days of an era with the leap days left out, so that 365 of them make a year. -/
def plainDays (doe : Nat) : Nat :=
  doe - doe / 1460 + doe / 36524 - doe / 146096

def yearOfEra (doe : Nat) : Nat :=
  plainDays doe / 365

def yearStart (y : Nat) : Nat :=
  365 * y + y / 4 - y / 100 + y / 400

def dayOfYear (doe : Nat) : Nat :=
  doe - yearStart (yearOfEra doe)

theorem plainDays_mono {a b : Nat} (h : a ≤ b) : plainDays a ≤ plainDays b := by
  have ha : a / 146096 = a / 36524 / 4 := by omega
  have hb : b / 146096 = b / 36524 / 4 := by omega
  have hcenturies : a / 36524 ≤ b / 36524 := Nat.div_le_div_right h
  have hdays : a - a / 1460 ≤ b - b / 1460 := by omega
  rw [plainDays, plainDays, ha, hb]
  omega

/-- Checked at both ends of every year of an era. -/
theorem plainDays_yearStart {y : Nat} (hy : y < 400) :
    365 * y ≤ plainDays (yearStart y) ∧ plainDays (yearStart (y + 1) - 1) < 365 * (y + 1) := by
  have h : ∀ y : Fin 400, 365 * y.val ≤ plainDays (yearStart y) ∧
      plainDays (yearStart (y + 1) - 1) < 365 * (y.val + 1) := by decide +kernel
  exact h ⟨y, hy⟩

theorem yearOfEra_lt {doe : Nat} (h : doe < 146097) : yearOfEra doe < 400 := by
  have hle := plainDays_mono (by omega : doe ≤ 146096)
  have hlast : plainDays 146096 < 365 * 400 := by decide
  rw [yearOfEra]
  omega

theorem yearStart_bounds {doe : Nat} (h : doe < 146097) :
    yearStart (yearOfEra doe) ≤ doe ∧ doe < yearStart (yearOfEra doe + 1) := by
  have hy := yearOfEra_lt h
  have hdiv : 365 * yearOfEra doe ≤ plainDays doe ∧ plainDays doe < 365 * (yearOfEra doe + 1) := by
    rw [yearOfEra]; omega
  constructor
  · by_contra hlt
    cases hz : yearOfEra doe with
    | zero => rw [hz] at hlt; exact hlt (Nat.zero_le _)
    | succ y =>
        rw [hz] at hlt hdiv hy
        have hend := (plainDays_yearStart (by omega : y < 400)).2
        have hmono := plainDays_mono (by omega : doe ≤ yearStart (y + 1) - 1)
        omega
  · by_contra hge
    by_cases hlast : yearOfEra doe = 399
    · have hend : yearStart (399 + 1) = 146097 := by decide
      rw [hlast, hend] at hge
      exact hge h
    · have hstart := (plainDays_yearStart (by omega : yearOfEra doe + 1 < 400)).1
      have hmono := plainDays_mono (Nat.not_lt.1 hge)
      omega

theorem yearStart_succ {y : Nat} (hy : y < 400) :
    yearStart (y + 1) = yearStart y + (if leap (y + 1) then 366 else 365) := by
  have h : ∀ y : Fin 400, yearStart (y + 1) = yearStart y + (if leap (y + 1) then 366 else 365) := by decide +kernel
  exact h ⟨y, hy⟩

theorem dayOfYear_le {doe : Nat} (h : doe < 146097) : dayOfYear doe ≤ 365 := by
  obtain ⟨hlow, hhigh⟩ := yearStart_bounds h
  rw [yearStart_succ (yearOfEra_lt h)] at hhigh
  rw [dayOfYear]
  split at hhigh <;> omega

theorem leap_of_dayOfYear {doe : Nat} (h : doe < 146097) (hlast : dayOfYear doe = 365) :
    leap (yearOfEra doe + 1) = true := by
  obtain ⟨hlow, hhigh⟩ := yearStart_bounds h
  rw [yearStart_succ (yearOfEra_lt h)] at hhigh
  rw [dayOfYear] at hlast
  by_contra hleap
  rw [if_neg hleap] at hhigh
  omega

def monthIndex (doy : Nat) : Nat :=
  (5 * doy + 2) / 153

def dayOfMonth (doy : Nat) : Nat :=
  doy - (153 * monthIndex doy + 2) / 5 + 1

def monthOf (doy : Nat) : Nat :=
  if monthIndex doy < 10 then monthIndex doy + 3 else monthIndex doy - 9

def eraOf (days : Int) : Int :=
  (days + 719468).fdiv 146097

def dayOfEra (days : Int) : Nat :=
  (days + 719468 - eraOf days * 146097).toNat

theorem dayOfEra_lt (days : Int) : dayOfEra days < 146097 := by
  rw [dayOfEra, eraOf, Int.fdiv_eq_ediv_of_nonneg _ (by omega)]
  omega

theorem civil_eq (days : Int) :
    civil days =
      (eraOf days * 400 + yearOfEra (dayOfEra days) + (if monthOf (dayOfYear (dayOfEra days)) ≤ 2 then 1 else 0),
        monthOf (dayOfYear (dayOfEra days)), dayOfMonth (dayOfYear (dayOfEra days))) := by
  have hy := Nat.div_eq_of_lt (yearOfEra_lt (dayOfEra_lt days))
  have hdoy : dayOfYear (dayOfEra days) = dayOfEra days -
      (365 * yearOfEra (dayOfEra days) + yearOfEra (dayOfEra days) / 4 - yearOfEra (dayOfEra days) / 100) := by
    rw [dayOfYear, yearStart, hy, Nat.add_zero]
  rw [hdoy]
  rfl

theorem leap_iff (y : Nat) : leap y = true ↔ y % 4 = 0 ∧ (y % 100 ≠ 0 ∨ y % 400 = 0) := by
  simp [leap]

theorem monthOf_bounds {doy : Nat} (h : doy ≤ 365) : 1 ≤ monthOf doy ∧ monthOf doy ≤ 12 := by
  rw [monthOf, monthIndex]
  split <;> omega

theorem dayOfMonth_le {doy : Nat} (hdoy : doy ≤ 365) {y : Nat} (hleap : doy = 365 → leap y = true) :
    1 ≤ dayOfMonth doy ∧ dayOfMonth doy ≤ daysIn y (monthOf doy) := by
  have hindex : monthIndex doy ≤ 11 := by rw [monthIndex]; omega
  have hmonth : (153 * monthIndex doy + 2) / 5 ≤ doy ∧ doy < (153 * (monthIndex doy + 1) + 2) / 5 := by
    rw [monthIndex]; omega
  refine ⟨Nat.le_add_left 1 _, ?_⟩
  rw [dayOfMonth, monthOf]
  generalize hm : monthIndex doy = m at *
  interval_cases m <;> simp only [daysIn] <;> norm_num at hmonth ⊢ <;> try omega
  by_cases hd : doy = 365
  · rw [if_pos (hleap hd)]; omega
  · split <;> omega

theorem civil_inCalendar (days : Int) :
    inCalendar (civil days).1.toNat (civil days).2.1 (civil days).2.2 = true := by
  rw [civil_eq]
  have hera := dayOfEra_lt days
  have hleap : dayOfYear (dayOfEra days) = 365 →
      leap (eraOf days * 400 + yearOfEra (dayOfEra days) +
        (if monthOf (dayOfYear (dayOfEra days)) ≤ 2 then 1 else 0)).toNat = true := by
    intro hlast
    have hy := (leap_iff _).1 (leap_of_dayOfYear hera hlast)
    rw [hlast, if_pos (by decide), leap_iff]
    omega
  obtain ⟨hlow, hhigh⟩ := dayOfMonth_le (dayOfYear_le hera) hleap
  simp [inCalendar, hlow, hhigh]

theorem civil_month (days : Int) : 1 ≤ (civil days).2.1 ∧ (civil days).2.1 ≤ 12 := by
  rw [civil_eq]
  exact monthOf_bounds (dayOfYear_le (dayOfEra_lt days))

/-- A clock that shows whole seconds of UTC, on a date of the calendar. -/
structure Regular (t : CertTime) : Prop where
  year : t.year ≤ 9999
  month : 1 ≤ t.month ∧ t.month ≤ 12
  date : inCalendar t.year t.month t.day = true
  hour : t.hour ≤ 23
  minute : t.minute ≤ 59
  second : t.second ≤ 59
  millis : t.millis = 0
  offset : t.offset = 0

theorem daysIn_le (y m : Nat) : daysIn y m ≤ 31 := by
  rw [daysIn]
  repeat' split
  all_goals omega

theorem Regular.day {t : CertTime} (h : t.Regular) : t.day ≤ 31 := by
  have hdate := h.date
  simp only [inCalendar, Bool.and_eq_true, decide_eq_true_eq] at hdate
  exact hdate.2.trans (daysIn_le _ _)

theorem ofUnix?_regular {seconds : Int} {t : CertTime} (h : ofUnix? seconds = some t) : t.Regular := by
  have hdate := civil_inCalendar (seconds.fdiv 86400)
  have hday : (seconds - seconds.fdiv 86400 * 86400).toNat < 86400 := by
    rw [Int.fdiv_eq_ediv_of_nonneg _ (by omega)]
    omega
  simp only [ofUnix?] at h
  split at h
  · next hyear =>
      obtain rfl := Option.some.inj h
      exact ⟨by simp only; omega, civil_month _, hdate, by simp only; omega, by simp only; omega, by simp only; omega,
        rfl, rfl⟩
  · cases h

/-- A date counts the days that it was made from. -/
theorem dayNumber_civil {days : Int} (h : 0 ≤ (civil days).1) :
    dayNumber (civil days).1.toNat (civil days).2.1 (civil days).2.2 = days := by
  have hera : days + 719468 = eraOf days * 146097 + dayOfEra days := by
    rw [dayOfEra, eraOf, Int.fdiv_eq_ediv_of_nonneg _ (by omega)]
    omega
  have hyear := yearOfEra_lt (dayOfEra_lt days)
  have hstart := (yearStart_bounds (dayOfEra_lt days)).1
  have hdays : dayOfEra days = yearStart (yearOfEra (dayOfEra days)) + dayOfYear (dayOfEra days) := by
    rw [dayOfYear]
    omega
  have hlast := dayOfYear_le (dayOfEra_lt days)
  rw [civil_eq] at h ⊢
  -- From here on only the era, the year in it and the day of that year count.
  generalize eraOf days = era at *
  generalize yearOfEra (dayOfEra days) = year at *
  generalize dayOfYear (dayOfEra days) = day at *
  have hmonth : (monthOf day + 9) % 12 = monthIndex day := by
    rw [monthOf]
    split <;> rw [monthIndex] at * <;> omega
  have hmarch : (if monthOf day ≤ 2 then
      (((era * 400 + year + (if monthOf day ≤ 2 then 1 else 0)).toNat : Nat) : Int) - 1
      else ((era * 400 + year + (if monthOf day ≤ 2 then 1 else 0)).toNat : Nat)) = era * 400 + year := by
    split_ifs at h ⊢ <;> omega
  have hsum : (153 * monthIndex day + 2) / 5 ≤ day := by
    rw [monthIndex]
    omega
  rw [yearStart] at hdays
  simp only [dayNumber, hmarch, hmonth, dayOfMonth]
  rw [Int.fdiv_eq_ediv_of_nonneg _ (by omega), Int.fdiv_eq_ediv_of_nonneg _ (by omega),
    Int.fdiv_eq_ediv_of_nonneg _ (by omega)]
  omega

theorem unix_ofUnix? {seconds : Int} {t : CertTime} (h : ofUnix? seconds = some t) : t.unix = seconds := by
  have hday : (seconds - seconds.fdiv 86400 * 86400).toNat < 86400 ∧
      seconds = seconds.fdiv 86400 * 86400 + (seconds - seconds.fdiv 86400 * 86400).toNat := by
    rw [Int.fdiv_eq_ediv_of_nonneg _ (by omega)]
    omega
  simp only [ofUnix?] at h
  split at h
  · next hyear =>
      obtain rfl := Option.some.inj h
      simp only [unix, dayNumber_civil hyear.1]
      omega
  · cases h

theorem ofNanos?_regular {nanos : Int} {t : CertTime} (h : ofNanos? nanos = some t) : t.Regular :=
  ofUnix?_regular h

def digitByte (n : Nat) : UInt8 :=
  UInt8.ofNat (48 + n)

theorem digits_two {n : Nat} (hn : n < 100) : digits 2 n = [digitByte (n / 10), digitByte (n % 10)] := by
  have h : ∀ n : Fin 100, digits 2 n = [digitByte (n.val / 10), digitByte (n.val % 10)] := by decide +kernel
  exact h ⟨n, hn⟩

theorem digit?_digitByte {n : Nat} (hn : n < 10) : digit? (digitByte n) = some n := by
  have h : ∀ n : Fin 10, digit? (digitByte n.val) = some n.val := by decide
  exact h ⟨n, hn⟩

theorem digitByte_bounds {n : Nat} (hn : n < 10) : ¬(digitByte n < 0x20 ∨ 0x7F < digitByte n) := by
  have h : ∀ n : Fin 10, ¬(digitByte n.val < 0x20 ∨ 0x7F < digitByte n.val) := by decide
  exact h ⟨n, hn⟩

theorem twoDigits?_digits {n : Nat} (hn : n < 100) (rest : Bytes) :
    twoDigits? (digits 2 n ++ rest) = some (n, rest) := by
  have h : 10 * (n / 10) + n % 10 = n := by omega
  simp [digits_two hn, twoDigits?, digit?_digitByte (by omega : n / 10 < 10),
    digit?_digitByte (by omega : n % 10 < 10), h]

theorem digits_succ (w n : Nat) : digits (w + 2) n = digits (w + 1) (n / 10) ++ [digitByte (n % 10)] := by
  have hchar : String.utf8EncodeChar (n % 10).digitChar = [digitByte (n % 10)] := by
    have h : ∀ k : Fin 10, String.utf8EncodeChar k.val.digitChar = [digitByte k.val] := by decide
    exact h ⟨n % 10, Nat.mod_lt _ (by omega)⟩
  have hzero : String.utf8EncodeChar '0' = [48] := rfl
  by_cases hn : n < 10
  · have hmod : n % 10 = n := Nat.mod_eq_of_lt hn
    rw [hmod] at hchar ⊢
    simp [digits, padLeft, Bytes.ofString, Nat.toList_repr, Nat.toDigits_of_lt_base hn, Nat.div_eq_of_lt hn, hchar,
      List.replicate_succ', hzero, Nat.toDigits_zero]
  · rw [digits, digits, padLeft, padLeft]
    simp only [Nat.toList_repr, Nat.toDigits_of_base_le (by omega : 1 < 10) (Nat.not_lt.1 hn), Bytes.ofString,
      String.toList_ofList, List.flatMap_append, List.length_append, List.length_singleton]
    have hpad : w + 2 - ((Nat.toDigits 10 (n / 10)).length + 1) = w + 1 - (Nat.toDigits 10 (n / 10)).length := by
      omega
    rw [hpad]
    simp [hchar]

theorem digits_four (n : Nat) : digits 4 n = digits 2 (n / 100) ++ digits 2 (n % 100) := by
  have htens : n / 10 % 10 = n % 100 / 10 := by omega
  have hones : n % 10 = n % 100 % 10 := by omega
  rw [digits_succ 2, digits_succ 1, digits_two (by omega : n % 100 < 100), Nat.div_div_eq_div_mul, htens, hones]
  simp

variable {t : CertTime}

theorem readClock?_clockDigits (h : t.Regular) :
    readClock? t.clockDigits = some (⟨t.month, t.day, t.hour, t.minute, t.second⟩, [90]) := by
  have hmonth := h.month
  have hday := h.day
  have hhour := h.hour
  have hminute := h.minute
  have hsecond := h.second
  have hseconds := twoDigits?_digits (by omega : t.second < 100) [90]
  rw [digits_two (by omega)] at hseconds
  simp only [readClock?, clockDigits, List.append_assoc]
  rw [twoDigits?_digits (by omega), Option.bind_eq_bind, Option.bind_some, twoDigits?_digits (by omega),
    Option.bind_some, twoDigits?_digits (by omega), Option.bind_some, twoDigits?_digits (by omega), Option.bind_some,
    digits_two (by omega : t.second < 100)]
  simp only [List.cons_append, List.nil_append] at hseconds ⊢
  rw [hseconds, Option.bind_some, if_pos ⟨hmonth.2, hday, hhour, hminute, hsecond⟩]

theorem build?_eq (h : t.Regular) : build? t.year ⟨t.month, t.day, t.hour, t.minute, t.second⟩ 0 0 = some t := by
  obtain ⟨year, month, day, hour, minute, second, millis, offset⟩ := t
  obtain rfl : millis = 0 := h.millis
  obtain rfl : offset = 0 := h.offset
  rw [build?, if_pos h.date]

theorem mem_digits_two {n : Nat} (hn : n < 100) {b : UInt8} (hb : b ∈ digits 2 n) : ¬(b < 0x20 ∨ 0x7F < b) := by
  rw [digits_two hn] at hb
  obtain rfl | rfl : b = _ ∨ b = _ := by simpa using hb
  · exact digitByte_bounds (by omega)
  · exact digitByte_bounds (by omega)

theorem mem_clockDigits (h : t.Regular) {b : UInt8} (hb : b ∈ t.clockDigits) : ¬(b < 0x20 ∨ 0x7F < b) := by
  have hmonth := h.month
  have hday := h.day
  have hhour := h.hour
  have hminute := h.minute
  have hsecond := h.second
  simp only [clockDigits, List.mem_append, List.mem_singleton] at hb
  rcases hb with ((((hb | hb) | hb) | hb) | hb) | rfl
  · exact mem_digits_two (by omega) hb
  · exact mem_digits_two (by omega) hb
  · exact mem_digits_two (by omega) hb
  · exact mem_digits_two (by omega) hb
  · exact mem_digits_two (by omega) hb
  · decide

theorem readShort?_digits (h : t.Regular) (hyear : 1950 ≤ t.year ∧ t.year < 2050) :
    readShort? (digits 2 (t.year % 100) ++ t.clockDigits) = some t := by
  have hprintable : ¬(digits 2 (t.year % 100) ++ t.clockDigits).any (fun b => b < 0x20 ∨ 0x7F < b) = true := by
    intro hany
    obtain ⟨b, hb, hbad⟩ := List.any_eq_true.1 hany
    rw [List.mem_append] at hb
    rcases hb with hb | hb
    · exact mem_digits_two (Nat.mod_lt _ (by omega)) hb (of_decide_eq_true hbad)
    · exact mem_clockDigits h hb (of_decide_eq_true hbad)
  have hcentury : (if 50 ≤ t.year % 100 then 1900 + t.year % 100 else 2000 + t.year % 100) = t.year := by
    split <;> omega
  rw [readShort?, if_neg hprintable, twoDigits?_digits (Nat.mod_lt _ (by omega))]
  simp only [Option.bind_eq_bind, Option.bind_some, readClock?_clockDigits h, readOffset?, hcentury]
  exact build?_eq h

theorem readLong?_digits (h : t.Regular) : readLong? (digits 4 t.year ++ t.clockDigits) = some t := by
  have hyear := h.year
  have hlast : ¬(digits 4 t.year ++ t.clockDigits).getLast? ≠ some 90 := by
    simp [clockDigits]
  have hsum : 100 * (t.year / 100) + t.year % 100 = t.year := by omega
  rw [readLong?, if_neg hlast, digits_four, List.append_assoc, twoDigits?_digits (by omega)]
  simp only [Option.bind_eq_bind, Option.bind_some, twoDigits?_digits (Nat.mod_lt t.year (by omega : 0 < 100)),
    readClock?_clockDigits h, List.dropLast_singleton, readMillis?, hsum]
  exact build?_eq h

theorem length_clockDigits (h : t.Regular) : t.clockDigits.length = 11 := by
  have hmonth := h.month
  have hday := h.day
  have hhour := h.hour
  have hminute := h.minute
  have hsecond := h.second
  rw [clockDigits, digits_two (by omega), digits_two (by omega), digits_two (by omega), digits_two (by omega),
    digits_two (by omega)]
  rfl

end PairedTls.CertTime
