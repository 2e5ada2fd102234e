import PairedTls.Proofs.ConfigVariable

namespace PairedTls

namespace Duration

/-- Whole milliseconds, and not too many of them unless they make whole seconds. -/
def Lossless (d : Duration) : Prop :=
  1000000 ∣ d.totalNanos ∧ (nanosPerSecond ∣ d.totalNanos ∨ d.totalNanos < UInt64.size * 1000000)

instance (d : Duration) : Decidable d.Lossless :=
  inferInstanceAs (Decidable (_ ∧ _))

def Numeral.ofNat (n : Nat) : Numeral where
  signed := false
  digits := Nat.toDigits 10 n
  ne_nil := Nat.toDigits_ne_nil
  decimal := fun _ hc => Nat.isDigit_of_mem_toDigits (by decide) (by decide) hc

def written (d : Duration) : Spelling :=
  if d.nanos / 1000000 = 0 then ⟨.ofNat d.secs, .seconds⟩ else ⟨.ofNat d.totalMillis, .milliseconds⟩

theorem text_written (d : Duration) : d.written.text = d.format := by
  have htext (n : Nat) (unit : TimeUnit) : Spelling.text ⟨.ofNat n, unit⟩ = n.repr ++ String.ofList unit.text := by
    rw [← String.toList_inj]
    simp [Spelling.text, Numeral.text, Numeral.ofNat]
  rw [written, format]
  split
  · exact htext d.secs .seconds
  · exact htext d.totalMillis .milliseconds

theorem gather_digits (limit acc : Nat) {cs : List Char} (h : ∀ c ∈ cs, c.isDigit = true) :
    (∃ n, gather limit acc cs = .ok n) ∨ gather limit acc cs = .error .overflow := by
  induction cs generalizing acc with
  | nil => exact .inl ⟨acc, rfl⟩
  | cons c cs ih =>
      have hdigit : '0' ≤ c ∧ c ≤ '9' := by
        simpa [Char.isDigit, Char.le_def] using h c List.mem_cons_self
      rw [gather, if_pos hdigit]
      dsimp only
      split
      · exact ih _ fun x hx => h x (List.mem_cons_of_mem c hx)
      · exact .inr rfl

theorem number_overflow (w : Numeral) (h : UInt64.size ≤ w.value) : number w.text = .error (.number .overflow) := by
  have hread : readNumber w.text = gather UInt64.size 0 w.digits := by
    rw [Numeral.text]
    split
    · exact readNumber_signed w.ne_nil
    · exact readNumber_unsigned w.ne_nil w.head?_digits
  rcases gather_digits UInt64.size 0 w.decimal with ⟨n, hok⟩ | hover
  · obtain ⟨-, rfl, hlt⟩ := (gather_eq_ok_iff (by decide)).1 hok
    exact absurd hlt (Nat.not_lt.2 h)
  · rw [number, hread, hover]

theorem parse_format (d : Duration) :
    parse d.format =
      if d.nanos / 1000000 = 0 then .ok (ofSecs d.secs d.secs_lt)
      else if h : d.totalMillis < UInt64.size then .ok (ofMillis d.totalMillis h) else .error (.number .overflow) := by
  rw [← text_written, parse_text, written]
  split
  · have hnumber : number (Numeral.ofNat d.secs).text = .ok d.secs := number_toDigits d.secs_lt
    refine bind_of_ok hnumber ?_
    exact dif_pos d.secs_lt
  · split
    · next hlt =>
        have hnumber : number (Numeral.ofNat d.totalMillis).text = .ok d.totalMillis := number_toDigits hlt
        refine bind_of_ok hnumber ?_
        exact dif_pos hlt
    · next hlt =>
        have hlarge : UInt64.size ≤ (Numeral.ofNat d.totalMillis).value := by
          rw [Numeral.value, Numeral.ofNat, Nat.ofDigitChars_ten_toDigits]
          exact Nat.not_lt.1 hlt
        exact bind_of_error (number_overflow (.ofNat d.totalMillis) hlarge)

theorem lossless_iff {d : Duration} :
    d.Lossless ↔ d.nanos % 1000000 = 0 ∧ (d.nanos = 0 ∨ d.totalMillis < UInt64.size) := by
  have hnanos := d.nanos_lt
  rw [Lossless, totalMillis, totalNanos, nanosPerSecond]
  omega

theorem lossless_ofSecs (n : Nat) (h : n < UInt64.size) : (ofSecs n h).Lossless :=
  lossless_iff.2 ⟨rfl, .inl rfl⟩

theorem lossless_ofMillis (n : Nat) (h : n < UInt64.size) : (ofMillis n h).Lossless := by
  rw [lossless_iff, ofMillis, totalMillis]
  dsimp only
  omega

theorem parse_format_eq_ok_iff {d : Duration} : parse d.format = .ok d ↔ d.Lossless := by
  have hsecs : ofSecs d.secs d.secs_lt = d ↔ d.nanos = 0 := by
    constructor
    · intro h
      rw [← h, ofSecs]
    · intro h
      apply eq_of_totalNanos
      rw [totalNanos_ofSecs, totalNanos, h, Nat.add_zero]
  have hmillis (h : d.totalMillis < UInt64.size) : ofMillis d.totalMillis h = d ↔ d.nanos % 1000000 = 0 := by
    constructor
    · intro heq
      rw [← heq, ofMillis]
      exact Nat.mul_mod_left ..
    · intro hwhole
      apply eq_of_totalNanos
      rw [totalNanos_ofMillis, totalNanos, totalMillis, nanosPerSecond]
      omega
  rw [parse_format, lossless_iff]
  split
  · next hnone =>
      rw [Except.ok.injEq, hsecs]
      omega
  · next hsome =>
      split
      · next hfits =>
          rw [Except.ok.injEq, hmillis hfits, and_iff_left (.inr hfits)]
      · next hlarge =>
          constructor
          · intro h
            cases h
          · intro h
            omega

end Duration

namespace Config

open Duration

theorem Decoder.duration_eq_ok {v : Value} {d : Duration} (h : duration v = .ok d) :
    ∃ text, parse text = .ok d := by
  obtain ⟨text, -, h⟩ := bind_eq_ok h
  refine ⟨text, ?_⟩
  split at h
  · next hparse =>
      cases h
      exact hparse
  · cases h

theorem Decoder.lossless_of_duration {v : Value} {d : Duration} (h : duration v = .ok d) : d.Lossless := by
  obtain ⟨text, hparse⟩ := duration_eq_ok h
  rcases parse_cases hparse with ⟨-, n, hn, rfl⟩ | ⟨-, n, hn, rfl⟩
  · exact lossless_ofMillis n hn
  · exact lossless_ofSecs n hn

namespace TimeLimit

variable {limit : TimeLimit} {c : Config}

theorem settled_of_config {v : Value} (h : Decoder.config .ignored v = .ok c) (limit : TimeLimit) :
    ∃ known, limit.setting.settle known = .ok (limit.setting.get c) := by
  have hsection (known : Option Value)
      (hserver : known.elim (.ok defaultServer) (Decoder.server .ignored) = .ok c.server) :
      ∃ known, limit.setting.settle known = .ok (limit.setting.get c) := by
    have hhome : limit.setting.home = .server := by cases limit <;> rfl
    cases known with
    | none =>
        have hdefault : defaultServer = c.server := Except.ok.inj hserver
        refine ⟨none, congrArg Except.ok ?_⟩
        cases limit with
        | handshake => exact congrArg ServerConfig.handshakeTimeout hdefault
        | request => exact congrArg ServerConfig.requestTimeout hdefault
    | some w => exact ⟨_, Decoder.server_settles hserver c.identity hhome⟩
  cases v with
  | scalar => cases h
  | map source ms =>
      obtain ⟨ic, -, h⟩ := bind_eq_ok h
      obtain ⟨sc, hserver, h⟩ := bind_eq_ok h
      cases h
      exact hsection _ (Decoder.member_eq_ok.1 hserver)
  | list source xs =>
      obtain ⟨sc, hserver, h⟩ := bind_eq_ok h
      obtain ⟨ic, -, h⟩ := bind_eq_ok h
      obtain ⟨_, -, h⟩ := bind_eq_ok h
      cases h
      exact hsection _ (Decoder.entry_eq_ok.1 hserver)

theorem lossless_of_settled {known : Option Value}
    (h : limit.setting.settle known = .ok (limit.setting.get c)) : (limit.get c).Lossless := by
  cases known with
  | none =>
      have hdefault := Except.ok.inj h
      cases limit with
      | handshake => exact Eq.subst hdefault (lossless_ofSecs 5 (by decide))
      | request => exact Eq.subst hdefault (lossless_ofSecs 30 (by decide))
  | some v =>
      cases limit with
      | handshake => exact Decoder.lossless_of_duration h
      | request => exact Decoder.lossless_of_duration h

end TimeLimit

/-- A duration can be read back from its text exactly if it has whole milliseconds that fit, or whole seconds. So has
every duration that was ever read, and the time limits of a loaded configuration are among them. -/
theorem duration_of_format :
    (∀ (d : Duration) (source : Source), Decoder.duration (.scalar source (.text d.format)) = .ok d ↔ d.Lossless) ∧
    (∀ (v : Value) (d : Duration), Decoder.duration v = .ok d → d.Lossless) ∧
    ∀ (files : Files) (environment : List (String × String)) (path : Option String) (c : Config),
      load files environment path = .ok c → ∀ (limit : TimeLimit) (source : Source),
        Decoder.duration (.scalar source (.text (limit.get c).format)) = .ok (limit.get c) := by
  have hback (d : Duration) (source : Source) :
      Decoder.duration (.scalar source (.text d.format)) = .ok d ↔ d.Lossless := by
    rw [Decoder.duration_text, mapError_eq_ok, parse_format_eq_ok_iff]
  refine ⟨hback, fun v d => Decoder.lossless_of_duration, ?_⟩
  intro files environment path c h limit source
  obtain ⟨file, -, hconfig⟩ := load_eq_ok h
  obtain ⟨known, hknown⟩ := TimeLimit.settled_of_config hconfig limit
  exact (hback _ source).2 (TimeLimit.lossless_of_settled hknown)

theorem duration_of_format_atLimits :
    let most : Duration := ⟨18446744073709551, 615000000, by decide, by decide⟩
    let more : Duration := ⟨18446744073709551, 616000000, by decide, by decide⟩
    let environment := [("WOLF_TLS_SERVER__REQUEST_TIMEOUT", "1500ms")]
    Decoder.duration (.scalar .direct (.text most.format)) = .ok most ∧ most.Lossless ∧
      Decoder.duration (.scalar .direct (.text more.format)) ≠ .ok more ∧
      ∃ c, load ⟨[], []⟩ environment none = .ok c ∧ (TimeLimit.request.get c).format = "1500ms" ∧
        Decoder.duration (.scalar .direct (.text "1500ms")) = .ok (TimeLimit.request.get c) := by
  intro most more environment
  obtain ⟨hback, hread, hload⟩ := duration_of_format
  have hmost : Decoder.duration (.scalar .direct (.text most.format)) = .ok most :=
    (hback most .direct).2 (by decide)
  have hmore : ¬more.Lossless := by decide
  have hloaded : load ⟨[], []⟩ environment none =
      .ok { default with server.requestTimeout := .ofMillis 1500 (by decide) } := by
    decide +kernel
  refine ⟨hmost, hread _ most hmost, mt (hback more .direct).1 hmore, _, hloaded, by decide, ?_⟩
  exact hload _ _ _ _ hloaded .request .direct

end Config
end PairedTls
