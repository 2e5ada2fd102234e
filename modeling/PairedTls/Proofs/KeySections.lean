import PairedTls.Proofs.PemMarks
import PairedTls.Proofs.PemReaders

namespace PairedTls.Pem

inductive KeyLabel where
  | wrapped
  | rsa
  | curve
  deriving DecidableEq, Repr

namespace KeyLabel

def text : KeyLabel → Bytes
  | .wrapped => privateKeyLabel
  | .rsa => Bytes.ofString "RSA PRIVATE KEY"
  | .curve => Bytes.ofString "EC PRIVATE KEY"

def kind : KeyLabel → Kind
  | .wrapped => .privateKey
  | .rsa => .rsaPrivateKey
  | .curve => .ecPrivateKey

def format : KeyLabel → KeyFormat
  | .wrapped => .pkcs8
  | .rsa => .pkcs1
  | .curve => .sec1

theorem text_ok (label : KeyLabel) : LabelOk label.text := by
  cases label <;> exact ⟨unbroken_of_all rfl, _, rfl, by decide, by decide⟩

theorem kindOf?_text (label : KeyLabel) : kindOf? label.text = some label.kind := by
  cases label <;> rfl

theorem text_noDash (label : KeyLabel) : ∀ b ∈ label.text, b ≠ 45 := by
  have hall : label.text.all (· != 45) = true := by cases label <;> rfl
  intro b hb
  simpa using List.all_eq_true.1 hall b hb

theorem privateKey?_kind (label : KeyLabel) (der : Bytes) :
    TlsSettings.privateKey? label.kind der = some ⟨label.format, der⟩ := by
  cases label <;> rfl

theorem of_kindOf? {label der : Bytes} {kind : Kind} {key : PrivateKeyDer} (hkind : kindOf? label = some kind)
    (hkey : TlsSettings.privateKey? kind der = some key) : ∃ l : KeyLabel, label = l.text := by
  obtain ⟨before, after, hsplit, -⟩ := List.lookup_eq_some_iff.1 hkind
  have hmem : (label, kind) ∈ labels := hsplit ▸ List.mem_append_right before List.mem_cons_self
  simp only [labels, List.mem_cons, Prod.mk.injEq, List.not_mem_nil, or_false] at hmem
  rcases hmem with h | h | h | h | h | h | h | h <;> obtain ⟨rfl, rfl⟩ := h
  · cases hkey
  · cases hkey
  · exact ⟨.rsa, rfl⟩
  · exact ⟨.wrapped, rfl⟩
  · exact ⟨.curve, rfl⟩
  · cases hkey
  · cases hkey
  · cases hkey

end KeyLabel

/-- A text that a section with a private key stands in, from the first begin mark on. -/
structure KeySection where
  before : Bytes
  label : KeyLabel
  ending : Bytes
  body : Bytes
  after : Bytes

namespace KeySection

def text (s : KeySection) : Bytes :=
  s.before ++ ((beginLine s.label.text ++ s.ending) ++ (s.body ++ (endLine s.label.text ++ s.after)))

structure WellFormed (s : KeySection) : Prop where
  closed : Closed s.before
  first : ¬beginMark <:+: s.before
  ended : ∃ n e, s.ending = List.replicate n 32 ++ [e] ∧ lineBreak e = true
  whole : Closed s.body
  unmarked : ¬beginMark <:+: s.body ∧ ¬endMark <:+: s.body

variable {s : KeySection}

theorem unbroken_beginLine (label : KeyLabel) (n : Nat) :
    ∀ b ∈ beginLine label.text ++ List.replicate n 32, lineBreak b = false := by
  intro b hb
  rcases List.mem_append.1 hb with hb | hb
  · exact blockLines_unbroken label.text_ok [] _ (List.mem_append_left _ List.mem_cons_self) b hb
  · rw [List.eq_of_mem_replicate hb]
    rfl

theorem unbroken_endLine (label : KeyLabel) : ∀ b ∈ endLine label.text, lineBreak b = false :=
  blockLines_unbroken label.text_ok [] _ (List.mem_append_right _ (List.mem_singleton.2 rfl))

theorem lines_text (hs : s.WellFormed) : ∃ e ls,
    lines s.text = lines s.before ++ (beginLine s.label.text ++ s.ending) ::
      (lines s.body ++ (endLine s.label.text ++ e) :: ls) := by
  obtain ⟨n, b, hending, hb⟩ := hs.ended
  have hopen : lines (beginLine s.label.text ++ s.ending) = [beginLine s.label.text ++ s.ending] := by
    rw [hending, ← List.append_assoc]
    exact lines_ended (unbroken_beginLine s.label n) hb
  have hclosed : Closed (beginLine s.label.text ++ s.ending) := by
    intro x hx
    rw [hending, ← List.append_assoc, List.getLast?_concat] at hx
    rwa [← Option.some.inj hx]
  have hne : endLine s.label.text ≠ [] := List.append_ne_nil_of_right_ne_nil _ (by decide)
  obtain ⟨e, ls, hend⟩ := lines_start hne (unbroken_endLine s.label) s.after
  refine ⟨e, ls, ?_⟩
  rw [text, lines_append hs.closed, lines_append hclosed, lines_append hs.whole, hopen, hend]
  rfl

theorem decodeLoose?_of_first (hs : s.WellFormed) {key : PrivateKeyDer}
    (h : first TlsSettings.privateKey? (itemsOfFile s.text) = .ok key) :
    Base64.decodeLoose? s.body = some key.der ∧ key.format = s.label.format := by
  obtain ⟨e, ls, hlines⟩ := lines_text hs
  obtain ⟨n, b, hending, hb⟩ := hs.ended
  have hplain : ∀ l ∈ lines s.before, ¬beginMark <+: id l :=
    fun l hl hmark => hs.first (hmark.isInfix.trans (infix_of_mem_lines hl))
  have hinside : ∀ l ∈ lines s.body, ¬beginMark <+: l ∧ ¬endLine s.label.text <+: l := by
    intro l hl
    refine ⟨fun hmark => hs.unmarked.1 (hmark.isInfix.trans (infix_of_mem_lines hl)), fun hend => hs.unmarked.2 ?_⟩
    have hmark : endMark <+: endLine s.label.text := by
      rw [endLine, List.append_assoc]
      exact List.prefix_append _ _
    exact (hmark.trans hend).isInfix.trans (infix_of_mem_lines hl)
  have hblank : ∀ x ∈ s.ending, x = 32 ∨ lineBreak x = true := by
    intro x hx
    rw [hending] at hx
    rcases List.mem_append.1 hx with hx | hx
    · exact .inl (List.eq_of_mem_replicate hx)
    · exact .inr (List.mem_singleton.1 hx ▸ hb)
  have hbefore := items_plainLines hplain
    ((beginLine s.label.text ++ s.ending) :: (lines s.body ++ (endLine s.label.text ++ e) :: ls))
  rw [List.map_id] at hbefore
  rw [itemsOfFile, hlines, hbefore, items_beginLine s.label.text_ok hblank, items_inside hinside, List.nil_append,
    flatten_lines] at h
  cases hbody : Base64.decodeLoose? s.body with
  | none =>
      rw [items_badBody s.label.kindOf?_text hbody] at h
      cases h
  | some der =>
      rw [items_endLine s.label.kindOf?_text hbody, first] at h
      simp only [KeyLabel.privateKey?_kind] at h
      cases h
      exact ⟨rfl, rfl⟩

/-- What the reader of marks captures: everything between the lines of the section but the blanks in front. -/
theorem capture_text (hs : s.WellFormed) (hbody : ∀ b ∈ s.body, b ≠ 45) :
    Envelope.capture s.text =
      some ⟨s.label.text, (Envelope.splitHeaders (s.body.dropWhile Envelope.blank)).1,
        (Envelope.splitHeaders (s.body.dropWhile Envelope.blank)).2, s.label.text⟩ := by
  obtain ⟨n, e, hending, he⟩ := hs.ended
  have htext : s.text = s.before ++ (beginMark ++ (s.label.text ++ (dashes ++ (s.ending ++
      (s.body ++ (endMark ++ (s.label.text ++ (dashes ++ s.after)))))))) := by
    simp [text, beginLine, endLine]
  have hlast : ∀ b ∈ s.before.getLast?, b ∉ beginMark := by
    intro b hb hmem
    have hbreak := hs.closed b hb
    rw [unbroken_of_all (rfl : beginMark.all (!lineBreak ·) = true) b hmem] at hbreak
    cases hbreak
  have hbegin := Envelope.splitOn_found_line (by decide) hs.first hlast (s.label.text ++ (dashes ++ (s.ending ++
      (s.body ++ (endMark ++ (s.label.text ++ (dashes ++ s.after)))))))
  have hopening := Envelope.splitOn_found dashes_eq s.label.text_noDash (s.ending ++
      (s.body ++ (endMark ++ (s.label.text ++ (dashes ++ s.after)))))
  have hblank : (s.ending ++ (s.body ++ (endMark ++ (s.label.text ++ (dashes ++ s.after))))).dropWhile Envelope.blank =
      s.body.dropWhile Envelope.blank ++ (endMark ++ (s.label.text ++ (dashes ++ s.after))) := by
    have hending' : ∀ b ∈ s.ending, Envelope.blank b = true := by
      intro b hb
      rw [hending] at hb
      rcases List.mem_append.1 hb with hb | hb
      · rw [List.eq_of_mem_replicate hb]
        rfl
      · obtain rfl := List.mem_singleton.1 hb
        simp only [lineBreak, Bool.or_eq_true, beq_iff_eq] at he
        rcases he with rfl | rfl <;> rfl
    have hmark : (endMark ++ (s.label.text ++ (dashes ++ s.after))).dropWhile Envelope.blank =
        endMark ++ (s.label.text ++ (dashes ++ s.after)) := rfl
    rw [List.dropWhile_append_of_pos hending', List.dropWhile_append, hmark]
    split_ifs with hempty
    · rw [List.isEmpty_iff.1 hempty, List.nil_append]
    · rfl
  have hend := Envelope.splitOn_found Envelope.endMark_eq
    (fun b hb => hbody b ((List.dropWhile_sublist Envelope.blank).subset hb)) (s.label.text ++ (dashes ++ s.after))
  have hclosing := Envelope.splitOn_found dashes_eq s.label.text_noDash s.after
  rw [htext, Envelope.capture, hbegin]
  simp only [Option.bind_eq_bind, Option.bind_some, hopening, hblank, hend, hclosing]
  rfl

theorem read_text (hs : s.WellFormed) {key : PrivateKeyDer}
    (hfirst : first TlsSettings.privateKey? (itemsOfFile s.text) = .ok key) {der : Bytes}
    (h : Envelope.read s.text = .ok der) : der = key.der := by
  obtain ⟨hloose, -⟩ := decodeLoose?_of_first hs hfirst
  have hplain : ∀ b ∈ s.body, b ≠ 45 ∧ b ≠ 58 ∧ b < 0x80 := fun b hb => Base64.plain_of_decodeLoose? hloose hb
  have hsub : ∀ b ∈ s.body.dropWhile Envelope.blank, b ∈ s.body :=
    fun b hb => (List.dropWhile_sublist Envelope.blank).subset hb
  have hstart : ∀ b ∈ (s.body.dropWhile Envelope.blank).head?, Envelope.blank b = false := by
    intro b hb
    have hhead := List.head?_dropWhile_not Envelope.blank s.body
    rw [Option.mem_def.1 hb] at hhead
    simpa using hhead
  obtain ⟨c, hcapture, hdata, hheaders⟩ := Envelope.read_eq_ok h
  rw [capture_text hs fun b hb => (hplain b hb).1] at hcapture
  obtain rfl := Option.some.inj hcapture
  have hsplit := Envelope.splitHeaders_eq hstart hheaders fun h => (hplain 58 (hsub 58 h)).2.1 rfl
  rw [hsplit] at hdata
  have hsame := Envelope.decodeLoose?_of_decodeData (fun b hb => (hplain b (hsub b hb)).2.2) hdata
  rw [Envelope.decodeLoose?_dropWhile, hloose] at hsame
  exact (Option.some.inj hsame).symm

end KeySection

end PairedTls.Pem
