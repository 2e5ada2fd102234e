import PairedTls.Proofs.KeyForms
import PairedTls.Proofs.KeySections
import PairedTls.Proofs.PersistedIdentity

namespace PairedTls

open Act

namespace Pem

def MarkedOnce (mark text : Bytes) : Prop :=
  ∀ a b a' b', text = a ++ (mark ++ b) → text = a' ++ (mark ++ b') → a = a'

theorem MarkedOnce.not_infix {mark text before part after a b : Bytes} (h : MarkedOnce mark text) (hne : mark ≠ [])
    (hat : text = a ++ (mark ++ b)) (htext : text = before ++ (part ++ after))
    (hout : a.length < before.length ∨ before.length + part.length ≤ a.length) : ¬mark <:+: part := by
  rintro ⟨x, y, hpart⟩
  have hinside : text = (before ++ x) ++ (mark ++ (y ++ after)) := by rw [htext, ← hpart]; simp
  have hsame := congrArg List.length (h _ _ _ _ hat hinside)
  have hlength := congrArg List.length hpart
  have hpos := List.length_pos_of_ne_nil hne
  simp only [List.length_append] at hsame hlength
  omega

/-- No block after the first, and no second end to it. -/
structure OneBlock (text : Bytes) : Prop where
  opened : MarkedOnce beginMark text
  ended : MarkedOnce endMark text

theorem first_inside {label collected : Bytes} {ls : List Bytes} {key : PrivateKeyDer}
    (hls : ∀ l ∈ ls, ¬beginMark <+: l)
    (h : first TlsSettings.privateKey? (items (some ⟨label, collected⟩) ls) = .ok key) :
    (∃ l : KeyLabel, label = l.text) ∧ ∃ body last back, ls = body ++ last :: back ∧ endLine label <+: last ∧
      (Base64.decodeLoose? (collected ++ body.flatten)).isSome = true := by
  induction ls generalizing collected with
  | nil => cases h
  | cons line rest ih =>
      obtain ⟨hline, hrest⟩ := List.forall_mem_cons.1 hls
      rw [← List.isPrefixOf_iff_prefix] at hline
      rw [items, if_neg hline] at h
      dsimp only at h
      split_ifs at h with hend
      · rw [List.isPrefixOf_iff_prefix] at hend
        cases hkind : kindOf? label with
        | none =>
            simp only [hkind, items_unopened hrest] at h
            cases h
        | some kind =>
            cases hbody : Base64.decodeLoose? collected with
            | none =>
                simp only [hkind, hbody] at h
                cases h
            | some der =>
                simp only [hkind, hbody, items_unopened hrest, first] at h
                cases hkey : TlsSettings.privateKey? kind der with
                | none =>
                    rw [hkey] at h
                    cases h
                | some found =>
                    refine ⟨KeyLabel.of_kindOf? hkind hkey, [], line, rest, rfl, hend, ?_⟩
                    rw [List.flatten_nil, List.append_nil, hbody]
                    rfl
      · obtain ⟨hlabel, body, last, back, rfl, hlast, hbody⟩ := ih hrest h
        refine ⟨hlabel, line :: body, last, back, rfl, hlast, ?_⟩
        rwa [List.flatten_cons, ← List.append_assoc]

theorem first_outside {ls : List Bytes} {key : PrivateKeyDer}
    (hone : ∀ front line back, ls = front ++ line :: back → beginMark <+: line → ∀ l ∈ back, ¬beginMark <+: l)
    (h : first TlsSettings.privateKey? (items none ls) = .ok key) :
    ∃ (label : KeyLabel) (front : List Bytes) (line : Bytes) (body : List Bytes) (last : Bytes) (back : List Bytes),
      ls = front ++ line :: (body ++ last :: back) ∧ beginMark <+: line ∧ openingLabel? line = some label.text ∧
        endLine label.text <+: last ∧ (Base64.decodeLoose? body.flatten).isSome = true := by
  induction ls with
  | nil => cases h
  | cons line rest ih =>
      rw [items] at h
      split_ifs at h with hbegin
      · rw [List.isPrefixOf_iff_prefix] at hbegin
        cases hlabel : openingLabel? line with
        | none =>
            rw [hlabel] at h
            cases h
        | some label =>
            simp only [hlabel] at h
            obtain ⟨⟨l, rfl⟩, body, last, back, rfl, hlast, hbody⟩ := first_inside (hone [] line rest rfl hbegin) h
            exact ⟨l, [], line, body, last, back, rfl, hbegin, hlabel, hlast, hbody⟩
      · obtain ⟨l, front, opening, body, last, back, rfl, hopening, hlabel, hlast, hbody⟩ :=
          ih (fun front l back hsplit => hone (line :: front) l back (by rw [hsplit]; rfl)) h
        exact ⟨l, line :: front, opening, body, last, back, rfl, hopening, hlabel, hlast, hbody⟩

theorem dashes_together {label tail body opening rest : Bytes} (hlabel : ∀ b ∈ label, b ≠ 45)
    (hbody : ∀ b ∈ body, b ≠ 45) (hcount : tail.count 45 = 4)
    (h : label ++ ((45 :: tail) ++ body) = opening ++ (dashes ++ rest)) :
    ∃ more, 45 :: tail = dashes ++ more ∧ ∀ b ∈ more, b ≠ 45 := by
  have hdashes : dashCount dashes = 5 := by decide
  have htail : dashCount (45 :: tail) = 5 := by rw [dashCount, List.count_cons_self, hcount]
  have hsum := congrArg dashCount h
  simp only [dashCount_append, hdashes, htail, dashCount_eq_zero hlabel, dashCount_eq_zero hbody] at hsum
  have hopening : (45 : UInt8) ∉ opening := by
    intro hmem
    have hpos : 0 < dashCount opening := List.count_pos_iff.2 hmem
    omega
  obtain rfl : label = opening := Bytes.front_unique (fun hmem => hlabel 45 hmem rfl) hopening h
  have hrest := List.append_cancel_left h
  have hlength : dashes.length ≤ (45 :: tail).length := by
    have hle : dashCount (45 :: tail) ≤ (45 :: tail).length := List.count_le_length
    rwa [htail] at hle
  have hfront : (45 :: tail).take dashes.length = dashes := by
    rw [← List.take_append_of_le_length hlength, hrest, List.take_left]
  have hsplit : 45 :: tail = dashes ++ (45 :: tail).drop dashes.length := by
    conv_lhs => rw [← List.take_append_drop dashes.length (45 :: tail), hfront]
  refine ⟨_, hsplit, ?_⟩
  rintro b hb rfl
  have hpos : 0 < dashCount ((45 :: tail).drop dashes.length) := List.count_pos_iff.2 hb
  have hmore := congrArg dashCount hsplit
  rw [dashCount_append, hdashes, htail] at hmore
  omega

theorem ending_of_line {text line front ending : Bytes} {b : UInt8} (hmem : line ∈ lines text)
    (hline : line = front ++ ending) (hfront : front.getLast? = some b) (hb : lineBreak b = false)
    (hclosed : Closed line) (hblank : ∀ b ∈ ending, b = 32 ∨ lineBreak b = true) :
    ∃ n e, ending = List.replicate n 32 ++ [e] ∧ lineBreak e = true := by
  obtain ⟨-, l, e, hsplit, hunbroken, he⟩ := mem_lines hmem
  rcases List.eq_nil_or_concat ending with rfl | ⟨init, last, rfl⟩
  · rw [List.append_nil] at hline
    have hbreak := hclosed b (by rw [hline, hfront])
    rw [hb] at hbreak
    cases hbreak
  · rw [List.concat_eq_append] at *
    rw [← List.append_assoc] at hline
    have hlast : lineBreak last = true := hclosed last (by rw [hline, List.getLast?_concat])
    obtain hinit : front ++ init = l := by
      rcases he with rfl | ⟨b, rfl, -⟩
      · rw [List.append_nil] at hsplit
        have hunbrokenLast := hunbroken last (by rw [← hsplit, hline]; simp)
        rw [hlast] at hunbrokenLast
        cases hunbrokenLast
      · exact (List.append_inj' (hline.symm.trans hsplit) rfl).1
    refine ⟨init.length, last, ?_, hlast⟩
    congr 1
    refine List.eq_replicate_iff.2 ⟨rfl, fun b hb => ?_⟩
    have hb' := hunbroken b (hinit ▸ List.mem_append_right front hb)
    refine (hblank b (List.mem_append_left _ hb)).resolve_right ?_
    rw [hb']
    exact Bool.false_ne_true

theorem OneBlock.single_line {text : Bytes} (hone : OneBlock text) {front back : List Bytes} {line : Bytes}
    (hsplit : lines text = front ++ line :: back) (hline : beginMark <+: line) : ∀ l ∈ back, ¬beginMark <+: l := by
  intro l hl hbegin
  obtain ⟨between, behind, rfl⟩ := List.append_of_mem hl
  obtain ⟨r, rfl⟩ := hline
  obtain ⟨r', rfl⟩ := hbegin
  have htext : text = front.flatten ++ (beginMark ++ (r ++ (between.flatten ++ (beginMark ++ (r' ++ behind.flatten))))) := by
    conv_lhs => rw [← flatten_lines text, hsplit]
    simp
  have hagain : text = (front.flatten ++ (beginMark ++ (r ++ between.flatten))) ++
      (beginMark ++ (r' ++ behind.flatten)) := by
    rw [htext]
    simp
  have hsame := congrArg List.length (hone.opened _ _ _ _ htext hagain)
  have hmark : beginMark.length = 11 := by decide
  simp only [List.length_append] at hsame
  omega

/-- Both marks being where the reader of lines found them, the other reader finds the dashes of the label there. -/
theorem OneBlock.dashes_together {text front label tail body behind der : Bytes} (hone : OneBlock text)
    (hread : Envelope.read text = .ok der) (hlabel : ∀ b ∈ label, b ≠ 45) (hbody : ∀ b ∈ body, b ≠ 45)
    (hcount : tail.count 45 = 4)
    (htext : text = front ++ (beginMark ++ ((label ++ ((45 :: tail) ++ body)) ++ (endMark ++ behind)))) :
    ∃ more, 45 :: tail = dashes ++ more ∧ ∀ b ∈ more, b ≠ 45 := by
  obtain ⟨c, hcapture, -⟩ := Envelope.read_eq_ok hread
  obtain ⟨ahead, blanks, data, after, hfound⟩ := Envelope.capture_eq_some hcapture
  obtain rfl := hone.opened _ _ _ _ htext hfound
  have hend : text = (front ++ (beginMark ++ (c.opening ++ (dashes ++ (blanks ++ data))))) ++
      (endMark ++ (c.closing ++ (dashes ++ after))) := by
    rw [hfound]
    simp
  have hstart : text = (front ++ (beginMark ++ (label ++ ((45 :: tail) ++ body)))) ++ (endMark ++ behind) := by
    rw [htext]
    simp
  have hsame := List.append_cancel_left (List.append_cancel_left (hone.ended _ _ _ _ hstart hend))
  exact Pem.dashes_together hlabel hbody hcount hsame

def KeyFirst (text : Bytes) : Prop :=
  ∃ s : KeySection, s.WellFormed ∧ s.text = text

theorem OneBlock.keyFirst {text : Bytes} (hone : OneBlock text) {key : PrivateKeyDer}
    (hfirst : first TlsSettings.privateKey? (itemsOfFile text) = .ok key) {der : Bytes}
    (hread : Envelope.read text = .ok der) : KeyFirst text := by
  obtain ⟨label, front, line, body, last, back, hlines, hbegin, hlabel, ⟨e, hlast⟩, hbody⟩ :=
    first_outside (fun _ _ _ => hone.single_line) hfirst
  obtain ⟨out, hout⟩ := Option.isSome_iff_exists.1 hbody
  have hplain : ∀ b ∈ body.flatten, b ≠ 45 := fun b hb => (Base64.plain_of_decodeLoose? hout hb).1
  obtain ⟨tail, hline, htail, hcount⟩ := openingLabel?_eq_some hbegin (by cases label <;> decide) hlabel
  -- The marks and the body are where the reader of lines found them; that no dash follows the label is known from
  -- the other reader only.
  have htext : text = front.flatten ++ (beginMark ++ ((label.text ++ ((45 :: tail) ++ body.flatten)) ++
      (endMark ++ (label.text ++ (dashes ++ (e ++ back.flatten)))))) := by
    conv_lhs => rw [← flatten_lines text, hlines, hline, ← hlast]
    simp [endLine]
  obtain ⟨more, hmore, hnone⟩ := hone.dashes_together hread label.text_noDash hplain hcount htext
  have hopen : line = beginLine label.text ++ more := by
    rw [hline, hmore]
    simp [beginLine]
  have hstart : text = (front.flatten ++ line) ++ (body.flatten ++ (last ++ back.flatten)) := by
    conv_lhs => rw [← flatten_lines text, hlines]
    simp
  have hend : text = (front.flatten ++ (line ++ body.flatten)) ++
      (endMark ++ (label.text ++ (dashes ++ (e ++ back.flatten)))) := by
    rw [htext, hline]
    simp
  have hclosedLine : Closed [line].flatten := by
    obtain ⟨next, behind, hnext⟩ := List.exists_cons_of_ne_nil
      (List.append_ne_nil_of_right_ne_nil body (List.cons_ne_nil last back))
    exact closed_middle (by rw [hlines, hnext]; rfl : lines text = front ++ ([line] ++ next :: behind))
  rw [List.flatten_singleton] at hclosedLine
  have hclosedBody : Closed body.flatten :=
    closed_middle (by rw [hlines]; simp : lines text = (front ++ [line]) ++ (body ++ last :: back))
  refine ⟨⟨front.flatten, label, more, body.flatten, e ++ back.flatten⟩, ?_, ?_⟩
  · refine ⟨closed_front hlines, ?_, ?_, hclosedBody, ?_, ?_⟩
    · have hfront : text = [] ++ (front.flatten ++ (line ++ (body.flatten ++ (last ++ back.flatten)))) := by
        rw [hstart]
        simp
      exact hone.opened.not_infix (by decide) htext hfront (.inr (by simp))
    · have hdash : (beginLine label.text).getLast? = some 45 := by
        rw [beginLine, dashes_eq, List.getLast?_append]
        rfl
      have hblank : ∀ b ∈ more, b = 32 ∨ lineBreak b = true := by
        intro b hb
        have hne := hnone b hb
        have hmem : b ∈ 45 :: tail := hmore ▸ List.mem_append_right dashes hb
        exact (htail b ((List.mem_cons.1 hmem).resolve_left hne)).resolve_left hne
      exact ending_of_line (by rw [hlines]; simp) hopen hdash rfl hclosedLine hblank
    · exact hone.opened.not_infix (by decide) htext hstart (.inl (by rw [hline]; simp [Envelope.beginMark_eq]))
    · exact hone.ended.not_infix (by decide) hend hstart (.inr (by simp only [List.length_append]; omega))
  · rw [KeySection.text, htext, hmore]
    simp [beginLine, endLine]

end Pem

theorem TlsConfig.build_bare {key : ServerKey} (h : KeyPair.guessFormat key.der ≠ some .pkcs8) (cert : Certificate)
    (auth : ClientAuth) (session : Option SessionContext) :
    build (TlsSettings.ofIdentity ⟨key, cert⟩ auth) session = .error .mismatch := by
  have hnone : KeyPair.ofFormat? .pkcs8 key.der = none := KeyPair.ofFormat?_bare h
  rw [build, TlsSettings.ofIdentity, ServerKey.privateKeyDer]
  simp only [hnone]

theorem TlsSettings.first_of_loadPrivateKey {files : Files} {path : String} {content : Bytes} {tls : PrivateKeyDer}
    (hcontent : files.read path = .ok content) (h : loadPrivateKey files path = .ok tls) :
    Pem.first privateKey? (Pem.itemsOfFile content) = .ok tls := by
  rw [loadPrivateKey, hcontent] at h
  dsimp only at h
  cases hfirst : Pem.first privateKey? (Pem.itemsOfFile content) with
  | error fault => rw [hfirst] at h; cases h
  | ok found =>
      rw [hfirst] at h
      cases h
      rfl

namespace ServerKey

theorem read_of_ofFile {path : String} {w w' : World} {content : Bytes} {key : ServerKey}
    (hcontent : w.files.read path = .ok content) (h : exec (ofFile path) w = (.ok key, w')) :
    Pem.Envelope.read content = .ok key.der := by
  have hread := (exec_ofFile path w).1
  have htext : Certificate.fileText w.files path =
      if (Utf8.decode? content).isSome then .ok content else .error .notText := by
    rw [Certificate.fileText, hcontent]
    rfl
  rw [h, readFile, htext] at hread
  split_ifs at hread
  · exact (of_readPem hread.symm).1
  · cases hread

/-- Where each mark stands once, or the first mark opens a section with one of the three labels, both loaders take the
same bytes. A key that is loaded as an identity is always declared to be of the wrapped format, one that is loaded as
settings to be of the format that its label names, so that the two agree under one of the labels only; and a key that is
not wrapped, once it is loaded as an identity, is of no use to a listener. A first block with a label that only an
identity is loaded from is not among these texts: the loaders then take two different keys. -/
theorem loaders_by_label {path : String} {w w' : World} {content : Bytes} {key : ServerKey} {tls : PrivateKeyDer}
    (hcontent : w.files.read path = .ok content) (hshape : Pem.OneBlock content ∨ Pem.KeyFirst content)
    (hkey : exec (ofFile path) w = (.ok key, w')) (htls : TlsSettings.loadPrivateKey w.files path = .ok tls) :
    ∃ label : Pem.KeyLabel, Pem.beginLine label.text <:+: content ∧
      tls = ⟨label.format, key.privateKeyDer.2⟩ ∧
      (key.privateKeyDer = (tls.format, tls.der) ↔ label = .wrapped) ∧
      (∀ chainPath cert auth settings, TlsSettings.load w.files chainPath path auth = .ok settings →
        ((TlsSettings.ofIdentity ⟨key, cert⟩ auth).key = settings.key ↔ label = .wrapped)) ∧
      (KeyPair.guessFormat key.der ≠ some .pkcs8 → ∀ cert auth session,
        TlsConfig.build (TlsSettings.ofIdentity ⟨key, cert⟩ auth) session = .error .mismatch) := by
  have hread := read_of_ofFile hcontent hkey
  have hfirst := TlsSettings.first_of_loadPrivateKey hcontent htls
  obtain ⟨s, hs, rfl⟩ : Pem.KeyFirst content := hshape.elim (fun hone => hone.keyFirst hfirst hread) id
  obtain ⟨-, hformat⟩ := Pem.KeySection.decodeLoose?_of_first hs hfirst
  have hder : key.der = tls.der := Pem.KeySection.read_text hs hfirst hread
  have htlsEq : tls = ⟨s.label.format, key.der⟩ := by
    cases tls
    exact congrArg₂ PrivateKeyDer.mk hformat hder.symm
  have hwrapped : s.label.format = .pkcs8 ↔ s.label = .wrapped := by
    cases s.label <;> simp [Pem.KeyLabel.format]
  refine ⟨s.label, ⟨s.before, s.ending ++ (s.body ++ (Pem.endLine s.label.text ++ s.after)), ?_⟩, htlsEq, ?_, ?_, ?_⟩
  · simp [Pem.KeySection.text]
  · rw [htlsEq, privateKeyDer, Prod.mk.injEq, ← hwrapped]
    exact ⟨fun h => h.1.symm, fun h => ⟨h.symm, rfl⟩⟩
  · intro chainPath cert auth settings hload
    obtain ⟨chain, -, hload⟩ := bind_eq_ok hload
    obtain ⟨found, hfound, hload⟩ := bind_eq_ok hload
    cases hload
    obtain rfl := Except.ok.inj (hfound.symm.trans htls)
    rw [TlsSettings.ofIdentity, privateKeyDer, htlsEq, ← hwrapped, PrivateKeyDer.mk.injEq]
    exact ⟨fun h => h.1.symm, fun h => ⟨h.symm, rfl⟩⟩
  · intro hbare cert auth session
    exact TlsConfig.build_bare hbare cert auth session

example :
    let content := Pem.block (Bytes.ofString "ANY PRIVATE KEY") ServerIdentity.bareKey.der ++
      ServerIdentity.weierstrass.key.toPem
    (readPem content).toOption = some ServerIdentity.bareKey ∧
      (Pem.first TlsSettings.privateKey? (Pem.itemsOfFile content)).toOption =
        some ⟨.pkcs8, ServerIdentity.weierstrass.key.der⟩ := by
  decide +kernel

def curveSection : Pem.KeySection :=
  ⟨[], .curve, [10], Base64.encode ServerIdentity.bareKey.der ++ [Pem.newline], [10]⟩

theorem wellFormed_curveSection : curveSection.WellFormed where
  closed := Pem.closed_nil
  first := by decide
  ended := ⟨0, 10, rfl, rfl⟩
  whole := Pem.closed_line _
  unmarked := by decide

theorem loaders_by_label_curve :
    let w : World := ⟨⟨[(["key.pem"], .file curveSection.text)], []⟩, 0, [], [], []⟩
    ∃ w', exec (ofFile "key.pem") w = (.ok ServerIdentity.bareKey, w') ∧
      TlsSettings.loadPrivateKey w.files "key.pem" = .ok ⟨.sec1, ServerIdentity.bareKey.der⟩ ∧
      ServerIdentity.bareKey.privateKeyDer ≠ (.sec1, ServerIdentity.bareKey.der) ∧
      ∀ cert auth session,
        TlsConfig.build (TlsSettings.ofIdentity ⟨ServerIdentity.bareKey, cert⟩ auth) session = .error .mismatch := by
  intro w
  have hcontent : w.files.read "key.pem" = .ok curveSection.text :=
    Files.read_eq_ok.2 ⟨["key.pem"], by decide +kernel, rfl⟩
  have hok : (exec (ofFile "key.pem") w).1.toOption = some ServerIdentity.bareKey := by decide +kernel
  have htls : (TlsSettings.loadPrivateKey w.files "key.pem").toOption = some ⟨.sec1, ServerIdentity.bareKey.der⟩ := by
    decide +kernel
  cases hexec : exec (ofFile "key.pem") w with
  | mk result w' =>
      rw [hexec] at hok
      cases result with
      | error e => cases hok
      | ok key =>
          obtain rfl := Option.some.inj hok
          cases hload : TlsSettings.loadPrivateKey w.files "key.pem" with
          | error e => rw [hload] at htls; cases htls
          | ok tls =>
              rw [hload] at htls
              obtain rfl := Option.some.inj htls
              obtain ⟨label, -, hlabel, hagree, -, hbuild⟩ :=
                loaders_by_label hcontent (.inr ⟨_, wellFormed_curveSection, rfl⟩) hexec hload
              have hbare : KeyPair.guessFormat ServerIdentity.bareKey.der ≠ some .pkcs8 := by decide +kernel
              refine ⟨w', rfl, rfl, fun hsame => ?_, hbuild hbare⟩
              rw [hagree.1 hsame] at hlabel
              cases hlabel

/-- A key is written and handed over as it was read, under the name of the wrapped format whatever it is. So what is
written is a key with its algorithm, and what is handed over can be used, exactly where that is what was read. -/
theorem encodings_by_form {text : Bytes} {key : ServerKey} {w w' : World} (h : exec (ofPem text) w = (.ok key, w')) :
    Pem.Envelope.read text = .ok key.der ∧ Pem.itemsOfText key.toPem = [.ok (.privateKey, key.der)] ∧
      key.privateKeyDer = (.pkcs8, key.der) ∧
      ∃ format element behind, KeyForm format element ∧ key.der = element ++ behind ∧
        KeyPair.guessFormat key.der = some format ∧
        (PrivateKeyInfo key.der ↔ format = .pkcs8 ∧ behind = []) ∧
        ((KeyPair.ofFormat? key.privateKeyDer.1 key.privateKeyDer.2).isSome = true ↔ format = .pkcs8) := by
  have hexec := (exec_ofPem text w).1
  rw [h] at hexec
  obtain ⟨hread, hkey⟩ := of_readPem hexec.symm
  obtain ⟨pair, hpair, -⟩ := Option.map_eq_some_iff.1 hkey
  have hitems := Pem.Document.itemsOfText_text (Pem.Document.wellFormed_single .privateKey key.der)
  rw [Pem.Document.text_single] at hitems
  obtain ⟨format, element, behind, hform, hder⟩ := KeyPair.form_of_ofDer? hpair
  have hguess := hform.guessFormat_eq behind
  rw [← hder] at hguess
  refine ⟨hread, hitems, rfl, format, element, behind, hform, hder, hguess, ?_, ?_⟩
  · rw [hder]
    exact hform.privateKeyInfo_iff
  · rw [privateKeyDer, KeyPair.ofFormat?_wrapped_iff hpair, hguess, Option.some.injEq]

theorem encodings_by_form_curve :
    let w : World := ⟨⟨[], []⟩, 0, [], [], []⟩
    ∃ w', exec (ofPem curveSection.text) w = (.ok ServerIdentity.bareKey, w') ∧
      Pem.itemsOfText ServerIdentity.bareKey.toPem = [.ok (.privateKey, ServerIdentity.bareKey.der)] ∧
      KeyPair.guessFormat ServerIdentity.bareKey.der = some .sec1 ∧ ¬PrivateKeyInfo ServerIdentity.bareKey.der := by
  intro w
  have hok : (exec (ofPem curveSection.text) w).1.toOption = some ServerIdentity.bareKey := by decide +kernel
  have hguess : KeyPair.guessFormat ServerIdentity.bareKey.der = some .sec1 := by decide +kernel
  cases hexec : exec (ofPem curveSection.text) w with
  | mk result w' =>
      rw [hexec] at hok
      cases result with
      | error e => cases hok
      | ok key =>
          obtain rfl := Option.some.inj hok
          obtain ⟨-, hitems, -, format, element, behind, -, -, hformat, hinfo, -⟩ := encodings_by_form hexec
          obtain rfl : KeyFormat.sec1 = format := Option.some.inj (hguess.symm.trans hformat)
          exact ⟨w', rfl, hitems, hguess, fun h => nomatch (hinfo.1 h).1⟩

end ServerKey
end PairedTls
