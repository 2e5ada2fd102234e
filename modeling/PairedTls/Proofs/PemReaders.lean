import PairedTls.Proofs.MadeCertificate

namespace PairedTls.Pem.Document

open Act

variable {d : Document}

theorem loadChain_text (hd : d.WellFormed) {files : Files} {path : String} (hread : files.read path = .ok d.text) :
    TlsSettings.loadChain files path =
      if d.ders .certificate = [] then .error (.emptyChain path) else .ok (d.ders .certificate) := by
  rw [TlsSettings.loadChain, hread]
  simp only [itemsOfFile_text hd, every_certificate?]
  cases d.ders .certificate <;> rfl

theorem loadPrivateKey_text (hd : d.WellFormed) {files : Files} {path : String} (hread : files.read path = .ok d.text) :
    TlsSettings.loadPrivateKey files path =
      match (d.ders .privateKey).head? with
      | some der => .ok ⟨.pkcs8, der⟩
      | none => .error (.badKey path (.content .nothingFound)) := by
  rw [TlsSettings.loadPrivateKey, hread]
  simp only [itemsOfFile_text hd, first_items privateKey?_kind]
  cases (d.ders .privateKey).head? <;> rfl

theorem readPem_text (hd : d.WellFormed) :
    Certificate.readPem d.text =
      match (d.ders .certificate).head? with
      | some der => Certificate.ofDer der
      | none => .error (.certificatePem .nothingFound) := by
  rw [Certificate.readPem, itemsOfText_text hd, first_items certificate?_kind]
  cases (d.ders .certificate).head? <;> rfl

def single (label : Label) (der : Bytes) : Document :=
  ⟨[⟨[], label, der⟩], []⟩

theorem wellFormed_single (label : Label) (der : Bytes) : (single label der).WellFormed where
  closed := by
    intro p hp
    obtain rfl := List.mem_singleton.1 hp
    exact closed_nil
  plain := by
    intro p hp
    obtain rfl := List.mem_singleton.1 hp
    intro l hl
    cases hl
  plain_after := by
    intro l hl
    cases hl

theorem text_single (label : Label) (der : Bytes) : (single label der).text = block label.text der := by
  simp [text, single, pieceText, Buffer.writeBlock, Buffer.empty]

/-- What a certificate's own text is read as does not depend on whether the certificate can be read. -/
theorem exec_ofPem_block (der : Bytes) (w : World) :
    exec (Certificate.ofPem (Certificate.toPem ⟨der⟩)) w = (Certificate.ofDer der, w) := by
  have hitems := itemsOfText_text (wellFormed_single .certificate der)
  rw [text_single] at hitems
  have hblock : Certificate.toPem ⟨der⟩ = block (Label.text .certificate) der := rfl
  rw [Certificate.exec_ofPem, hblock, hitems, first_items certificate?_kind]
  rfl

theorem exec_ofPem_toPem {c : Certificate} (hc : c.Made) (w : World) :
    exec (Certificate.ofPem c.toPem) w = (.ok c, w) :=
  (exec_ofPem_block c.der w).trans (congrArg (·, w) hc.ofDer_der)

/-- The three readers see the blocks in their order and nothing of what stands around them; so a certificate is
its own text read back. -/
theorem readers_text (hd : d.WellFormed) :
    (∀ (files : Files) (path : String), files.read path = .ok d.text →
      TlsSettings.loadChain files path =
          (if d.ders .certificate = [] then .error (.emptyChain path) else .ok (d.ders .certificate)) ∧
        TlsSettings.loadPrivateKey files path =
          (match (d.ders .privateKey).head? with
            | some der => .ok ⟨.pkcs8, der⟩
            | none => .error (.badKey path (.content .nothingFound)))) ∧
      (∀ w : World, (exec (Certificate.ofPem d.text) w).1 =
        match (d.ders .certificate).head? with
        | some der => Certificate.ofDer der
        | none => .error (.certificatePem .nothingFound)) ∧
      ∀ (c : Certificate) (w : World), c.Made → exec (Certificate.ofPem c.toPem) w = (.ok c, w) := by
  refine ⟨?_, ?_, ?_⟩
  · intro files path hread
    exact ⟨loadChain_text hd hread, loadPrivateKey_text hd hread⟩
  · intro w
    rw [(Certificate.exec_ofPem_spec d.text w).1, readPem_text hd]
  · intro c w hc
    exact exec_ofPem_toPem hc w

def noted : Document where
  pieces :=
    [⟨Bytes.ofString "my key\n", .privateKey, [1, 2, 3]⟩, ⟨Bytes.ofString "-----END of it\r\n\n", .certificate, []⟩,
     ⟨[], .publicKey, [0]⟩, ⟨[], .certificate, [48, 0]⟩]
  after := Bytes.ofString "no more"

theorem wellFormed_noted : noted.WellFormed where
  closed := by
    intro p hp
    simp only [noted, List.mem_cons, List.not_mem_nil, or_false] at hp
    rcases hp with rfl | rfl | rfl | rfl
    · exact closed_line (Bytes.ofString "my key")
    · exact closed_line (Bytes.ofString "-----END of it\r\n")
    · exact closed_nil
    · exact closed_nil
  plain := by
    decide +kernel
  plain_after := by
    decide +kernel

def notedFiles : Files :=
  ⟨[(["pair.pem"], .file noted.text)], []⟩

def notedCert : Certificate :=
  .unsigned (.ed25519 [])

theorem readers_text_noted :
    noted.WellFormed ∧ notedFiles.read "pair.pem" = .ok noted.text ∧
      TlsSettings.loadChain notedFiles "pair.pem" = .ok [[], [48, 0]] ∧
        TlsSettings.loadPrivateKey notedFiles "pair.pem" = .ok ⟨.pkcs8, [1, 2, 3]⟩ ∧
          notedCert.Made ∧ ∀ w, exec (Certificate.ofPem notedCert.toPem) w = (.ok notedCert, w) := by
  have hread : notedFiles.read "pair.pem" = .ok noted.text := by
    decide +kernel
  have hmade : notedCert.Made := Certificate.made_unsigned trivial
  obtain ⟨hfile, _, hsame⟩ := readers_text wellFormed_noted
  obtain ⟨hchain, hkey⟩ := hfile notedFiles "pair.pem" hread
  exact ⟨wellFormed_noted, hread, hchain, hkey, hmade, fun w => hsame notedCert w hmade⟩

end PairedTls.Pem.Document
