import PairedTls.Proofs.IdentityRuns
import PairedTls.Proofs.PemReaders

namespace PairedTls

open Act

namespace Files

variable {fs : Files} {path other : String} {first last : Bytes} {place place' : Place}

theorem write_eq_written {content : Bytes} {fault : Option WriteFault}
    (h : (fs.write path content fault).2 = .written) :
    ∃ place, fs.target path = .ok place ∧ (fs.write path content fault).1 = fs.set place (.file content) := by
  rw [write] at h ⊢
  cases htarget : fs.target path with
  | error e => rw [htarget] at h; cases h
  | ok place =>
      rw [htarget] at h
      cases fault with
      | none => exact ⟨place, rfl, rfl⟩
      | some fault => cases fault <;> cases h

theorem read_two_writes (htarget : fs.target path = .ok place)
    (htarget' : (fs.set place (.file first)).target other = .ok place') :
    let fs' := (fs.set place (.file first)).set place' (.file last)
    fs'.read other = .ok last ∧
      (fs.Apart path other → fs'.read path = .ok first) ∧ (¬fs.Apart path other → fs'.read path = .ok last) := by
  intro fs'
  obtain ⟨hresolve, hnode⟩ := target_ok htarget
  obtain ⟨hresolve', hnode'⟩ := target_ok htarget'
  have hpath : (fs.set place (.file first)).resolve path = .ok place := (resolve_set hnode first path place).2 hresolve
  have hother : fs.resolve other = .ok place' := (resolve_set hnode first other place').1 hresolve'
  refine ⟨read_set_self htarget' last, ?_, ?_⟩
  · intro hapart
    have hne : (fs.set place (.file first)).resolve path ≠ .ok place' := by
      rw [hpath]
      intro hsame
      rw [← Except.ok.inj hsame] at hother
      exact hapart place hresolve hother
    exact (read_set_other hnode' hne last first).2 (read_set_self htarget first)
  · intro hjoined
    have hsame : place = place' := by
      by_contra hne
      apply hjoined
      intro p hp hp'
      rw [hresolve] at hp
      rw [hother] at hp'
      exact hne ((Except.ok.inj hp).trans (Except.ok.inj hp').symm)
    apply read_eq_ok.2
    refine ⟨place', (resolve_set hnode' last path place').2 (hsame ▸ hpath), ?_⟩
    rw [get?_set hnode', if_pos rfl]

end Files

theorem Certificate.made_append {key : KeyPair} (h : key.Usable) (rest : Bytes) :
    Made ⟨(unsigned key).der ++ rest⟩ := by
  obtain ⟨f, hf, _⟩ := decode?_unsigned h
  have hder : ofDer ((unsigned key).der ++ rest) = .ok ⟨(unsigned key).der ++ rest⟩ := by
    rw [ofDer_eq, CertFields.decode?_behind hf rest]
    rfl
  exact .fromDer hder

namespace ServerIdentity

variable {id : ServerIdentity} {paths : IdentityPaths} {files : Files} {w w' : World}

theorem writePem_ok {path : String} {pem : Bytes} (h : exec (writePem path pem) w = (.ok (), w')) :
    ∃ place, w.files.target path = .ok place ∧ w'.files = w.files.set place (.file pem) := by
  obtain ⟨hfiles, _, hresult⟩ := exec_writePem path pem w
  rw [h] at hfiles hresult
  cases herror : (w.files.write path pem (nextFault w)).2.error? path with
  | some e => rw [herror] at hresult; cases hresult
  | none =>
      obtain ⟨place, htarget, hwrite⟩ := Files.write_eq_written (Files.WriteOutcome.error?_eq_none.1 herror)
      exact ⟨place, htarget, hfiles.trans hwrite⟩

theorem read_persist (h : exec (id.persist paths) w = (.ok (), w')) :
    w'.files.read paths.certPath = .ok id.cert.toPem ∧
      (w.files.Apart paths.keyPath paths.certPath → w'.files.read paths.keyPath = .ok id.key.toPem) ∧
      (¬w.files.Apart paths.keyPath paths.certPath → w'.files.read paths.keyPath = .ok id.cert.toPem) := by
  obtain ⟨u, w₁, hkey, hcert⟩ := exec_bind_eq_ok h
  obtain ⟨keyPlace, hkeyTarget, hkeyFiles⟩ := writePem_ok hkey
  obtain ⟨certPlace, hcertTarget, hcertFiles⟩ := writePem_ok hcert
  rw [hkeyFiles] at hcertTarget hcertFiles
  rw [hcertFiles]
  exact Files.read_two_writes hkeyTarget hcertTarget

theorem key_held (hkey : id.key.Made) (hread : files.read paths.keyPath = .ok id.key.toPem) :
    (Held.of paths files).key = some id.key := by
  have htext := ServerKey.ofText?_toPem hkey.ofDer?_der id.key.toPem.length
  rw [if_neg (by omega), List.take_length] at htext
  rw [Held.of, ServerKey.toOption_readFile, Files.content?_eq_some.2 hread]
  exact htext

theorem cert_held (hcert : id.cert.Made) (hread : files.read paths.certPath = .ok id.cert.toPem) :
    (Held.of paths files).cert = some id.cert := by
  have htext := Certificate.ofText?_toPem hcert.ofDer_der id.cert.toPem.length
  rw [if_neg (by omega), List.take_length] at htext
  rw [Held.of, Certificate.toOption_readFile, Files.content?_eq_some.2 hread]
  exact htext

theorem load_eq_ok (w : World) :
    (exec (load paths) w).1 = .ok id ↔ (Held.of paths w.files).identity? = some id := by
  rw [← (exec_load paths w).1]
  cases (exec (load paths) w).1 <;> simp [Except.toOption]

theorem settings_of_read (hkey : files.read paths.keyPath = .ok id.key.toPem)
    (hcert : files.read paths.certPath = .ok id.cert.toPem) (auth : ClientAuth) :
    TlsSettings.load files paths.certPath paths.keyPath auth = .ok (TlsSettings.ofIdentity id auth) := by
  have hkeyText : files.read paths.keyPath = .ok (Pem.Document.single .privateKey id.key.der).text := by
    rw [Pem.Document.text_single]
    exact hkey
  have hcertText : files.read paths.certPath = .ok (Pem.Document.single .certificate id.cert.der).text := by
    rw [Pem.Document.text_single]
    exact hcert
  have hchain := Pem.Document.loadChain_text (Pem.Document.wellFormed_single _ _) hcertText
  have hprivate := Pem.Document.loadPrivateKey_text (Pem.Document.wellFormed_single _ _) hkeyText
  have hders : ∀ label der, (Pem.Document.single label der).ders label = [der] := by
    intro label der
    simp [Pem.Document.single, Pem.Document.ders]
  rw [hders, if_neg (List.cons_ne_nil _ _)] at hchain
  simp only [hders, List.head?_cons] at hprivate
  rw [TlsSettings.load, hchain, hprivate]
  rfl

/-- An identity persisted to two files is the one that is loaded from them, and a listener takes the same chain and
the same private key from the files as from memory. -/
theorem load_persisted (hid : id.Made) (hapart : w.files.Apart paths.keyPath paths.certPath)
    (h : exec (id.persist paths) w = (.ok (), w')) :
    (∀ v : World, v.files = w'.files → (exec (load paths) v).1 = .ok id) ∧
      ∀ auth, TlsSettings.load w'.files paths.certPath paths.keyPath auth = .ok (TlsSettings.ofIdentity id auth) := by
  obtain ⟨hcert, hkey, _⟩ := read_persist h
  constructor
  · intro v hv
    rw [load_eq_ok, hv, Held.identity?_eq_some]
    exact ⟨key_held hid.1 (hkey hapart), cert_held hid.2 hcert⟩
  · exact settings_of_read (hkey hapart) hcert

def bareKey : ServerKey :=
  ⟨.ecdsa ⟨Ecdsa.p256, 1⟩,
    Der.writeSequence [Der.writeNatural 1, Der.write Der.Strict.octetStringTag [1]]⟩

def trailed : ServerIdentity :=
  ⟨bareKey, ⟨weierstrass.cert.der ++ [0]⟩⟩

theorem made_bareKey : bareKey.Made := by
  have hpair : KeyPair.ofDer? bareKey.der = some bareKey.pair := by decide +kernel
  have hder : ServerKey.ofDer? bareKey.der = some bareKey := by
    rw [ServerKey.ofDer?, hpair]
    rfl
  exact .fromDer hder

theorem made_trailed : trailed.Made :=
  ⟨made_bareKey, Certificate.made_append (KeyPair.usable_of_ofDer? ofDer?_weierstrass) [0]⟩

theorem load_persisted_trailed :
    let w : World := ⟨tornStart, 0, [], [], []⟩
    let w' := (exec (trailed.persist tornPaths) w).2
    trailed.Made ∧ w.files.Apart tornPaths.keyPath tornPaths.certPath ∧
      exec (trailed.persist tornPaths) w = (.ok (), w') ∧ (exec (load tornPaths) w').1 = .ok trailed ∧
        ∀ auth, TlsSettings.load w'.files tornPaths.certPath tornPaths.keyPath auth =
          .ok ⟨[trailed.cert.der], ⟨.pkcs8, bareKey.der⟩, auth⟩ := by
  intro w w'
  have hok : (exec (trailed.persist tornPaths) w).1.toOption = some () := by decide +kernel
  have hpersist : exec (trailed.persist tornPaths) w = (.ok (), w') := by
    apply Prod.ext
    · cases hresult : (exec (trailed.persist tornPaths) w).1 with
      | error e => rw [hresult] at hok; cases hok
      | ok u => rfl
    · rfl
  obtain ⟨hload, hsettings⟩ := load_persisted made_trailed apart_tornStart hpersist
  exact ⟨made_trailed, apart_tornStart, hpersist, hload w' rfl, hsettings⟩

end ServerIdentity
end PairedTls
