import PairedTls.Proofs.IdentityRuns
import PairedTls.Proofs.LeafForm

namespace PairedTls

def TlsFault.ReportedBad (fault : TlsFault) : Prop :=
  ∃ text, ConnectionError.ofHandshake (.tls fault) = .badCertificate text

theorem TlsFault.reportedBad_iff {fault : TlsFault} : fault.ReportedBad ↔ fault = .badCertificateEncoding := by
  constructor
  · rintro ⟨text, h⟩
    cases fault with
    | badCertificateEncoding => rfl
    | noCertificate | certificate | other => cases h
  · rintro rfl
    exact ⟨_, rfl⟩

theorem SignatureFault.toTls_eq_bad {fault : SignatureFault} :
    fault.toTls = .badCertificateEncoding ↔ fault = .certificate .badEncoding := by
  cases fault with
  | certificate leafFault => cases leafFault <;> simp [toTls]
  | notOffered | wrongKey | badSignature => simp [toTls]

namespace Verifier

variable {v : Verifier} {der tail : Bytes}

theorem tryAlgorithms_ne {keyAlgorithm key message signature : Bytes} {fault : SignatureFault} {leafFault : LeafFault}
    (hfault : fault ≠ .certificate leafFault) (algorithms : List SignatureAlgorithm) :
    tryAlgorithms keyAlgorithm key message signature fault algorithms ≠ .error (.certificate leafFault) := by
  induction algorithms generalizing fault with
  | nil => exact fun h => hfault (Except.error.inj h)
  | cons alg rest ih =>
      rw [tryAlgorithms]
      split_ifs
      · nofun
      · nofun
      · exact ih nofun

theorem verifySignature_eq {version : TlsVersion} {scheme : Nat} {algorithms : List SignatureAlgorithm}
    (hcandidates : Scheme.candidates? version scheme = some algorithms) (v : Verifier) (message der signature : Bytes) :
    v.verifySignature version message der scheme signature =
      onLeaf (Leaf.ofDer der >>= Leaf.keyParts) >>= fun (keyAlgorithm, key) =>
        tryAlgorithms keyAlgorithm key message signature .notOffered algorithms := by
  rw [verifySignature, hcandidates]
  cases Leaf.ofDer der with
  | error fault => rfl
  | ok leaf => rfl

theorem verifySignature_bad_iff (v : Verifier) (version : TlsVersion) (message der : Bytes) (scheme : Nat)
    (signature : Bytes) :
    v.verifySignature version message der scheme signature = .error (.certificate .badEncoding) ↔
      (Scheme.candidates? version scheme).isSome = true ∧ ¬ Leaf.Form der := by
  rw [← Leaf.understood_iff, Leaf.Understood, not_not]
  cases hcandidates : Scheme.candidates? version scheme with
  | none =>
      rw [verifySignature, hcandidates]
      exact ⟨nofun, nofun⟩
  | some algorithms =>
      rw [verifySignature_eq hcandidates]
      cases hparts : Leaf.ofDer der >>= Leaf.keyParts with
      | error fault =>
          constructor
          · intro h
            cases h
            exact ⟨rfl, rfl⟩
          · rintro ⟨-, h⟩
            cases h
            rfl
      | ok parts =>
          have hstart : SignatureFault.notOffered ≠ .certificate .badEncoding := nofun
          exact ⟨fun h => absurd h (tryAlgorithms_ne hstart algorithms), fun h => nomatch h.2⟩

theorem verifyClientCert_ok_iff {intermediates : List Bytes} {now : Int} :
    v.verifyClientCert der intermediates now = .ok () ↔ ∃ f, CertFields.decode? der = some f := by
  rw [verifyClientCert, ← Option.isSome_iff_exists]
  by_cases h : (CertFields.decode? der).isSome = true
  · rw [if_pos h]
    exact ⟨fun _ => h, fun _ => rfl⟩
  · rw [if_neg h]
    exact ⟨nofun, fun hsome => absurd hsome h⟩

theorem verifyClientCert_bad_iff {intermediates : List Bytes} {now : Int} :
    (∃ fault, v.verifyClientCert der intermediates now = .error fault ∧ fault.ReportedBad) ↔
      ∃ e, Certificate.ofDer der = .error e := by
  rw [Certificate.ofDer_eq, verifyClientCert]
  cases CertFields.decode? der with
  | some f => exact ⟨nofun, nofun⟩
  | none => exact ⟨fun _ => ⟨_, rfl⟩, fun _ => ⟨_, rfl, TlsFault.reportedBad_iff.2 rfl⟩⟩

/-- Nothing may come after a certificate that is read strictly. -/
theorem not_form_append {f : CertFields} (h : CertFields.decode? der = some f) (htail : tail ≠ []) :
    ¬ Leaf.Form (der ++ tail) := by
  rintro ⟨body, algorithm, signature, key, hder, hfits, -⟩
  obtain ⟨⟨outer, rest⟩, hcontent, -⟩ := Option.bind_eq_some_iff.1 h
  have hloose := Der.readContent_behind hcontent tail
  have hwhole := Der.readContent_sequence (Nat.lt_trans hfits (by decide)) []
  rw [List.append_nil] at hwhole
  rw [hder, Der.writeSequence, hwhole] at hloose
  obtain ⟨-, hrest⟩ := Prod.mk.inj (Option.some.inj hloose)
  exact htail (List.append_eq_nil_iff.1 hrest.symm).2

theorem keyForm_publicContent {key : KeyPair} (h : key.Usable) : Leaf.KeyForm key.publicContent := by
  have hlength := KeyPair.length_publicContent_le h
  have hlimit : Leaf.sizeLimit = 65535 := rfl
  rw [KeyPair.publicContent, List.length_append, Der.writeBits, Der.write, Der.write] at hlength
  simp only [List.length_append, List.length_cons] at hlength
  exact ⟨key.publicAlgorithm, key.publicBits, by omega, by omega, rfl⟩

/-- What is reported bad: when it is presented, exactly what cannot be read as a certificate; when the signature is
checked, whatever does not have the strict form. The two agree on what this program makes, and never on an
accepted certificate with bytes behind it. -/
theorem reportedBad_by_form (v : Verifier) (der : Bytes) :
    (∀ intermediates now,
      (∃ fault, v.verifyClientCert der intermediates now = .error fault ∧ fault.ReportedBad) ↔
        ∃ e, Certificate.ofDer der = .error e) ∧
    (∀ version message scheme signature,
      (∃ fault, v.verifySignature version message der scheme signature = .error fault ∧ fault.toTls.ReportedBad) ↔
        (Scheme.candidates? version scheme).isSome = true ∧ ¬ Leaf.Form der) ∧
    (∀ intermediates now tail, v.verifyClientCert der intermediates now = .ok () → tail ≠ [] →
      v.verifyClientCert (der ++ tail) intermediates now = .ok () ∧ ¬ Leaf.Form (der ++ tail)) ∧
    ∀ (key : KeyPair) (now : Int) (nonce : Nat) (c : Certificate), key.Usable →
      Certificate.build? key now nonce = some c →
      (∀ intermediates now, v.verifyClientCert c.der intermediates now = .ok ()) ∧ Leaf.Form c.der := by
  refine ⟨fun _ _ => verifyClientCert_bad_iff, ?_, ?_, ?_⟩
  · intro version message scheme signature
    rw [← verifySignature_bad_iff v version message der scheme signature]
    constructor
    · rintro ⟨fault, hverify, hbad⟩
      rwa [SignatureFault.toTls_eq_bad.1 (TlsFault.reportedBad_iff.1 hbad)] at hverify
    · intro hverify
      exact ⟨_, hverify, TlsFault.reportedBad_iff.2 rfl⟩
  · intro intermediates now tail haccepted htail
    obtain ⟨f, hf⟩ := verifyClientCert_ok_iff.1 haccepted
    exact ⟨verifyClientCert_ok_iff.2 ⟨f, CertFields.decode?_behind hf tail⟩, not_form_append hf htail⟩
  · intro key now nonce c hkey hc
    obtain ⟨⟨f, hf, -⟩, hleaf⟩ := Certificate.build?_spec hkey hc
    refine ⟨fun _ _ => verifyClientCert_ok_iff.2 ⟨f, hf⟩, ?_⟩
    rw [← Leaf.understood_iff, hleaf]
    exact (Leaf.understood_keyParts _).2 (keyForm_publicContent hkey)

theorem reportedBad_by_form_trailed :
    let v : Verifier := ⟨.required⟩
    let key := ServerIdentity.edwards.key.pair
    ∃ c, key.Usable ∧ Certificate.build? key 0 0 = some c ∧ Leaf.Form c.der ∧
      v.verifyClientCert (c.der ++ [0]) [] 0 = .ok () ∧
      ∃ fault, v.verifySignature .v13 [] (c.der ++ [0]) 0x0807 [] = .error fault ∧ fault.toTls.ReportedBad := by
  intro v key
  have hkey : key.Usable := KeyPair.usable_of_ofDer? ServerIdentity.ofDer?_edwards
  obtain ⟨notBefore, hbefore⟩ : ∃ t, CertTime.ofNanos? 0 = some t := ⟨_, rfl⟩
  obtain ⟨notAfter, hafter⟩ : ∃ t, CertTime.ofNanos? (0 + Certificate.validitySeconds * 1000000000) = some t :=
    ⟨_, rfl⟩
  -- A key of this kind signs anything.
  obtain ⟨c, hc⟩ : ∃ c, Certificate.build? key 0 0 = some c :=
    ⟨_, by rw [Certificate.build?, hbefore, hafter]; rfl⟩
  obtain ⟨haccepted, hform⟩ := (reportedBad_by_form v []).2.2.2 key 0 0 c hkey hc
  obtain ⟨htrailed, hbad⟩ := (reportedBad_by_form v c.der).2.2.1 [] 0 [0] (haccepted [] 0) (List.cons_ne_nil _ _)
  have hreported := ((reportedBad_by_form v (c.der ++ [0])).2.1 .v13 [] 0x0807 []).2 ⟨by decide, hbad⟩
  exact ⟨c, hkey, hc, hform, htrailed, hreported⟩

end Verifier
end PairedTls
