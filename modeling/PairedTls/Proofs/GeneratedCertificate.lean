import PairedTls.Proofs.HeldKeys

namespace PairedTls

namespace CertTime

theorem unix_ofNanos? {nanos : Int} {t : CertTime} (h : ofNanos? nanos = some t) :
    t.unix = nanos.fdiv 1000000000 ∧ t.millis = 0 :=
  ⟨unix_ofUnix? h, (ofNanos?_regular h).millis⟩

theorem unix_ofNanos?_add {nanos seconds : Int} {t t' : CertTime} (h : ofNanos? nanos = some t)
    (h' : ofNanos? (nanos + seconds * 1000000000) = some t') : t'.unix = t.unix + seconds := by
  rw [(unix_ofNanos? h).1, (unix_ofNanos? h').1, Int.add_mul_fdiv_right _ _ (by decide)]

end CertTime

namespace SubjectName

theorem ofAttributes_fixed :
    ofAttributes Certificate.fixedAttributes = ⟨some "IT", some "GamesOnWhales", some "localhost"⟩ := by
  decide +kernel

end SubjectName

namespace Certificate
open Act Rsa

variable {key : ServerKey} {c : Certificate} {w w' : World}

theorem fields_generate (hkey : key.Made) (h : exec (generate key) w = (.ok c, w')) :
    ∃ notBefore notAfter signature nonce, CertTime.ofNanos? w.now = some notBefore ∧
      CertTime.ofNanos? (w.now + validitySeconds * 1000000000) = some notAfter ∧
      key.pair.sign? nonce (encodeBody key.pair notBefore notAfter) = some signature ∧
      c.fields = .ok (madeFields key.pair.signatureAlgorithmId key.pair.publicKeyInfo notBefore notAfter
        (encodeBody key.pair notBefore notAfter) signature) := by
  obtain ⟨nonce, _, hbuild, _⟩ := generate_ok h
  obtain ⟨notBefore, notAfter, signature, hbefore, hafter, hsign, hdecode, _⟩ := build?_eq_some hkey.usable hbuild
  exact ⟨notBefore, notAfter, signature, nonce, hbefore, hafter, hsign, fields_of_decode? hdecode⟩

theorem verified_of_rsa {k : PrivateKey} {f : CertFields} {nonce : Nat} (hfields : c.fields = .ok f)
    (hk : k.usable = true) (hid : f.signatureAlgorithm = (KeyPair.rsa k).signatureAlgorithmId)
    (hinfo : f.keyInfo = (KeyPair.rsa k).publicKeyInfo)
    (hsign : (KeyPair.rsa k).sign? nonce f.signed = some f.signature) :
    c.verifySelfSignature = .ok () ∧ c.rsaParameters = .ok ⟨bitLength k.modulus, k.publicExponent⟩ := by
  have hpublic := PrivateKey.publicKey_usable hk
  constructor
  · refine verifySelfSignature_ok_iff.2 ⟨f, k.publicKey, hfields, ?_, ?_, PublicKey.verifies_of_sign? hk hsign⟩
    · rw [hid]
      rfl
    · rw [hinfo]
      exact PublicKey.decode?_encode hpublic
  · refine rsaParameters_of_ofInfo? hfields hpublic ?_
    rw [hinfo]
    exact HeldKey.ofInfo?_encode hpublic rfl rfl

/-- A certificate is made of a key that was read or made by this library, at any moment for which it can be made. Its end
is twenty years behind its start to the second, whichever way the two are written. -/
theorem generate_fields (hkey : key.Made) (h : exec (generate key) w = (.ok c, w')) :
    ofDer c.der = .ok c ∧
      c.subject = .ok ⟨some "IT", some "GamesOnWhales", some "localhost"⟩ ∧ c.issuer = c.subject ∧
      c.serial = .ok [1] ∧ c.isV3 = .ok true ∧
      (∃ notBefore notAfter, c.notBefore = .ok notBefore ∧ c.notAfter = .ok notAfter ∧
        notBefore.unix = w.now.fdiv 1000000000 ∧ notAfter.unix = notBefore.unix + validitySeconds ∧
        notBefore.millis = 0 ∧ notAfter.millis = 0) ∧
      c.publicKeyPem = .ok (Pem.block Pem.publicKeyLabel key.pair.publicInfo) ∧
      (c.verifySelfSignature = .ok () ↔ key.isRsa = true) ∧
      ∀ k, key.pair = .rsa k → c.rsaParameters = .ok ⟨bitLength k.modulus, k.publicExponent⟩ := by
  obtain ⟨notBefore, notAfter, signature, nonce, hbefore, hafter, hsign, hfields⟩ := fields_generate hkey h
  have hder : ofDer c.der = .ok c := Made.ofDer_der (.generated hkey h)
  have hrsa : ∀ k, key.pair = .rsa k →
      c.verifySelfSignature = .ok () ∧ c.rsaParameters = .ok ⟨bitLength k.modulus, k.publicExponent⟩ := by
    intro k hpair
    have husable : KeyPair.Usable (.rsa k) := hpair ▸ hkey.usable
    rw [hpair] at hsign hfields
    exact verified_of_rsa hfields husable rfl rfl hsign
  have hvouches : c.verifySelfSignature = .ok () ↔ key.isRsa = true := by
    constructor
    · intro hverified
      obtain ⟨f, _, hf, hid, -⟩ := verifySelfSignature_ok_iff.1 hverified
      obtain rfl := Except.ok.inj (hfields.symm.trans hf)
      exact (KeyPair.signatureAlgorithmId_rsa key.pair).1 hid
    · intro hisRsa
      cases hpair : key.pair with
      | rsa k => exact (hrsa k hpair).1
      | ecdsa _ | ed25519 _ =>
          rw [ServerKey.isRsa, hpair] at hisRsa
          cases hisRsa
  obtain ⟨hstart, hwhole⟩ := CertTime.unix_ofNanos? hbefore
  have hend := CertTime.unix_ofNanos?_add hbefore hafter
  refine ⟨hder, ?_, ?_, ?_, ?_, ⟨notBefore, notAfter, ?_, ?_, hstart, hend, hwhole, (CertTime.unix_ofNanos? hafter).2⟩,
    ?_, hvouches, fun k hpair => (hrsa k hpair).2⟩
  · rw [subject, hfields, ← SubjectName.ofAttributes_fixed]
    rfl
  · rw [issuer, subject, hfields]
    rfl
  all_goals
    simp only [serial, isV3, Certificate.notBefore, Certificate.notAfter, publicKeyPem, hfields]
    rfl

/-- Half a second past the start of a day in 2030, so that the twenty years end after the change to four-digit years. -/
def springStart : World :=
  ⟨.emptyAt [], 1906502400500000000, [], [], []⟩

theorem generate_fields_spring :
    ∃ (key : ServerKey) (c : Certificate) (w' : World) (notBefore notAfter : CertTime),
      key.Made ∧ exec (generate key) springStart = (.ok c, w') ∧ c.verifySelfSignature = .ok () ∧
        c.notBefore = .ok notBefore ∧ notBefore.unix = 1906502400 ∧
        c.notAfter = .ok notAfter ∧ notAfter.unix = 2537222400 := by
  have hbuilds : (fixedKey?.bind fun k =>
      build? (ServerKey.ofRsa k).pair springStart.now 1).isSome = true := by decide +kernel
  obtain ⟨c, hbuilds⟩ := Option.isSome_iff_exists.1 hbuilds
  obtain ⟨k, hk, hbuild⟩ := Option.bind_eq_some_iff.1 hbuilds
  have hkey : (ServerKey.ofRsa k).Made :=
    .fromDer (ServerKey.ofDer?_ofRsa (ServerKey.usable_of_ofPrimes? hk))
  have hexec : exec (generate (ServerKey.ofRsa k)) springStart = (.ok c, springStart) := by
    have hnonce : drawNonce (ServerKey.ofRsa k).pair springStart.randoms = (1, springStart.randoms) := if_pos rfl
    rw [exec_generate, hnonce, hbuild]
  obtain ⟨-, -, -, -, -, ⟨notBefore, notAfter, hbefore, hafter, hstart, hend, -⟩, -, hvouches, -⟩ :=
    generate_fields hkey hexec
  have hnow : springStart.now.fdiv 1000000000 = 1906502400 := by decide
  rw [hnow] at hstart
  rw [hstart] at hend
  exact ⟨ServerKey.ofRsa k, c, springStart, notBefore, notAfter, hkey, hexec, hvouches.2 rfl, hbefore, hstart, hafter,
    hend⟩

end Certificate
end PairedTls
