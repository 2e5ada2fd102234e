import PairedTls.Proofs.MadeCertificate
import PairedTls.Proofs.UnsignedNumbers

namespace PairedTls

namespace Rsa.PublicKey
variable {k : PublicKey} {bs : Bytes}

theorem length_infoParts_lt (h : k.usable = true) :
    [Der.write Der.Strict.sequenceTag algorithm, Der.writeBits k.encode].flatten.length < Der.sizeBound := by
  have hbound : Der.sizeBound = 4294967296 := rfl
  have hencode := length_encode_le h
  have hbits := Der.length_write_le (Nat.lt_of_le_of_lt (Nat.succ_le_succ hencode) (by decide) :
    (0 :: k.encode).length < Der.sizeBound) Der.Strict.bitStringTag
  have halgorithm : (Der.write Der.Strict.sequenceTag algorithm).length = 15 := rfl
  simp only [List.flatten_cons, List.flatten_nil, List.append_nil, List.length_append, Der.writeBits, List.length_cons]
    at hbits ⊢
  omega

theorem decodePlain?_eq_some (h : decodePlain? bs = some k) : bs = k.encode := by
  obtain ⟨body, hbody, h⟩ := Option.bind_eq_some_iff.1 h
  obtain ⟨⟨modulus, more⟩, hmodulus, h⟩ := Option.bind_eq_some_iff.1 h
  obtain ⟨⟨exponent, rest⟩, hexponent, h⟩ := Option.bind_eq_some_iff.1 h
  obtain ⟨hrest, h⟩ := Option.ite_none_right_eq_some.1 h
  obtain rfl := Option.some.inj h
  rw [Der.Strict.readOnly_eq_some hbody, Der.Strict.readNatural_eq_some hmodulus, Der.Strict.readNatural_eq_some hexponent,
    List.isEmpty_iff.1 hrest]
  simp [encode, Der.writeSequence]

theorem decodeInfo?_eq_some (h : decodeInfo? bs = some k) : bs = k.info := by
  obtain ⟨body, hbody, h⟩ := Option.bind_eq_some_iff.1 h
  obtain ⟨⟨declared, more⟩, hdeclared, h⟩ := Option.bind_eq_some_iff.1 h
  obtain ⟨⟨bits, rest⟩, hbits, h⟩ := Option.bind_eq_some_iff.1 h
  obtain ⟨⟨rfl, hrest⟩, hplain⟩ := Option.ite_none_right_eq_some.1 h
  rw [Der.Strict.readOnly_eq_some hbody, (Der.Strict.read_eq_some hdeclared).2, Der.Strict.readBits_eq_some hbits,
    List.isEmpty_iff.1 hrest, decodePlain?_eq_some hplain]
  simp [info, Der.writeSequence]

theorem decode?_eq_some (h : decode? bs = some k) : bs = k.encode ∨ bs = k.info := by
  rcases Option.or_eq_some_iff.1 h with hinfo | ⟨_, hplain⟩
  · exact .inr (decodeInfo?_eq_some hinfo)
  · exact .inl (decodePlain?_eq_some hplain)

theorem usable_of_verifies {h : Hash} {message signature : Bytes} (hv : verifies k h message signature = true) :
    k.usable = true := by
  rw [verifies] at hv
  split at hv
  · exact (Bool.and_eq_true_iff.1 hv).1
  · cases hv

theorem decode?_encode (h : k.usable = true) : decode? k.encode = some k := by
  obtain ⟨hmodulus, hexponent⟩ := width_le h
  have hbody : Der.Strict.readOnly Der.Strict.sequenceTag k.encode =
      some (Der.writeNatural k.modulus ++ Der.writeNatural k.exponent) := by
    rw [encode, Der.writeSequence, Der.Strict.readOnly_write Der.Strict.sequenceTag_short (length_numbers_lt h)]
    simp
  have hfirst : Der.Strict.readNatural (Der.writeNatural k.modulus ++ Der.writeNatural k.exponent) =
      some (k.modulus, Der.writeNatural k.exponent) :=
    Der.Strict.readNatural_writeNatural (Nat.lt_of_le_of_lt (Nat.succ_le_succ hmodulus) (by decide)) _
  have hsecond := Der.Strict.readNatural_writeNatural (Nat.lt_of_le_of_lt (Nat.succ_le_succ hexponent) (by decide) :
    Bytes.widthOf k.exponent + 1 < Der.sizeBound) []
  rw [List.append_nil] at hsecond
  have hnot : Der.Strict.read Der.Strict.sequenceTag (Der.writeNatural k.modulus ++ Der.writeNatural k.exponent) =
      none :=
    Der.Strict.read_write_ne Der.Strict.integerTag_short (by decide)
      (Nat.lt_of_le_of_lt (Der.Strict.length_naturalContent_le _)
        (Nat.lt_of_le_of_lt (Nat.succ_le_succ hmodulus) (by decide))) _
  have hinfo : decodeInfo? k.encode = none := by
    rw [decodeInfo?, hbody]
    simp [hnot]
  rw [decode?, hinfo, decodePlain?, hbody]
  simp [hfirst, hsecond]

/-- A signature has been opened before it is handed out. -/
theorem verifies_of_sign? {key : PrivateKey} (h : key.usable = true) {hash : Hash} {message signature : Bytes}
    (hsign : key.sign? hash message = some signature) : verifies key.publicKey hash message signature = true := by
  have hpublic := PrivateKey.publicKey_usable h
  obtain ⟨encoded, hpadded, hsign⟩ := Option.bind_eq_some_iff.1 hsign
  obtain ⟨hrecovered, hsignature⟩ := Option.ite_none_right_eq_some.1 hsign
  obtain rfl := Option.some.inj hsignature
  simp only [verifies, hrecovered, hpadded, hpublic, beq_self_eq_true, Bool.and_self]

theorem exponent_lt (h : k.usable = true) : k.exponent < 2 ^ 64 := by
  simp only [usable, exponentOk, Bool.and_eq_true, decide_eq_true_eq] at h
  exact Nat.lt_of_lt_of_le (lt_of_bitLength h.2.2) (by decide)

end Rsa.PublicKey

namespace HeldKey
open Rsa

variable {k : PublicKey} {info : KeyInfo}

theorem integer?_writeNatural {n : Nat} (h : Bytes.widthOf n ≤ 2048) (rest : Bytes) :
    integer? (Der.writeNatural n ++ rest) = some (Der.naturalContent n, rest) := by
  have hlength : (Der.naturalContent n).length < Der.sizeBound :=
    Nat.lt_of_le_of_lt (Der.Strict.length_naturalContent_le n)
      (Nat.lt_of_le_of_lt (Nat.succ_le_succ h) (by decide))
  have hread : Der.readPrimitive Der.Tag.integer (Der.writeNatural n ++ rest) = some (Der.naturalContent n, rest) :=
    Der.readPrimitive_write (by decide) (by decide) hlength rest
  have hnatural := Der.Strict.natural_naturalContent n
  simp only [integer?, hread, Option.bind_eq_bind, Option.bind_some]
  split
  · next hcontent => rw [hcontent] at hnatural; cases hnatural
  · next hcontent => rw [hcontent] at hnatural; cases hnatural
  · rfl

theorem integer?_sequence {content : Bytes} (h : content.length < Der.sizeBound) (rest : Bytes) :
    integer? (Der.write Der.Strict.sequenceTag content ++ rest) = none := by
  have hread := Der.readTagged_write_ne Der.Strict.sequenceTag_short
    (by decide : Der.Strict.sequenceTag.toNat % 32 ≠ Der.Tag.integer) h rest
  rw [integer?, Der.readPrimitive, hread]
  rfl

theorem ofInfo?_encode (h : k.usable = true) (hid : info.algorithm.id = ObjectId.rsaEncryption)
    (hkey : info.key = k.encode) :
    ofInfo? info = some (.rsa (Der.naturalContent k.modulus) (Der.naturalContent k.exponent)) := by
  obtain ⟨hmodulus, hexponent⟩ := PublicKey.width_le h
  have hbody := Der.readContent_sequence (PublicKey.length_numbers_lt h) []
  rw [List.append_nil] at hbody
  have hfirst := integer?_writeNatural (hmodulus.trans (by decide)) (Der.writeNatural k.exponent)
  have hsecond := integer?_writeNatural (hexponent.trans (by decide)) []
  rw [List.append_nil] at hsecond
  rw [ofInfo?, if_pos hid, hkey, PublicKey.encode, Der.writeSequence, hbody]
  simp [hfirst, hsecond]

theorem ofInfo?_info (h : k.usable = true) (hid : info.algorithm.id = ObjectId.rsaEncryption)
    (hkey : info.key = k.info) : ofInfo? info = none := by
  have hbody := Der.readContent_sequence (PublicKey.length_infoParts_lt h) []
  rw [List.append_nil] at hbody
  have hfirst := integer?_sequence (by decide : PublicKey.algorithm.length < Der.sizeBound)
    (Der.writeBits k.encode)
  rw [ofInfo?, if_pos hid, hkey, PublicKey.info, Der.writeSequence, hbody]
  simp [hfirst]

/-- The kinds of key other than RSA of which the tolerant reader opens the key. -/
def Opened (id : ObjectId.Id) : Prop :=
  id = ObjectId.dsa ∨ id = ObjectId.gost2001 ∨ id = ObjectId.gost2012Short ∨ id = ObjectId.gost2012Long

instance (id : ObjectId.Id) : Decidable (Opened id) :=
  inferInstanceAs (Decidable (_ ∨ _))

theorem ofInfo?_other {content : Bytes} (h : content.length < Der.sizeBound)
    (hid : info.algorithm.id ≠ ObjectId.rsaEncryption) (hkey : info.key = Der.write Der.Strict.sequenceTag content) :
    ofInfo? info = if Opened info.algorithm.id then none else some .notRsa := by
  have hinteger := integer?_sequence h []
  have hoctets := Der.readTagged_write_ne Der.Strict.sequenceTag_short
    (by decide : Der.Strict.sequenceTag.toNat % 32 ≠ Der.Tag.octetString) h []
  rw [List.append_nil, ← hkey] at hinteger hoctets
  rw [ofInfo?, if_neg hid]
  by_cases hdsa : info.algorithm.id = ObjectId.dsa
  · rw [if_pos hdsa, if_pos (.inl hdsa), hinteger]
    rfl
  · rw [if_neg hdsa]
    by_cases hgost : info.algorithm.id = ObjectId.gost2001 ∨ info.algorithm.id = ObjectId.gost2012Short ∨
        info.algorithm.id = ObjectId.gost2012Long
    · rw [if_pos hgost, if_pos (.inr hgost), hoctets]
      rfl
    · have hopened : ¬Opened info.algorithm.id := not_or.2 ⟨hdsa, hgost⟩
      rw [if_neg hgost, if_neg hopened]
      rfl

theorem ofInfo?_of_decode? (h : PublicKey.decode? info.key = some k) (hk : k.usable = true) :
    ofInfo? info =
      if info.algorithm.id = ObjectId.rsaEncryption then
        if info.key = k.encode then some (.rsa (Der.naturalContent k.modulus) (Der.naturalContent k.exponent))
        else none
      else if Opened info.algorithm.id then none else some .notRsa := by
  have hspelled := PublicKey.decode?_eq_some h
  by_cases hid : info.algorithm.id = ObjectId.rsaEncryption
  · rw [if_pos hid]
    by_cases hkey : info.key = k.encode
    · rw [if_pos hkey, ofInfo?_encode hk hid hkey]
    · rw [if_neg hkey, ofInfo?_info hk hid (hspelled.resolve_left hkey)]
  · rw [if_neg hid]
    rcases hspelled with hkey | hkey
    · exact ofInfo?_other (PublicKey.length_numbers_lt hk) hid hkey
    · exact ofInfo?_other (PublicKey.length_infoParts_lt hk) hid hkey

end HeldKey

namespace Certificate
open Rsa

variable {c : Certificate} {f : CertFields} {k : PublicKey}

theorem fields_of_decode? (h : CertFields.decode? c.der = some f) : c.fields = .ok f := by
  rw [fields, h]

theorem verifySelfSignature_ok_iff :
    c.verifySelfSignature = .ok () ↔
      ∃ f k, c.fields = .ok f ∧ f.signatureAlgorithm.id = ObjectId.sha256WithRsa ∧
        PublicKey.decode? f.keyInfo.key = some k ∧ verifies k .sha256 f.signed f.signature = true := by
  rw [verifySelfSignature]
  cases hfields : c.fields with
  | error e => exact iff_of_false nofun (fun ⟨_, _, hok, _⟩ => nomatch hok)
  | ok f =>
      simp only [bind, Except.bind, Except.ok.injEq, exists_eq_left', exists_and_left]
      by_cases hid : f.signatureAlgorithm.id = ObjectId.sha256WithRsa
      · cases hkey : PublicKey.decode? f.keyInfo.key with
        | none => simp [hid]
        | some k => simp [hid]
      · simp [hid]

theorem rsaParameters_of_ofInfo? (hfields : c.fields = .ok f) (hk : k.usable = true)
    (h : HeldKey.ofInfo? f.keyInfo =
      some (.rsa (Der.naturalContent k.modulus) (Der.naturalContent k.exponent))) :
    c.rsaParameters = .ok ⟨bitLength k.modulus, k.exponent⟩ := by
  have hexponent := PublicKey.exponent_lt hk
  have hvalue : (UInt64.ofNat k.exponent).toNat = k.exponent := by
    rw [UInt64.toNat_ofNat', Nat.mod_eq_of_lt hexponent]
  simp only [rsaParameters, hfields, bind, Except.bind, h]
  rw [exponentValue_eq, Der.Strict.toNat_naturalContent, if_pos hexponent, unsignedBitLength_eq,
    Der.Strict.toNat_naturalContent]
  exact congrArg (fun e => Except.ok (RsaParameters.mk (bitLength k.modulus) e)) hvalue

/-- A certificate whose own signature verifies holds an RSA key of a usable size, but `rsaParameters` shows that key only
where the certificate declares it as one and holds it bare. -/
theorem rsaParameters_of_verified (h : c.verifySelfSignature = .ok ()) :
    ∃ f k, c.fields = .ok f ∧ f.signatureAlgorithm.id = ObjectId.sha256WithRsa ∧
      PublicKey.decode? f.keyInfo.key = some k ∧ verifies k .sha256 f.signed f.signature = true ∧
      2048 ≤ bitLength k.modulus ∧ bitLength k.modulus ≤ 8192 ∧
      c.rsaParameters =
        if f.keyInfo.algorithm.id = ObjectId.rsaEncryption then
          if f.keyInfo.key = k.encode then .ok ⟨bitLength k.modulus, k.exponent⟩ else .error .publicKey
        else if HeldKey.Opened f.keyInfo.algorithm.id then .error .publicKey
        else .error .notRsa := by
  obtain ⟨f, k, hfields, hid, hkey, hverifies⟩ := verifySelfSignature_ok_iff.1 h
  have hk := PublicKey.usable_of_verifies hverifies
  have hsize : 2048 ≤ bitLength k.modulus ∧ bitLength k.modulus ≤ 8192 := by
    simp only [PublicKey.usable, Bool.and_eq_true, decide_eq_true_eq] at hk
    exact ⟨hk.1.1.1, hk.1.1.2⟩
  have hheld := HeldKey.ofInfo?_of_decode? hkey hk
  refine ⟨f, k, hfields, hid, hkey, hverifies, hsize.1, hsize.2, ?_⟩
  split_ifs at hheld ⊢
  · exact rsaParameters_of_ofInfo? hfields hk hheld
  all_goals simp [rsaParameters, hfields, bind, Except.bind, hheld]

def misdeclaredInfo (key : PrivateKey) : KeyInfo where
  raw := Der.write Der.Strict.sequenceTag
    (Der.write Der.Strict.sequenceTag (Ecdsa.PrivateKey.algorithm Ecdsa.p256) ++ Der.writeBits key.publicKey.encode)
  algorithm := ⟨ObjectId.ecPublicKey, some (Der.writeObjectId Ecdsa.p256.id)⟩
  key := key.publicKey.encode

def misdeclaredBody (key : PrivateKey) : Bytes :=
  let day : CertTime := ⟨2000, 1, 1, 0, 0, 0, 0, 0⟩
  Der.writeSequence (bodyParts (KeyPair.rsa key).signatureAlgorithm (misdeclaredInfo key).raw day day)

def misdeclared (key : PrivateKey) (signature : Bytes) : Certificate :=
  ⟨Der.writeSequence (signedParts (KeyPair.rsa key).signatureAlgorithm (misdeclaredBody key) signature)⟩

variable {key : PrivateKey} {signature : Bytes}

theorem fields_misdeclared (h : key.usable = true)
    (hsign : key.sign? .sha256 (misdeclaredBody key) = some signature) :
    ∃ f, (misdeclared key signature).fields = .ok f ∧ f.signed = misdeclaredBody key ∧ f.signature = signature ∧
      f.signatureAlgorithm.id = ObjectId.sha256WithRsa ∧ f.keyInfo = misdeclaredInfo key := by
  have hcurve : AlgorithmText (misdeclaredInfo key).algorithm (Ecdsa.PrivateKey.algorithm Ecdsa.p256) :=
    .followed (by decide) (by decide) (by decide)
  have hencode := PublicKey.length_encode_le (PrivateKey.publicKey_usable h)
  have hkey : KeyText (misdeclaredInfo key) (misdeclaredInfo key).raw := .mk hcurve (hencode.trans (by decide))
  have hlength := (PrivateKey.length_sign?_le h hsign).trans (by decide : 1024 ≤ 2048)
  have hdecode := decode?_signedParts (KeyPair.signatureAlgorithm_text (.rsa key)) hkey regular_firstDay
    regular_firstDay hlength
  exact ⟨_, fields_of_decode? hdecode, rfl, rfl, rfl, rfl⟩

theorem verifySelfSignature_misdeclared (h : key.usable = true)
    (hsign : key.sign? .sha256 (misdeclaredBody key) = some signature) :
    (misdeclared key signature).verifySelfSignature = .ok () := by
  obtain ⟨f, hfields, hsigned, hsignature, hid, hinfo⟩ := fields_misdeclared h hsign
  refine verifySelfSignature_ok_iff.2 ⟨f, key.publicKey, hfields, hid, ?_, ?_⟩
  · rw [hinfo]
    exact PublicKey.decode?_encode (PrivateKey.publicKey_usable h)
  · rw [hsigned, hsignature]
    exact PublicKey.verifies_of_sign? h hsign

/-- A key of the full size from two primes that need no search. -/
def fixedKey? : Option PrivateKey :=
  PrivateKey.ofPrimes? (2 ^ 1024 - 105) (2 ^ 1024 - 179) 65537

theorem rsaParameters_of_verified_curve :
    ∃ (c : Certificate) (f : CertFields), c.verifySelfSignature = .ok () ∧ c.fields = .ok f ∧
      f.keyInfo.algorithm.id = ObjectId.ecPublicKey ∧ c.rsaParameters = .error .notRsa := by
  have hsigns : (fixedKey?.bind fun key => key.sign? .sha256 (misdeclaredBody key)).isSome = true := by decide +kernel
  obtain ⟨signature, hsigns⟩ := Option.isSome_iff_exists.1 hsigns
  obtain ⟨key, hkey, hsign⟩ := Option.bind_eq_some_iff.1 hsigns
  have husable : key.usable = true := ServerKey.usable_of_ofPrimes? hkey
  obtain ⟨f, hfields, -, -, -, hinfo⟩ := fields_misdeclared husable hsign
  have hverified := verifySelfSignature_misdeclared husable hsign
  have hid : f.keyInfo.algorithm.id = ObjectId.ecPublicKey := by rw [hinfo]; rfl
  refine ⟨misdeclared key signature, f, hverified, hfields, hid, ?_⟩
  obtain ⟨f', k, hfields', -, -, -, -, -, hparameters⟩ := rsaParameters_of_verified hverified
  obtain rfl : f = f' := Except.ok.inj (hfields.symm.trans hfields')
  rw [hparameters, hid]
  rfl

end Certificate
end PairedTls
