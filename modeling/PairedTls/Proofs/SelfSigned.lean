import PairedTls.Certificate.Generate
import PairedTls.Proofs.Calendar
import PairedTls.Proofs.KeyEncoding
import PairedTls.Proofs.LeafForm
import PairedTls.Tls.Leaf

namespace PairedTls

namespace CertTime
variable {t : CertTime}

theorem length_content (h : t.Regular) :
    (digits 2 (t.year % 100) ++ t.clockDigits).length = 13 ∧ (digits 4 t.year ++ t.clockDigits).length = 15 := by
  have hyear := h.year
  rw [digits_four, digits_two (Nat.mod_lt t.year (by omega)), digits_two (by omega : t.year / 100 < 100)]
  simp [length_clockDigits h]

theorem length_encode_le (h : t.Regular) : t.encode.length ≤ 21 := by
  obtain ⟨hshort, hlong⟩ := length_content h
  rw [encode]
  split
  · have hlen := Der.length_write_le (Nat.lt_of_le_of_lt (Nat.le_of_eq hshort) (by decide)) 0x17
    omega
  · have hlen := Der.length_write_le (Nat.lt_of_le_of_lt (Nat.le_of_eq hlong) (by decide)) 0x18
    omega

theorem readTime?_encode (h : t.Regular) (rest : Bytes) : CertFields.readTime? (t.encode ++ rest) = some (t, rest) := by
  obtain ⟨hshort, hlong⟩ := length_content h
  rw [encode]
  split
  · next hyear =>
      have hread := Der.readElement_write (by decide : (0x17 : UInt8).toNat % 32 ≠ 31)
        (Nat.lt_of_le_of_lt (Nat.le_of_eq hshort) (by decide)) rest
      have htime : read? (Der.elementOf 0x17 (digits 2 (t.year % 100) ++ t.clockDigits)) = some t :=
        (if_pos rfl).trans (readShort?_digits h hyear)
      simp [CertFields.readTime?, hread, htime]
  · have hread := Der.readElement_write (by decide : (0x18 : UInt8).toNat % 32 ≠ 31)
      (Nat.lt_of_le_of_lt (Nat.le_of_eq hlong) (by decide)) rest
    have htime : read? (Der.elementOf 0x18 (digits 4 t.year ++ t.clockDigits)) = some t :=
      (if_neg (by decide : ¬24 = Der.Tag.utcTime)).trans ((if_pos rfl).trans (readLong?_digits h))
    simp [CertFields.readTime?, hread, htime]

end CertTime

namespace KeyPair
variable {key : KeyPair}

theorem length_publicContent_le (h : key.Usable) : key.publicContent.length ≤ 2125 :=
  KeyText.length_content_le (publicAlgorithm_text h) (length_publicBits_le h)

def publicKeyInfo (key : KeyPair) : KeyInfo :=
  ⟨key.publicInfo, key.publicAlgorithmId, key.publicBits⟩

theorem publicInfo_text (h : key.Usable) : KeyText key.publicKeyInfo key.publicInfo := by
  rw [publicKeyInfo, publicInfo_eq]
  exact .mk (publicAlgorithm_text h) (length_publicBits_le h)

end KeyPair

namespace Certificate
variable {key : KeyPair} {algorithm : AlgorithmId} {info : KeyInfo} {algorithmText infoText signature : Bytes}
  {notBefore notAfter : CertTime}

def bodyParts (algorithmText infoText : Bytes) (notBefore notAfter : CertTime) : List Bytes :=
  [Der.write (Der.Strict.contextTag 0) (Der.writeNatural 2),
   Der.writeNatural 1,
   Der.write Der.Strict.sequenceTag algorithmText,
   fixedName,
   Der.writeSequence [notBefore.encode, notAfter.encode],
   fixedName,
   infoText]

theorem encodeBody_eq :
    encodeBody key notBefore notAfter =
      Der.writeSequence (bodyParts key.signatureAlgorithm key.publicInfo notBefore notAfter) :=
  rfl

def fixedAttributes : List NameAttribute :=
  [⟨ObjectId.countryName, Der.Tag.utf8Text, Bytes.ofString subjectCountry⟩,
   ⟨ObjectId.organizationName, Der.Tag.utf8Text, Bytes.ofString subjectOrganization⟩,
   ⟨ObjectId.commonName, Der.Tag.utf8Text, Bytes.ofString subjectCommonName⟩]

theorem fixedName_eq : ∃ content, fixedName = Der.write Der.Strict.sequenceTag content ∧ content.length ≤ 120 ∧
    CertFields.readRelativeNames content.length content = fixedAttributes :=
  ⟨_, rfl, by decide, by decide⟩

theorem length_validity_le (hbefore : notBefore.Regular) (hafter : notAfter.Regular) :
    [notBefore.encode, notAfter.encode].flatten.length ≤ 42 := by
  have hb := CertTime.length_encode_le hbefore
  have ha := CertTime.length_encode_le hafter
  simp only [List.flatten_cons, List.flatten_nil, List.append_nil, List.length_append]
  omega

theorem length_fixedName_le : fixedName.length ≤ 126 := by
  decide

theorem length_bodyParts_le (ha : AlgorithmText algorithm algorithmText) (hk : KeyText info infoText)
    (hbefore : notBefore.Regular) (hafter : notAfter.Regular) :
    (bodyParts algorithmText infoText notBefore notAfter).flatten.length ≤ 2600 := by
  have hbound : Der.sizeBound = 4294967296 := rfl
  have halgorithm := ha.length_le
  have hfirst := Der.length_write_le (by omega : algorithmText.length < Der.sizeBound) Der.Strict.sequenceTag
  have hvalid := length_validity_le hbefore hafter
  have hvalidity := Der.length_write_le (Nat.lt_of_le_of_lt hvalid (by decide)) Der.Strict.sequenceTag
  have hversion : (Der.write (Der.Strict.contextTag 0) (Der.writeNatural 2)).length = 5 := rfl
  have hserial : (Der.writeNatural 1).length = 3 := rfl
  have hname := length_fixedName_le
  have hinfo := hk.length_le
  simp only [bodyParts, Der.writeSequence, List.flatten_cons, List.flatten_nil, List.append_nil, List.length_append,
    hversion, hserial] at hvalidity hvalid ⊢
  omega

def signedParts (algorithmText body signature : Bytes) : List Bytes :=
  [body, Der.write Der.Strict.sequenceTag algorithmText, Der.writeBits signature]

theorem length_signedParts_le (ha : AlgorithmText algorithm algorithmText) (hk : KeyText info infoText)
    (hbefore : notBefore.Regular) (hafter : notAfter.Regular) (hsignature : signature.length ≤ 2048) :
    (signedParts algorithmText (Der.writeSequence (bodyParts algorithmText infoText notBefore notAfter))
      signature).flatten.length ≤ 4800 := by
  have hbound : Der.sizeBound = 4294967296 := rfl
  have hparts := length_bodyParts_le ha hk hbefore hafter
  have hbody := Der.length_write_le (Nat.lt_of_le_of_lt hparts (by decide)) Der.Strict.sequenceTag
  have htext := ha.length_le
  have halgorithm := Der.length_write_le (by omega : algorithmText.length < Der.sizeBound) Der.Strict.sequenceTag
  have hbits := Der.length_write_le (by rw [List.length_cons]; omega : (0 :: signature).length < Der.sizeBound)
    Der.Strict.bitStringTag
  simp only [signedParts, Der.writeSequence, Der.writeBits, List.flatten_cons, List.flatten_nil,
    List.append_nil, List.length_append, List.length_cons] at hparts hbody hbits ⊢
  omega

theorem readName?_fixedName (rest : Bytes) :
    CertFields.readName? (fixedName ++ rest) = some (fixedAttributes, rest) := by
  obtain ⟨content, hname, hlen, hread⟩ := fixedName_eq
  have hcontent := Der.readContent_sequence (Nat.lt_of_le_of_lt hlen (by decide)) rest
  rw [hname]
  simp [CertFields.readName?, hcontent, hread]

theorem readVersion?_third (rest : Bytes) :
    CertFields.readVersion? (Der.write (Der.Strict.contextTag 0) (Der.writeNatural 2) ++ rest) = some (2, rest) := by
  have hread := Der.readElement_write (by decide : (Der.Strict.contextTag 0).toNat % 32 ≠ 31)
    (by decide : (Der.writeNatural 2).length < Der.sizeBound) rest
  have hne : Der.write (Der.Strict.contextTag 0) (Der.writeNatural 2) ++ rest ≠ [] := List.cons_ne_nil _ _
  have hnumber : (Der.elementOf (Der.Strict.contextTag 0) (Der.writeNatural 2)).number = 0 := rfl
  have hclass : (Der.elementOf (Der.Strict.contextTag 0) (Der.writeNatural 2)).tagClass = Der.contextClass := rfl
  have htwo : CertFields.smallNumber? (Der.elementOf (Der.Strict.contextTag 0) (Der.writeNatural 2)).content =
      some 2 := by
    decide
  simp [CertFields.readVersion?, hread, hnumber, hclass, htwo, hne]

theorem readSerial?_one (rest : Bytes) :
    CertFields.readSerial? (Der.writeNatural 1 ++ rest) = some (Der.naturalContent 1, rest) := by
  have hread := Der.readNested_write Der.Strict.integerTag_short (by decide)
    (by decide : (Der.naturalContent 1).length < Der.sizeBound) rest
  have hnumber : (Der.elementOf Der.Strict.integerTag (Der.naturalContent 1)).number = Der.Tag.integer := rfl
  simp [CertFields.readSerial?, Der.writeNatural, hread, hnumber]
  rfl

theorem readValidity?_encode (hbefore : notBefore.Regular) (hafter : notAfter.Regular) (rest : Bytes) :
    CertFields.readValidity? (Der.writeSequence [notBefore.encode, notAfter.encode] ++ rest) =
      some ((notBefore, notAfter), rest) := by
  have hread := Der.readContent_sequence (Nat.lt_of_le_of_lt (length_validity_le hbefore hafter) (by decide)) rest
  have hlast := CertTime.readTime?_encode hafter []
  rw [List.append_nil] at hlast
  rw [CertFields.readValidity?, Der.writeSequence, hread]
  simp [CertTime.readTime?_encode hbefore, hlast]

theorem readBody?_bodyParts (ha : AlgorithmText algorithm algorithmText) (hk : KeyText info infoText)
    (hbefore : notBefore.Regular) (hafter : notAfter.Regular) :
    CertFields.readBody? (bodyParts algorithmText infoText notBefore notAfter).flatten =
      some (⟨2, [1], fixedAttributes, (notBefore, notAfter), fixedAttributes, info⟩, []) := by
  have hinfo := hk.read []
  rw [List.append_nil] at hinfo
  have hend : CertFields.skipUniqueId? 1 [] = some [] ∧ CertFields.skipUniqueId? 2 [] = some [] ∧
      CertFields.skipExtensions? [] = some [] := ⟨rfl, rfl, rfl⟩
  simp only [CertFields.readBody?, bodyParts, List.flatten_cons, List.flatten_nil, List.append_nil, readVersion?_third,
    readSerial?_one, ha.read, readName?_fixedName, readValidity?_encode hbefore hafter, hinfo, hend,
    Option.bind_eq_bind, Option.bind_some]
  rfl

/-- What a certificate of this form says about a key, under any algorithm. -/
def madeFields (algorithm : AlgorithmId) (info : KeyInfo) (notBefore notAfter : CertTime) (signed signature : Bytes) :
    CertFields where
  signed := signed
  version := 2
  serial := [1]
  issuer := fixedAttributes
  notBefore := notBefore
  notAfter := notAfter
  subject := fixedAttributes
  keyInfo := info
  signatureAlgorithm := algorithm
  signature := signature

theorem decode?_signedParts (ha : AlgorithmText algorithm algorithmText) (hk : KeyText info infoText)
    (hbefore : notBefore.Regular) (hafter : notAfter.Regular) (hsignature : signature.length ≤ 2048) :
    let body := Der.writeSequence (bodyParts algorithmText infoText notBefore notAfter)
    CertFields.decode? (Der.writeSequence (signedParts algorithmText body signature)) =
      some (madeFields algorithm info notBefore notAfter body signature) := by
  intro body
  have houter := Der.readContent_sequence
    (Nat.lt_of_le_of_lt (length_signedParts_le ha hk hbefore hafter hsignature) (by decide)) []
  rw [List.append_nil] at houter
  have hinner := Der.readContent_sequence (Nat.lt_of_le_of_lt (length_bodyParts_le ha hk hbefore hafter) (by decide))
    (Der.write Der.Strict.sequenceTag algorithmText ++ Der.writeBits signature)
  have hbits := CertFields.readBits?_write hsignature []
  rw [List.append_nil] at hbits
  have hparts : (signedParts algorithmText body signature).flatten =
      Der.write Der.Strict.sequenceTag (bodyParts algorithmText infoText notBefore notAfter).flatten ++
        (Der.write Der.Strict.sequenceTag algorithmText ++ Der.writeBits signature) := by
    simp [signedParts, body, Der.writeSequence]
  rw [CertFields.decode?, Der.writeSequence, houter, hparts]
  simp [hinner, readBody?_bodyParts ha hk hbefore hafter, ha.read, hbits, Der.consumed_append, madeFields, body,
    Der.writeSequence]

theorem decode?_encodeSigned (h : key.Usable) (hbefore : notBefore.Regular) (hafter : notAfter.Regular)
    (hsignature : signature.length ≤ 2048) :
    CertFields.decode? (encodeSigned key (encodeBody key notBefore notAfter) signature) =
      some (madeFields key.signatureAlgorithmId key.publicKeyInfo notBefore notAfter (encodeBody key notBefore notAfter)
        signature) :=
  decode?_signedParts (KeyPair.signatureAlgorithm_text key) (KeyPair.publicInfo_text h) hbefore hafter hsignature

theorem readBody_bodyParts (h : key.Usable) (hbefore : notBefore.Regular) (hafter : notAfter.Regular) :
    Leaf.readBody key.signatureAlgorithm
        (bodyParts key.signatureAlgorithm key.publicInfo notBefore notAfter).flatten =
      .ok ⟨key.publicContent⟩ := by
  have hlimit : Leaf.sizeLimit = 65535 := rfl
  have htext := (KeyPair.signatureAlgorithm_text key).length_le
  have hsequence : ∀ {content : Bytes}, content.length < Leaf.sizeLimit → ∀ rest,
      Leaf.readLimited Der.Strict.sequenceTag (Der.write Der.Strict.sequenceTag content ++ rest) =
        .ok (content, rest) :=
    fun hcontent => Leaf.readLimited_write Der.Strict.sequenceTag_short hcontent
  have hversion : ∀ rest, Leaf.readVersion (Der.write (Der.Strict.contextTag 0) (Der.writeNatural 2) ++ rest) =
      .ok rest := by
    intro rest
    have htwo : Der.Strict.readNatural (Der.writeNatural 2) = some (2, []) := by decide
    rw [Leaf.readVersion, Leaf.readLimited_write (by decide) (by decide)]
    simp [htwo]
  have hserial : ∀ rest, Leaf.readLimited Der.Strict.integerTag (Der.writeNatural 1 ++ rest) =
      .ok (Der.naturalContent 1, rest) :=
    Leaf.readLimited_write Der.Strict.integerTag_short (by decide)
  obtain ⟨name, hname, hnamelen, -⟩ := fixedName_eq
  have hvalid := length_validity_le hbefore hafter
  have hinfo := KeyPair.length_publicContent_le h
  have hlast := hsequence (Nat.lt_of_le_of_lt hinfo (by decide)) []
  rw [List.append_nil] at hlast
  simp only [bodyParts, Der.writeSequence, KeyPair.publicInfo_eq, hname] at hvalid hlast ⊢
  generalize [notBefore.encode, notAfter.encode].flatten = validity at hvalid ⊢
  simp only [List.flatten_cons, List.flatten_nil, List.append_nil]
  simp only [Leaf.readBody, bind, Except.bind, hversion, hserial,
    hsequence (by omega : key.signatureAlgorithm.length < Leaf.sizeLimit),
    hsequence (by omega : name.length < Leaf.sizeLimit),
    hsequence (by omega : validity.length < Leaf.sizeLimit), hlast, ne_eq, not_true_eq_false, if_false]
  rfl

theorem ofDer_encodeSigned (h : key.Usable) (hbefore : notBefore.Regular) (hafter : notAfter.Regular)
    (hsignature : signature.length ≤ 2048) :
    Leaf.ofDer (encodeSigned key (encodeBody key notBefore notAfter) signature) =
      .ok ⟨key.publicContent⟩ := by
  have hlimit : Leaf.sizeLimit = 65535 := rfl
  have ha := KeyPair.signatureAlgorithm_text key
  have htext := ha.length_le
  have hsigned := length_signedParts_le ha (KeyPair.publicInfo_text h) hbefore hafter hsignature
  have hbody := length_bodyParts_le ha (KeyPair.publicInfo_text h) hbefore hafter
  have hfits : (signedParts key.signatureAlgorithm (encodeBody key notBefore notAfter)
      signature).flatten.length < Leaf.sizeLimit := by
    rw [encodeBody_eq]
    omega
  have houter := Leaf.readWhole_write Der.Strict.sequenceTag_short hfits
  have hbits : Leaf.wholeBits (Der.writeBits signature) = .ok signature := by
    have hwhole := Leaf.readWhole_write Der.Strict.bitStringTag_short
      (by rw [List.length_cons]; omega : (0 :: signature).length < Leaf.sizeLimit)
    rw [Leaf.wholeBits, Der.writeBits, hwhole]
    rfl
  have hparts : (bodyParts key.signatureAlgorithm key.publicInfo notBefore notAfter).flatten.length <
      Leaf.sizeLimit := by
    omega
  have hinner := Leaf.readLimited_write Der.Strict.sequenceTag_short hparts
  have halgorithm := Leaf.readLimited_write Der.Strict.sequenceTag_short
    (by omega : key.signatureAlgorithm.length < Leaf.sizeLimit)
  change Leaf.ofDer (Der.write Der.Strict.sequenceTag
    (signedParts key.signatureAlgorithm (encodeBody key notBefore notAfter) signature).flatten) = _
  rw [Leaf.ofDer, houter]
  refine Eq.trans ?_ (readBody_bodyParts h hbefore hafter)
  simp only [signedParts, encodeBody_eq, Der.writeSequence, List.flatten_cons, List.flatten_nil, List.append_nil, bind,
    Except.bind, hinner, halgorithm, hbits]

theorem build?_eq_some (h : key.Usable) {now : Int} {nonce : Nat} {c : Certificate}
    (hc : build? key now nonce = some c) :
    ∃ notBefore notAfter signature, CertTime.ofNanos? now = some notBefore ∧
      CertTime.ofNanos? (now + validitySeconds * 1000000000) = some notAfter ∧
      key.sign? nonce (encodeBody key notBefore notAfter) = some signature ∧
      CertFields.decode? c.der = some (madeFields key.signatureAlgorithmId key.publicKeyInfo notBefore notAfter
        (encodeBody key notBefore notAfter) signature) ∧
      Leaf.ofDer c.der = .ok ⟨key.publicContent⟩ := by
  obtain ⟨notBefore, hbefore, hc⟩ := Option.bind_eq_some_iff.1 hc
  obtain ⟨notAfter, hafter, hc⟩ := Option.bind_eq_some_iff.1 hc
  obtain ⟨signature, hsign, hc⟩ := Option.bind_eq_some_iff.1 hc
  obtain rfl := Option.some.inj hc
  have hsize := KeyPair.length_sign?_le h hsign
  have hstart := CertTime.ofNanos?_regular hbefore
  have hend := CertTime.ofNanos?_regular hafter
  exact ⟨notBefore, notAfter, signature, hbefore, hafter, hsign, decode?_encodeSigned h hstart hend hsize,
    ofDer_encodeSigned h hstart hend hsize⟩

theorem build?_spec (h : key.Usable) {now : Int} {nonce : Nat} {c : Certificate} (hc : build? key now nonce = some c) :
    (∃ f, CertFields.decode? c.der = some f ∧ f.keyInfo.raw = key.publicInfo) ∧
      Leaf.ofDer c.der = .ok ⟨key.publicContent⟩ := by
  obtain ⟨_, _, _, _, _, _, hdecode, hleaf⟩ := build?_eq_some h hc
  exact ⟨⟨_, hdecode, rfl⟩, hleaf⟩

end Certificate
end PairedTls
