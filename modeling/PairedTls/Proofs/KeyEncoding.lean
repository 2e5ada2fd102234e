import PairedTls.Identity.ServerKey
import PairedTls.Proofs.DerReading

namespace PairedTls

/-- How an algorithm is written: an object identifier, alone or with one element behind it. -/
inductive AlgorithmText : AlgorithmId → Bytes → Prop
  | alone {id : Bytes} (hid : id.length ≤ 16) : AlgorithmText ⟨id, none⟩ (Der.writeObjectId id)
  | followed {id : Bytes} {tag : UInt8} {content : Bytes} (hid : id.length ≤ 16) (htag : tag.toNat % 32 ≠ 31)
      (hcontent : content.length ≤ 16) :
      AlgorithmText ⟨id, some (Der.write tag content)⟩ (Der.writeObjectId id ++ Der.write tag content)

namespace AlgorithmText
variable {algorithm : AlgorithmId} {text : Bytes}

theorem length_le (h : AlgorithmText algorithm text) : text.length ≤ 64 := by
  cases h with
  | @alone id hid =>
      have hlen := Der.length_write_le (by rw [Der.sizeBound]; omega : id.length < Der.sizeBound) 6
      exact hlen.trans (by omega)
  | @followed id tag content hid htag hcontent =>
      have hlen := Der.length_write_le (by rw [Der.sizeBound]; omega : id.length < Der.sizeBound) 6
      have hmore := Der.length_write_le (by rw [Der.sizeBound]; omega : content.length < Der.sizeBound) tag
      have hid' : (Der.writeObjectId id).length ≤ id.length + 6 := hlen
      rw [List.length_append]
      omega

theorem read (h : AlgorithmText algorithm text) (rest : Bytes) :
    CertFields.readAlgorithm? (Der.write Der.Strict.sequenceTag text ++ rest) = some (algorithm, rest) := by
  have hbody : Der.readContent Der.Tag.sequence (Der.write Der.Strict.sequenceTag text ++ rest) = some (text, rest) :=
    Der.readContent_write (by decide) (by have := h.length_le; rw [Der.sizeBound]; omega) rest
  have hname : ∀ {id : Bytes}, id.length ≤ 16 → ∀ more : Bytes,
      CertFields.readObjectId? (Der.writeObjectId id ++ more) = some (id, more) := by
    intro id hid more
    have hid' : id.length < Der.sizeBound := by rw [Der.sizeBound]; omega
    rw [CertFields.readObjectId?, Der.writeObjectId, Der.readElement_write (by decide) hid']
    rfl
  cases h with
  | @alone id hid =>
      have hid' := hname hid []
      rw [List.append_nil] at hid'
      simp [CertFields.readAlgorithm?, hbody, hid']
  | @followed id tag content hid htag hcontent =>
      have hmore : Der.readElement (Der.write tag content) = some (Der.elementOf tag content, []) := by
        have hread := Der.readElement_write htag (by rw [Der.sizeBound]; omega : content.length < Der.sizeBound) []
        rwa [List.append_nil] at hread
      have hne : Der.write tag content ≠ [] := List.cons_ne_nil _ _
      have hconsumed : Der.consumed (Der.write tag content) [] = Der.write tag content := List.take_length
      simp [CertFields.readAlgorithm?, hbody, hname hid, hmore, hne, hconsumed]

end AlgorithmText

theorem CertFields.readBits?_write {bits : Bytes} (h : bits.length ≤ 2048) (rest : Bytes) :
    readBits? (Der.writeBits bits ++ rest) = some (bits, rest) := by
  have hread : Der.readPrimitive Der.Tag.bitString (Der.writeBits bits ++ rest) = some (0 :: bits, rest) :=
    Der.readPrimitive_write (by decide) (by decide) (by rw [List.length_cons, Der.sizeBound]; omega) rest
  have hbits : bits? (0 :: bits) = some bits := by
    cases bits with
    | nil => rfl
    | cons b bits =>
        have hlast : ∀ n : Nat, n % Nat.pow 2 (0 : UInt8).toNat = 0 := fun n => Nat.mod_one n
        simp only [bits?, hlast]
        rfl
  simp [readBits?, hread, hbits]

inductive KeyText : KeyInfo → Bytes → Prop
  | mk {algorithm : AlgorithmId} {text bits : Bytes} (halgorithm : AlgorithmText algorithm text)
      (hbits : bits.length ≤ 2048) :
      KeyText ⟨Der.write Der.Strict.sequenceTag (Der.write Der.Strict.sequenceTag text ++ Der.writeBits bits), algorithm,
          bits⟩
        (Der.write Der.Strict.sequenceTag (Der.write Der.Strict.sequenceTag text ++ Der.writeBits bits))

namespace KeyText
variable {info : KeyInfo} {text bits : Bytes}

theorem length_content_le {algorithm : AlgorithmId} (halgorithm : AlgorithmText algorithm text)
    (hbits : bits.length ≤ 2048) : (Der.write Der.Strict.sequenceTag text ++ Der.writeBits bits).length ≤ 2125 := by
  have hbound : Der.sizeBound = 4294967296 := rfl
  have htext := halgorithm.length_le
  have hfirst := Der.length_write_le (by omega : text.length < Der.sizeBound) Der.Strict.sequenceTag
  have hlength : (0 :: bits).length < Der.sizeBound := by rw [List.length_cons]; omega
  have hsecond := Der.length_write_le hlength Der.Strict.bitStringTag
  rw [List.length_append, Der.writeBits]
  rw [List.length_cons] at hsecond
  omega

theorem length_le (h : KeyText info text) : text.length ≤ 2131 := by
  cases h with
  | mk halgorithm hbits =>
      have hcontent := length_content_le halgorithm hbits
      have hwrite := Der.length_write_le (Nat.lt_of_le_of_lt hcontent (by decide)) Der.Strict.sequenceTag
      omega

theorem read (h : KeyText info text) (rest : Bytes) : CertFields.readKeyInfo? (text ++ rest) = some (info, rest) := by
  cases h with
  | @mk algorithm text bits halgorithm hbits =>
      have hcontent := length_content_le halgorithm hbits
      have hbody := Der.readContent_sequence (Nat.lt_of_le_of_lt hcontent (by decide)) rest
      have hkey := CertFields.readBits?_write hbits []
      rw [List.append_nil] at hkey
      simp [CertFields.readKeyInfo?, hbody, halgorithm.read, hkey, Der.consumed_append]

end KeyText

namespace Rsa

theorem lt_of_bitLength {n b : Nat} (h : bitLength n ≤ b) : n < 2 ^ b := by
  rw [bitLength] at h
  split at h
  · next hn => rw [hn]; exact Nat.pow_pos (by omega)
  · exact Nat.lt_of_lt_of_le Nat.lt_log2_self (Nat.pow_le_pow_right (by omega) h)

theorem widthOf_le_of_lt {m n w : Nat} (h : n ≤ m) (hm : m < 2 ^ (8 * w)) : Bytes.widthOf n ≤ w := by
  refine Bytes.widthOf_le ?_
  rw [Bytes.pow_byte]
  exact Nat.lt_of_le_of_lt h hm

theorem length_writeNatural_le {n w : Nat} (h : Bytes.widthOf n ≤ w) (hw : w ≤ 2048) :
    (Der.writeNatural n).length ≤ w + 7 := by
  have hcontent := Der.Strict.length_naturalContent_le n
  have hbound : (Der.naturalContent n).length < Der.sizeBound := by rw [Der.sizeBound]; omega
  have hwrite := Der.length_write_le hbound Der.Strict.integerTag
  rw [Der.writeNatural]
  omega

theorem PublicKey.modulus_lt {k : PublicKey} (h : k.usable = true) : k.modulus < 2 ^ (8 * 1024) := by
  simp only [usable, Bool.and_eq_true, decide_eq_true_eq] at h
  exact lt_of_bitLength h.1.1.2

theorem PublicKey.width_le {k : PublicKey} (h : k.usable = true) :
    Bytes.widthOf k.modulus ≤ 1024 ∧ Bytes.widthOf k.exponent ≤ 5 := by
  have hmodulus := modulus_lt h
  simp only [usable, exponentOk, Bool.and_eq_true, decide_eq_true_eq] at h
  obtain ⟨_, ⟨_, hexponent⟩⟩ := h
  exact ⟨widthOf_le_of_lt (Nat.le_refl _) hmodulus,
    widthOf_le_of_lt (Nat.le_refl _) (lt_of_bitLength (hexponent.trans (by omega)))⟩

theorem PublicKey.length_numbers_le {k : PublicKey} (h : k.usable = true) :
    [Der.writeNatural k.modulus, Der.writeNatural k.exponent].flatten.length ≤ 1043 := by
  obtain ⟨hmodulus, hexponent⟩ := width_le h
  have hn := length_writeNatural_le hmodulus (by omega)
  have he := length_writeNatural_le hexponent (by omega)
  simp only [List.flatten_cons, List.flatten_nil, List.append_nil, List.length_append]
  omega

theorem PublicKey.length_numbers_lt {k : PublicKey} (h : k.usable = true) :
    [Der.writeNatural k.modulus, Der.writeNatural k.exponent].flatten.length < Der.sizeBound :=
  Nat.lt_of_le_of_lt (length_numbers_le h) (by decide)

theorem PublicKey.length_encode_le {k : PublicKey} (h : k.usable = true) : k.encode.length ≤ 1049 :=
  (Der.length_write_le (length_numbers_lt h) _).trans (Nat.add_le_add_right (length_numbers_le h) 6)

namespace PrivateKey
variable {k : PrivateKey}

theorem publicKey_usable (h : k.usable = true) : k.publicKey.usable = true :=
  (Bool.and_eq_true_iff.1 h).2

theorem width_parts_le (h : k.usable = true) {n : Nat}
    (hn : n ∈ [0, k.modulus, k.publicExponent, k.privateExponent, k.prime1, k.prime2, k.exponent1, k.exponent2,
      k.coefficient]) : Bytes.widthOf n ≤ 1024 := by
  rw [usable, Bool.and_eq_true] at h
  obtain ⟨hparts, hpublic⟩ := h
  obtain ⟨_, hexponent⟩ := PublicKey.width_le hpublic
  have hmodulus : k.modulus < 2 ^ (8 * 1024) := PublicKey.modulus_lt hpublic
  simp only [consistent, Bool.and_eq_true, decide_eq_true_eq] at hparts
  simp only [List.mem_cons, List.not_mem_nil, or_false] at hn
  rcases hn with rfl | rfl | rfl | rfl | rfl | rfl | rfl | rfl | rfl
  · exact widthOf_le_of_lt (Nat.zero_le _) hmodulus
  · exact widthOf_le_of_lt (Nat.le_refl _) hmodulus
  · exact Nat.le_trans hexponent (by omega)
  all_goals exact widthOf_le_of_lt (by omega) hmodulus

theorem readNaturals_write {ns : List Nat} (h : ∀ n ∈ ns, Bytes.widthOf n ≤ 1024) (rest : Bytes) :
    readNaturals ns.length ((ns.map Der.writeNatural).flatten ++ rest) = some (ns, rest) := by
  induction ns with
  | nil => rfl
  | cons n ns ih =>
      have hn : Bytes.widthOf n + 1 < Der.sizeBound := by
        have := h n List.mem_cons_self
        rw [Der.sizeBound]; omega
      simp only [List.map_cons, List.flatten_cons, List.length_cons, readNaturals, List.append_assoc,
        Der.Strict.readNatural_writeNatural hn, ih fun m hm => h m (List.mem_cons_of_mem _ hm), Option.bind_eq_bind,
        Option.bind_some]
      rfl

theorem length_naturals_le {ns : List Nat} (h : ∀ n ∈ ns, Bytes.widthOf n ≤ 1024) :
    ((ns.map Der.writeNatural).flatten).length ≤ ns.length * 1031 := by
  induction ns with
  | nil => simp
  | cons n ns ih =>
      have hn := length_writeNatural_le (h n List.mem_cons_self) (by omega)
      have hns := ih fun m hm => h m (List.mem_cons_of_mem _ hm)
      simp only [List.map_cons, List.flatten_cons, List.length_append, List.length_cons]
      omega

theorem length_parts_lt (h : k.usable = true) :
    (([0, k.modulus, k.publicExponent, k.privateExponent, k.prime1, k.prime2, k.exponent1, k.exponent2,
      k.coefficient].map Der.writeNatural).flatten).length < Der.sizeBound := by
  have hlen := length_naturals_le fun n => width_parts_le h
  simp only [List.length_cons, List.length_nil] at hlen
  exact Nat.lt_of_le_of_lt hlen (by rw [Der.sizeBound]; omega)

theorem read?_encode (h : k.usable = true) (rest : Bytes) : read? (k.encode ++ rest) = some (k, rest) := by
  have hnaturals := readNaturals_write (fun n => width_parts_le h) []
  rw [List.append_nil] at hnaturals
  have hread := Der.Strict.read_write Der.Strict.sequenceTag_short (length_parts_lt h) rest
  simp only [read?, encode, Der.writeSequence, hread, Option.bind_eq_bind, Option.bind_some]
  simp only [List.length_cons, List.length_nil] at hnaturals
  rw [hnaturals]
  exact if_pos h

theorem usable_of_read? {bs rest : Bytes} (h : read? bs = some (k, rest)) : k.usable = true := by
  obtain ⟨⟨body, after⟩, _, h⟩ := Option.bind_eq_some_iff.1 h
  simp only at h
  split at h
  · split at h
    · next hk =>
        obtain ⟨rfl, rfl⟩ := Prod.mk.inj (Option.some.inj h)
        exact hk
    · cases h
  · cases h

theorem length_sign?_le (h : k.usable = true) {hash : Hash} {message signature : Bytes}
    (hsign : k.sign? hash message = some signature) : signature.length ≤ 1024 := by
  rw [usable, Bool.and_eq_true] at h
  obtain ⟨encoded, _, hsign⟩ := Option.bind_eq_some_iff.1 hsign
  simp only at hsign
  split at hsign
  · obtain rfl := Option.some.inj hsign
    rw [Bytes.length_ofNat]
    exact (PublicKey.width_le h.2).1
  · cases hsign

end PrivateKey
end Rsa

namespace Ecdsa

theorem order_bounds {c : Curve} (h : c ∈ curves) : 0 < c.order ∧ c.order < 256 ^ 66 := by
  have hall : ∀ c ∈ curves, 0 < c.order ∧ c.order < 256 ^ 66 := by decide
  exact hall c h

theorem PrivateKey.length_sign?_le {k : PrivateKey} (h : k.curve ∈ curves) {nonce : Nat} {message signature : Bytes}
    (hsign : k.sign? nonce message = some signature) : signature.length ≤ 256 := by
  obtain ⟨⟨x, y⟩, _, hsign⟩ := Option.bind_eq_some_iff.1 hsign
  obtain ⟨i, _, hsign⟩ := Option.bind_eq_some_iff.1 hsign
  have hpart : ∀ n, (Der.writeNatural (n % k.curve.order)).length ≤ 73 := by
    intro n
    obtain ⟨hpos, hbound⟩ := order_bounds h
    have hlt : n % k.curve.order < 256 ^ 66 := Nat.lt_trans (Nat.mod_lt n hpos) hbound
    exact Rsa.length_writeNatural_le (Bytes.widthOf_le hlt) (by omega)
  simp only at hsign
  split at hsign
  · cases hsign
  · obtain rfl := Option.some.inj hsign
    have hr := hpart x
    have hs := hpart (i * (truncated k.curve (k.hash.digest message) + x % k.curve.order * k.secret))
    rw [Der.writeSequence]
    refine (Der.length_write_le ?_ _).trans ?_
    all_goals
      simp only [List.flatten_cons, List.flatten_nil, List.append_nil, List.length_append, Der.sizeBound]
      omega

end Ecdsa

namespace KeyPair

/-- What the readers of private keys make sure of, as far as sizes go. -/
def Usable : KeyPair → Prop
  | .rsa key => key.usable = true
  | .ecdsa key => key.curve ∈ Ecdsa.curves
  | .ed25519 _ => True

theorem usable_of_rsaWrapped? {der : Bytes} {key : KeyPair} (h : rsaWrapped? der = some key) : key.Usable := by
  obtain ⟨w, _, h⟩ := Option.bind_eq_some_iff.1 h
  obtain ⟨⟨k, rest⟩, hread, h⟩ := Option.bind_eq_some_iff.1 h
  obtain ⟨_, h⟩ := Option.ite_none_right_eq_some.1 h
  obtain rfl := Option.some.inj h
  exact Rsa.PrivateKey.usable_of_read? hread

theorem usable_of_rsaPlain? {der : Bytes} {key : KeyPair} (h : rsaPlain? der = some key) : key.Usable := by
  obtain ⟨⟨k, rest⟩, hread, rfl⟩ := Option.map_eq_some_iff.1 h
  exact Rsa.PrivateKey.usable_of_read? hread

theorem usable_of_ed25519Wrapped? {der : Bytes} {key : KeyPair} (h : ed25519Wrapped? der = some key) : key.Usable := by
  obtain ⟨w, _, h⟩ := Option.bind_eq_some_iff.1 h
  obtain ⟨seed, _, h⟩ := Option.bind_eq_some_iff.1 h
  obtain ⟨_, h⟩ := Option.ite_none_right_eq_some.1 h
  obtain rfl := Option.some.inj h
  trivial

theorem curve_of_read? {c : Ecdsa.Curve} {bs rest : Bytes} {k : Ecdsa.PrivateKey}
    (h : Ecdsa.PrivateKey.read? c bs = some (k, rest)) : k.curve = c := by
  obtain ⟨_, _, h⟩ := Option.bind_eq_some_iff.1 h
  obtain ⟨_, _, h⟩ := Option.bind_eq_some_iff.1 h
  obtain ⟨_, _, h⟩ := Option.bind_eq_some_iff.1 h
  obtain ⟨_, _, h⟩ := Option.bind_eq_some_iff.1 h
  obtain ⟨_, _, h⟩ := Option.bind_eq_some_iff.1 h
  obtain ⟨_, h⟩ := Option.ite_none_right_eq_some.1 h
  obtain ⟨rfl, _⟩ := Prod.mk.inj (Option.some.inj h)
  rfl

theorem usable_of_ecdsaAny? {read : Ecdsa.Curve → Bytes → Option KeyPair} {der : Bytes} {key : KeyPair}
    (hread : ∀ c, read c der = some key → ∃ k : Ecdsa.PrivateKey, k.curve = c ∧ key = .ecdsa k)
    (h : ecdsaAny? read der = some key) : key.Usable := by
  obtain ⟨c, hc, hkey⟩ := List.exists_of_findSome?_eq_some h
  obtain ⟨k, rfl, rfl⟩ := hread c hkey
  exact hc

theorem usable_of_ofDer? {der : Bytes} {key : KeyPair} (h : ofDer? der = some key) : key.Usable := by
  have hwrapped : ∀ c, ecdsaWrapped? c der = some key → ∃ k : Ecdsa.PrivateKey, k.curve = c ∧ key = .ecdsa k := by
    intro c h
    obtain ⟨w, _, h⟩ := Option.bind_eq_some_iff.1 h
    obtain ⟨_, h⟩ := Option.ite_none_right_eq_some.1 h
    obtain ⟨⟨k, rest⟩, hread, h⟩ := Option.bind_eq_some_iff.1 h
    obtain ⟨_, h⟩ := Option.ite_none_right_eq_some.1 h
    exact ⟨k, curve_of_read? hread, (Option.some.inj h).symm⟩
  have hplain : ∀ c, ecdsaPlain? c der = some key → ∃ k : Ecdsa.PrivateKey, k.curve = c ∧ key = .ecdsa k := by
    intro c h
    obtain ⟨⟨k, rest⟩, hread, rfl⟩ := Option.map_eq_some_iff.1 h
    exact ⟨k, curve_of_read? hread, rfl⟩
  obtain ⟨format, _, h⟩ := Option.bind_eq_some_iff.1 h
  cases format with
  | pkcs8 =>
      simp only [Option.or_eq_some_iff] at h
      rcases h with (h | ⟨_, h⟩) | ⟨_, h⟩
      · exact usable_of_ed25519Wrapped? h
      · exact usable_of_ecdsaAny? hwrapped h
      · exact usable_of_rsaWrapped? h
  | pkcs1 | sec1 =>
      simp only [Option.or_eq_some_iff] at h
      rcases h with (h | ⟨_, h⟩) | ⟨_, h⟩
      · exact usable_of_ed25519Wrapped? h
      · exact usable_of_ecdsaAny? hplain h
      · exact usable_of_rsaPlain? h

variable {k : Rsa.PrivateKey}

theorem length_encode_le (h : k.usable = true) : k.encode.length ≤ 9285 := by
  have hlen := Rsa.PrivateKey.length_naturals_le fun n => Rsa.PrivateKey.width_parts_le h
  simp only [List.length_cons, List.length_nil] at hlen
  have hwrite := Der.length_write_le (Rsa.PrivateKey.length_parts_lt h) Der.Strict.sequenceTag
  rw [Rsa.PrivateKey.encode, Der.writeSequence]
  omega

theorem readWrapped?_wrap {algorithm key : Bytes} (halgorithm : algorithm.length ≤ 64) (hkey : key.length ≤ 10000) :
    readWrapped? (wrap algorithm key) = some ⟨algorithm, key, none⟩ := by
  have hbound : Der.sizeBound = 4294967296 := rfl
  have hnatural := Rsa.length_writeNatural_le (Bytes.widthOf_le (by omega : 0 < 256 ^ 0)) (by omega)
  have ha := Der.length_write_le (by omega : algorithm.length < Der.sizeBound) Der.Strict.sequenceTag
  have hk := Der.length_write_le (by omega : key.length < Der.sizeBound) Der.Strict.octetStringTag
  have hparts : [Der.writeNatural 0, Der.write Der.Strict.sequenceTag algorithm,
      Der.write Der.Strict.octetStringTag key].flatten.length < Der.sizeBound := by
    simp only [List.flatten_cons, List.flatten_nil, List.append_nil, List.length_append]
    omega
  have hbody := Der.Strict.read_write Der.Strict.sequenceTag_short hparts []
  have hversion := Der.Strict.readNatural_writeNatural (n := 0) (by decide)
  have halg := Der.Strict.read_write Der.Strict.sequenceTag_short
    (by omega : algorithm.length < Der.sizeBound)
  have hoctets := Der.Strict.read_write Der.Strict.octetStringTag_short
    (by omega : key.length < Der.sizeBound) []
  rw [List.append_nil] at hbody hoctets
  simp only [readWrapped?, wrap, Der.writeSequence, hbody, Option.bind_eq_bind, Option.bind_some]
  simp only [List.flatten_cons, List.flatten_nil, List.append_nil, hversion, halg, hoctets, Der.Strict.readOptional,
    Option.bind_some]
  rfl

theorem rsaWrapped?_encodeRsa (h : k.usable = true) : rsaWrapped? (encodeRsa k) = some (.rsa k) := by
  have hlen := length_encode_le h
  have hread := Rsa.PrivateKey.read?_encode h []
  rw [List.append_nil] at hread
  simp [rsaWrapped?, encodeRsa, readWrapped?_wrap (by decide : Rsa.PublicKey.algorithm.length ≤ 64)
    (by omega : k.encode.length ≤ 10000), hread]

/-- The guess goes by the version number and the tag behind it. -/
theorem guessFormat_write {v tag : UInt8} {more : Bytes} (h : (2 :: 1 :: v :: tag :: more).length < Der.sizeBound)
    (tail : Bytes) :
    guessFormat (Der.write Der.Strict.sequenceTag (2 :: 1 :: v :: tag :: more) ++ tail) =
      if tag = 0x30 then some .pkcs8 else if v = 0 then some .pkcs1 else if v = 1 then some .sec1 else none := by
  obtain ⟨n, rest, hwrite, hrest⟩ := Der.write_eq_cons h Der.Strict.sequenceTag tail
  rw [hwrite]
  delta guessFormat
  simp only [Der.Strict.sequenceTag, hrest, List.cons_append, List.head?_cons, Option.some.injEq]

theorem guessFormat_encodeRsa (h : k.usable = true) : guessFormat (encodeRsa k) = some .pkcs8 := by
  have hlen := length_encode_le h
  have hbound : Der.sizeBound = 4294967296 := rfl
  have hkey := Der.length_write_le (by omega : k.encode.length < Der.sizeBound) Der.Strict.octetStringTag
  obtain ⟨more, hmore⟩ : ∃ more, [Der.writeNatural 0, Der.write Der.Strict.sequenceTag Rsa.PublicKey.algorithm,
      Der.write Der.Strict.octetStringTag k.encode].flatten = 2 :: 1 :: 0 :: 0x30 :: more := ⟨_, rfl⟩
  have hsize := congrArg List.length hmore
  have hzero : (Der.writeNatural 0).length = 3 := rfl
  have halgorithm : (Der.write Der.Strict.sequenceTag Rsa.PublicKey.algorithm).length = 15 := rfl
  simp only [List.flatten_cons, List.flatten_nil, List.append_nil, List.length_append] at hsize
  rw [encodeRsa, wrap, Der.writeSequence, hmore, ← List.append_nil (Der.write _ _)]
  exact (guessFormat_write (by omega) []).trans (if_pos rfl)

theorem ofDer?_encodeRsa (h : k.usable = true) : ofDer? (encodeRsa k) = some (.rsa k) := by
  have hlen := length_encode_le h
  have hwrapped := readWrapped?_wrap (by decide : Rsa.PublicKey.algorithm.length ≤ 64)
    (by omega : k.encode.length ≤ 10000)
  have hed : ed25519Wrapped? (encodeRsa k) = none := by
    have hseed : Der.Strict.readOnly Der.Strict.octetStringTag k.encode = none := by
      have hread := Der.Strict.read_write_ne Der.Strict.sequenceTag_short
        (by decide : Der.Strict.sequenceTag ≠ Der.Strict.octetStringTag) (Rsa.PrivateKey.length_parts_lt h) []
      rw [List.append_nil] at hread
      rw [Der.Strict.readOnly, Rsa.PrivateKey.encode, Der.writeSequence, hread]
      rfl
    simp [ed25519Wrapped?, encodeRsa, hwrapped, hseed]
  have hec : ecdsaAny? ecdsaWrapped? (encodeRsa k) = none := by
    refine List.findSome?_eq_none_iff.2 ?_
    intro c hc
    have hne : ∀ c ∈ Ecdsa.curves, Rsa.PublicKey.algorithm ≠ Ecdsa.PrivateKey.algorithm c := by decide
    simp [ecdsaWrapped?, encodeRsa, hwrapped, hne c hc]
  simp [ofDer?, guessFormat_encodeRsa h, hed, hec, rsaWrapped?_encodeRsa h]

theorem ofFormat?_encodeRsa (h : k.usable = true) : ofFormat? .pkcs8 (encodeRsa k) = some (.rsa k) := by
  simp [ofFormat?, rsaWrapped?_encodeRsa h]

def publicAlgorithm : KeyPair → Bytes
  | .rsa _ => Rsa.PublicKey.algorithm
  | .ecdsa key => Ecdsa.PrivateKey.algorithm key.curve
  | .ed25519 _ => Der.writeObjectId ObjectId.ed25519

def publicBits : KeyPair → Bytes
  | .rsa key => key.publicKey.encode
  | .ecdsa key => key.curve.encode key.point
  | .ed25519 seed => Ed25519.publicKey seed

def publicContent (key : KeyPair) : Bytes :=
  Der.write Der.Strict.sequenceTag key.publicAlgorithm ++ Der.writeBits key.publicBits

theorem publicInfo_eq (key : KeyPair) : key.publicInfo = Der.write Der.Strict.sequenceTag key.publicContent := by
  cases key <;> simp [publicInfo, Rsa.PublicKey.info, Ecdsa.PrivateKey.info, Ed25519.info, Der.writeSequence,
    publicContent, publicAlgorithm, publicBits]

def publicAlgorithmId : KeyPair → AlgorithmId
  | .rsa _ => ⟨ObjectId.rsaEncryption, some Der.writeNull⟩
  | .ecdsa key => ⟨ObjectId.ecPublicKey, some (Der.writeObjectId key.curve.id)⟩
  | .ed25519 _ => ⟨ObjectId.ed25519, none⟩

theorem publicAlgorithm_text {key : KeyPair} (h : key.Usable) :
    AlgorithmText key.publicAlgorithmId key.publicAlgorithm := by
  cases key with
  | rsa key => exact .followed (by decide) (by decide) (by decide)
  | ecdsa key =>
      have hid : key.curve.id.length ≤ 16 := by
        have hall : ∀ c ∈ Ecdsa.curves, c.id.length ≤ 16 := by decide
        exact hall _ h
      exact .followed (by decide) (by decide) hid
  | ed25519 seed => exact .alone (by decide)

def signatureAlgorithmId : KeyPair → AlgorithmId
  | .rsa _ => ⟨ObjectId.sha256WithRsa, some Der.writeNull⟩
  | .ecdsa key =>
    match key.hash with
    | .sha256 => ⟨ObjectId.ecdsaSha256, none⟩
    | .sha384 => ⟨ObjectId.ecdsaSha384, none⟩
    | .sha512 => ⟨ObjectId.ecdsaSha512, none⟩
  | .ed25519 _ => ⟨ObjectId.ed25519, none⟩

theorem signatureAlgorithm_text (key : KeyPair) : AlgorithmText key.signatureAlgorithmId key.signatureAlgorithm := by
  cases key with
  | rsa key => exact .followed (by decide) (by decide) (by decide)
  | ecdsa key =>
      rw [signatureAlgorithm, signatureAlgorithmId]
      cases key.hash <;> exact .alone (by decide)
  | ed25519 seed => exact .alone (by decide)

theorem signatureAlgorithmId_rsa (key : KeyPair) :
    key.signatureAlgorithmId.id = ObjectId.sha256WithRsa ↔ key.isRsa = true := by
  cases key with
  | rsa key => exact iff_of_true rfl rfl
  | ecdsa key =>
      rw [signatureAlgorithmId]
      cases key.hash <;> exact iff_of_false (by decide) Bool.false_ne_true
  | ed25519 seed =>
      exact iff_of_false (by decide : ObjectId.ed25519 ≠ ObjectId.sha256WithRsa) Bool.false_ne_true

theorem length_publicBits_le {key : KeyPair} (h : key.Usable) : key.publicBits.length ≤ 2048 := by
  cases key with
  | rsa key =>
      exact (Rsa.PublicKey.length_encode_le (Rsa.PrivateKey.publicKey_usable h)).trans (by omega)
  | ecdsa key =>
      have hwidth : key.curve.width ≤ 66 := by
        have hall : ∀ c ∈ Ecdsa.curves, c.width ≤ 66 := by decide
        exact hall _ h
      rw [publicBits]
      cases key.point with
      | none => exact Nat.le_of_ble_eq_true rfl
      | some q =>
        simp only [Ecdsa.Curve.encode, List.length_cons, List.length_append, Bytes.length_ofNat]; omega
  | ed25519 seed =>
      rw [publicBits, Ed25519.publicKey, Ed25519.encode, Ed25519.toLittle, List.length_reverse, Bytes.length_ofNat]
      omega

theorem length_sign?_le {key : KeyPair} (h : key.Usable) {nonce : Nat} {message signature : Bytes}
    (hsign : key.sign? nonce message = some signature) : signature.length ≤ 2048 := by
  cases key with
  | rsa key =>
      exact (Rsa.PrivateKey.length_sign?_le h hsign).trans (by omega)
  | ecdsa key => exact (Ecdsa.PrivateKey.length_sign?_le h hsign).trans (by omega)
  | ed25519 seed =>
      obtain rfl := Option.some.inj hsign
      simp [Ed25519.sign, Ed25519.encode, Ed25519.toLittle, Bytes.length_ofNat]

end KeyPair
end PairedTls
