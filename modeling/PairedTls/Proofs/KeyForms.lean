import PairedTls.Proofs.KeyEncoding

namespace PairedTls

def KeyForm.wrappedParts (version : Nat) (algorithm key more : Bytes) : List Bytes :=
  [Der.writeNatural version, Der.write Der.Strict.sequenceTag algorithm, Der.write Der.Strict.octetStringTag key, more]

def KeyForm.curveParts (secret more : Bytes) : List Bytes :=
  [Der.writeNatural 1, Der.write Der.Strict.octetStringTag secret, more]

/-- The elements that are private keys, with the format that they are of. -/
inductive KeyForm : KeyFormat → Bytes → Prop where
  | wrapped {version : Nat} {algorithm key more : Bytes} (hversion : version ≤ 1)
      (hsize : (KeyForm.wrappedParts version algorithm key more).flatten.length < Der.sizeBound) :
      KeyForm .pkcs8 (Der.writeSequence (KeyForm.wrappedParts version algorithm key more))
  | rsa {key : Rsa.PrivateKey} (husable : key.usable = true) : KeyForm .pkcs1 key.encode
  | curve {secret more : Bytes} (hsize : (KeyForm.curveParts secret more).flatten.length < Der.sizeBound) :
      KeyForm .sec1 (Der.writeSequence (KeyForm.curveParts secret more))

def PrivateKeyInfo (der : Bytes) : Prop :=
  KeyForm .pkcs8 der

namespace KeyForm

variable {format format' : KeyFormat} {element behind : Bytes}

theorem exists_read (h : KeyForm format element) (behind : Bytes) :
    ∃ content, Der.Strict.read Der.Strict.sequenceTag (element ++ behind) = some (content, behind) := by
  have hread {content : Bytes} (hsize : content.length < Der.sizeBound) :=
    Der.Strict.read_write Der.Strict.sequenceTag_short hsize behind
  cases h with
  | wrapped _ hsize => exact ⟨_, hread hsize⟩
  | rsa husable => exact ⟨_, hread (Rsa.PrivateKey.length_parts_lt husable)⟩
  | curve hsize => exact ⟨_, hread hsize⟩

theorem behind_eq_nil (h : KeyForm format element) (h' : KeyForm format' (element ++ behind)) : behind = [] := by
  obtain ⟨content, hread⟩ := h.exists_read behind
  obtain ⟨content', hread'⟩ := h'.exists_read []
  rw [List.append_nil, hread] at hread'
  exact congrArg Prod.snd (Option.some.inj hread')

/-- The format can be told from the element, whatever is behind it. -/
theorem guessFormat_eq (h : KeyForm format element) (behind : Bytes) :
    KeyPair.guessFormat (element ++ behind) = some format := by
  cases h with
  | @wrapped version algorithm key more hversion hsize =>
      obtain ⟨v, rest, hparts⟩ : ∃ v rest,
          (wrappedParts version algorithm key more).flatten = 2 :: 1 :: v :: 0x30 :: rest := by
        obtain rfl | rfl : version = 0 ∨ version = 1 := by omega
        · exact ⟨0, _, rfl⟩
        · exact ⟨1, _, rfl⟩
      rw [Der.writeSequence, hparts]
      rw [hparts] at hsize
      exact (KeyPair.guessFormat_write hsize behind).trans (if_pos rfl)
  | rsa husable => exact KeyPair.guessFormat_write (Rsa.PrivateKey.length_parts_lt husable) behind
  | curve hsize => exact KeyPair.guessFormat_write hsize behind

theorem privateKeyInfo_iff (h : KeyForm format element) :
    PrivateKeyInfo (element ++ behind) ↔ format = .pkcs8 ∧ behind = [] := by
  constructor
  · intro hinfo
    obtain rfl := h.behind_eq_nil hinfo
    have hguess := hinfo.guessFormat_eq []
    rw [List.append_nil, h.guessFormat_eq] at hguess
    exact ⟨Option.some.inj hguess, rfl⟩
  · rintro ⟨rfl, rfl⟩
    rwa [List.append_nil]

end KeyForm

def BeginsWithForm (format : KeyFormat) (bs : Bytes) : Prop :=
  ∃ element behind, KeyForm format element ∧ bs = element ++ behind

namespace Rsa.PrivateKey

variable {bs rest : Bytes} {ns : List Nat} {key : PrivateKey}

theorem readNaturals_eq_some {count : Nat} (h : readNaturals count bs = some (ns, rest)) :
    bs = (ns.map Der.writeNatural).flatten ++ rest := by
  induction count generalizing bs ns with
  | zero =>
      obtain ⟨rfl, rfl⟩ := Prod.mk.inj (Option.some.inj h)
      rfl
  | succ count ih =>
      obtain ⟨⟨n, after⟩, hn, h⟩ := Option.bind_eq_some_iff.1 h
      obtain ⟨⟨more, last⟩, hmore, h⟩ := Option.bind_eq_some_iff.1 h
      obtain ⟨rfl, rfl⟩ := Prod.mk.inj (Option.some.inj h)
      obtain rfl := Der.Strict.readNatural_eq_some hn
      rw [ih hmore, List.map_cons, List.flatten_cons, List.append_assoc]

theorem read?_eq_some (h : read? bs = some (key, rest)) : key.usable = true ∧ bs = key.encode ++ rest := by
  refine ⟨usable_of_read? h, ?_⟩
  obtain ⟨⟨body, after⟩, hbody, hparts⟩ := Option.bind_eq_some_iff.1 h
  obtain ⟨-, rfl⟩ := Der.Strict.read_eq_some hbody
  dsimp only at hparts
  split at hparts
  · next hnaturals =>
      obtain ⟨-, hparts⟩ := Option.ite_none_right_eq_some.1 hparts
      obtain ⟨rfl, rfl⟩ := Prod.mk.inj (Option.some.inj hparts)
      rw [readNaturals_eq_some hnaturals, List.append_nil]
      rfl
  · cases hparts

end Rsa.PrivateKey

namespace KeyPair

variable {bs der : Bytes} {pair : KeyPair}

theorem form_of_readWrapped? {w : Wrapped} (h : readWrapped? bs = some w) : BeginsWithForm .pkcs8 bs := by
  obtain ⟨⟨body, _⟩, hbody, h⟩ := Option.bind_eq_some_iff.1 h
  obtain ⟨⟨version, afterVersion⟩, hversion, h⟩ := Option.bind_eq_some_iff.1 h
  obtain ⟨⟨algorithm, afterAlgorithm⟩, halgorithm, h⟩ := Option.bind_eq_some_iff.1 h
  obtain ⟨⟨key, afterKey⟩, hkey, h⟩ := Option.bind_eq_some_iff.1 h
  obtain ⟨⟨_, afterAttributes⟩, _, h⟩ := Option.bind_eq_some_iff.1 h
  obtain ⟨hsmall, -⟩ := Option.ite_none_left_eq_some.1 h
  obtain ⟨hbound, rfl⟩ := Der.Strict.read_eq_some hbody
  obtain rfl := Der.Strict.readNatural_eq_some hversion
  obtain ⟨-, rfl⟩ := Der.Strict.read_eq_some halgorithm
  obtain ⟨-, rfl⟩ := Der.Strict.read_eq_some hkey
  have hparts : (KeyForm.wrappedParts version algorithm key afterKey).flatten =
      Der.writeNatural version ++ (Der.write Der.Strict.sequenceTag algorithm ++
        (Der.write Der.Strict.octetStringTag key ++ afterKey)) := by
    simp [KeyForm.wrappedParts]
  rw [← hparts] at hbound ⊢
  exact ⟨_, _, .wrapped (Nat.not_lt.1 hsmall) hbound, rfl⟩

theorem guessFormat_of_readWrapped? {w : Wrapped} (h : readWrapped? bs = some w) : guessFormat bs = some .pkcs8 := by
  obtain ⟨element, behind, hform, rfl⟩ := form_of_readWrapped? h
  exact hform.guessFormat_eq behind

theorem ofFormat?_bare (h : guessFormat der ≠ some .pkcs8) : ofFormat? .pkcs8 der = none := by
  have hwrapped : readWrapped? der = none := by
    rw [Option.eq_none_iff_forall_ne_some]
    exact fun w hw => h (guessFormat_of_readWrapped? hw)
  simp [ofFormat?, rsaWrapped?, ecdsaAny?, ecdsaWrapped?, ed25519Wrapped?, hwrapped]

theorem form_of_curve {c : Ecdsa.Curve} {key : Ecdsa.PrivateKey} {rest : Bytes}
    (h : Ecdsa.PrivateKey.read? c bs = some (key, rest)) : BeginsWithForm .sec1 bs := by
  obtain ⟨⟨body, after⟩, hbody, h⟩ := Option.bind_eq_some_iff.1 h
  obtain ⟨⟨version, afterVersion⟩, hversion, h⟩ := Option.bind_eq_some_iff.1 h
  obtain ⟨⟨secret, afterSecret⟩, hsecret, h⟩ := Option.bind_eq_some_iff.1 h
  obtain ⟨⟨_, afterName⟩, _, h⟩ := Option.bind_eq_some_iff.1 h
  obtain ⟨⟨_, afterPoint⟩, _, h⟩ := Option.bind_eq_some_iff.1 h
  obtain ⟨⟨rfl, -⟩, -⟩ := Option.ite_none_right_eq_some.1 h
  obtain ⟨hbound, rfl⟩ := Der.Strict.read_eq_some hbody
  obtain rfl := Der.Strict.readNatural_eq_some hversion
  obtain ⟨-, rfl⟩ := Der.Strict.read_eq_some hsecret
  have hparts : (KeyForm.curveParts secret afterSecret).flatten =
      Der.writeNatural 1 ++ (Der.write Der.Strict.octetStringTag secret ++ afterSecret) := by
    simp [KeyForm.curveParts]
  rw [← hparts] at hbound ⊢
  exact ⟨_, _, .curve hbound, rfl⟩

theorem form_of_wrapped
    (h : ((ed25519Wrapped? der).or (ecdsaAny? ecdsaWrapped? der)).or (rsaWrapped? der) = some pair) :
    BeginsWithForm .pkcs8 der := by
  simp only [Option.or_eq_some_iff] at h
  rcases h with (h | ⟨-, h⟩) | ⟨-, h⟩
  · obtain ⟨w, hw, -⟩ := Option.bind_eq_some_iff.1 h
    exact form_of_readWrapped? hw
  · obtain ⟨c, -, h⟩ := List.exists_of_findSome?_eq_some h
    obtain ⟨w, hw, -⟩ := Option.bind_eq_some_iff.1 h
    exact form_of_readWrapped? hw
  · obtain ⟨w, hw, -⟩ := Option.bind_eq_some_iff.1 h
    exact form_of_readWrapped? hw

theorem form_of_plain (h : ((ed25519Wrapped? der).or (ecdsaAny? ecdsaPlain? der)).or (rsaPlain? der) = some pair) :
    ∃ format, BeginsWithForm format der := by
  simp only [Option.or_eq_some_iff] at h
  rcases h with (h | ⟨-, h⟩) | ⟨-, h⟩
  · obtain ⟨w, hw, -⟩ := Option.bind_eq_some_iff.1 h
    exact ⟨_, form_of_readWrapped? hw⟩
  · obtain ⟨c, -, h⟩ := List.exists_of_findSome?_eq_some h
    obtain ⟨⟨key, rest⟩, hread, -⟩ := Option.map_eq_some_iff.1 h
    exact ⟨_, form_of_curve hread⟩
  · obtain ⟨⟨key, rest⟩, hread, -⟩ := Option.map_eq_some_iff.1 h
    obtain ⟨husable, hder⟩ := Rsa.PrivateKey.read?_eq_some hread
    exact ⟨_, key.encode, rest, .rsa husable, hder⟩

/-- Whatever is read as a key has one of the forms. -/
theorem form_of_ofDer? (h : ofDer? der = some pair) : ∃ format, BeginsWithForm format der := by
  obtain ⟨format, -, h⟩ := Option.bind_eq_some_iff.1 h
  cases format with
  | pkcs8 => exact ⟨_, form_of_wrapped h⟩
  | pkcs1 | sec1 => exact form_of_plain h

/-- To a reader that has been told so, only a wrapped key is one. -/
theorem ofFormat?_wrapped_iff (h : ofDer? der = some pair) :
    (ofFormat? .pkcs8 der).isSome = true ↔ guessFormat der = some .pkcs8 := by
  constructor
  · intro hsome
    by_contra hbare
    rw [ofFormat?_bare hbare] at hsome
    cases hsome
  · intro hguess
    rw [ofDer?, hguess] at h
    have hsome : (((ed25519Wrapped? der).or (ecdsaAny? ecdsaWrapped? der)).or (rsaWrapped? der)).isSome = true :=
      Option.isSome_iff_exists.2 ⟨pair, h⟩
    rw [ofFormat?]
    simp only [Option.isSome_or, Bool.or_eq_true] at hsome ⊢
    tauto

end KeyPair
end PairedTls
