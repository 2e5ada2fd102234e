import PairedTls.Proofs.IdentityFallback

namespace PairedTls

open Act

theorem KeyPair.guessFormat_write_ne {b : UInt8} {more : Bytes} (hb : b ≠ 2)
    (h : (b :: more).length < Der.sizeBound) :
    guessFormat (Der.write Der.Strict.sequenceTag (b :: more)) = none := by
  obtain ⟨n, rest, hwrite, hrest⟩ := Der.write_eq_cons h Der.Strict.sequenceTag []
  rw [List.append_nil] at hwrite hrest
  rw [hwrite, Der.Strict.sequenceTag]
  delta guessFormat
  simp only [hrest]
  split
  · next heq => exact absurd (List.cons.inj heq).1 hb
  · rfl

theorem Certificate.ofDer?_build? {key : KeyPair} (h : key.Usable) {now : Int} {nonce : Nat} {c : Certificate}
    (hc : build? key now nonce = some c) : ServerKey.ofDer? c.der = none := by
  obtain ⟨notBefore, hbefore, hc⟩ := Option.bind_eq_some_iff.1 hc
  obtain ⟨notAfter, hafter, hc⟩ := Option.bind_eq_some_iff.1 hc
  obtain ⟨signature, hsign, hc⟩ := Option.bind_eq_some_iff.1 hc
  obtain rfl := Option.some.inj hc
  have hsize := length_signedParts_le (KeyPair.signatureAlgorithm_text key) (KeyPair.publicInfo_text h)
    (CertTime.ofNanos?_regular hbefore) (CertTime.ofNanos?_regular hafter) (KeyPair.length_sign?_le h hsign)
  have hguess : KeyPair.guessFormat (encodeSigned key (encodeBody key notBefore notAfter) signature) = none :=
    KeyPair.guessFormat_write_ne (by decide : Der.Strict.sequenceTag ≠ 2)
      (Nat.lt_of_le_of_lt hsize (by decide))
  rw [ServerKey.ofDer?, KeyPair.ofDer?, hguess]
  rfl

namespace ServerIdentity

variable {id : ServerIdentity} {paths : IdentityPaths} {files : Files} {w w' : World}

theorem key_not_held (h : ServerKey.ofDer? id.cert.der = none) (hread : files.read paths.keyPath = .ok id.cert.toPem) :
    (Held.of paths files).key = none := by
  have hpem : Pem.Envelope.read id.cert.toPem = .ok id.cert.der := by
    rw [Certificate.toPem, Pem.block_eq]
    exact Pem.Envelope.read_openBlock (Pem.Label.text_plain .certificate) (by decide) id.cert.der _
  rw [Held.of, ServerKey.toOption_readFile, Files.content?_eq_some.2 hread, Option.bind_some, ServerKey.ofText?,
    ServerKey.readPem, hpem]
  simp only [h]
  split <;> rfl

theorem ofDer?_fresh {now : Int} {randoms : List Nat} (h : fresh? now randoms = some id) :
    ServerKey.ofDer? id.cert.der = none := by
  rw [fresh?] at h
  cases hexec : exec generate ⟨.emptyAt [], now, randoms, [], []⟩ with
  | mk result w' =>
      rw [hexec] at h
      cases result with
      | error e => cases h
      | ok found =>
          obtain rfl := Option.some.inj h
          obtain ⟨key, w₁, hkey, hexec⟩ := exec_bind_eq_ok hexec
          obtain ⟨cert, w₂, hcert, hexec⟩ := exec_bind_eq_ok hexec
          obtain rfl := Except.ok.inj (Prod.mk.inj hexec).1
          obtain ⟨nonce, _, hbuild, _⟩ := Certificate.generate_ok hcert
          exact Certificate.ofDer?_build? (ServerKey.Made.generated hkey).usable hbuild

theorem loadOrGenerate_cases (h : exec (loadOrGenerate paths) w = (.ok id, w')) :
    (Held.of paths w.files).identity? = some id ∧ w'.files = w.files ∨
      (Held.of paths w.files).identity? = none ∧ fresh? w.now w.randoms = some id ∧
        ∃ w₁, exec (id.persist paths) w = (.ok (), w₁) ∧ w'.files = w₁.files := by
  have hresult := congrArg Prod.fst h
  cases hload : (exec (load paths) w).1 with
  | ok found =>
      obtain ⟨htaken, hfiles⟩ := loadOrGenerate_loaded hload
      rw [h] at hfiles
      obtain rfl := Except.ok.inj (htaken.symm.trans hresult)
      exact .inl ⟨(load_eq_ok w).1 hload, hfiles⟩
  | error fault =>
      obtain ⟨hfresh, hpersist, hfiles⟩ := loadOrGenerate_made hload hresult
      rw [h] at hfiles
      exact .inr ⟨load_eq_error hload, hfresh, _, Prod.ext hpersist rfl, hfiles⟩

/-- Whoever starts with these files loads the identity, makes no other, and leaves the files as they are. -/
def Kept (paths : IdentityPaths) (id : ServerIdentity) (files : Files) : Prop :=
  ∀ v : World, v.files = files →
    (exec (load paths) v).1 = .ok id ∧ (exec (loadOrGenerate paths) v).1 = .ok id ∧
      (exec (loadOrGenerate paths) v).2.files = files

theorem kept_iff_held : Kept paths id files ↔ (Held.of paths files).identity? = some id := by
  constructor
  · intro hkept
    exact (load_eq_ok ⟨files, 0, [], [], []⟩).1 (hkept _ rfl).1
  · rintro hheld v rfl
    have hload := exec_loadOrGenerate paths v
    rw [hheld] at hload
    obtain ⟨v', ⟨log, rfl⟩, hexec⟩ := hload
    rw [hexec]
    exact ⟨(load_eq_ok v).2 hheld, rfl, rfl⟩

/-- An identity is kept unless it was made anew for two paths that lead to one file. Then there is nothing to load,
and each later start that succeeds makes another one. -/
theorem loadOrGenerate_kept_iff (h : exec (loadOrGenerate paths) w = (.ok id, w')) :
    (Kept paths id w'.files ↔ (exec (load paths) w).1 = .ok id ∨ w.files.Apart paths.keyPath paths.certPath) ∧
      (¬Kept paths id w'.files → ∀ v : World, v.files = w'.files →
        (exec (load paths) v).1.toOption = none ∧
          ∀ next v', exec (loadOrGenerate paths) v = (.ok next, v') → fresh? v.now v.randoms = some next) := by
  rw [kept_iff_held, load_eq_ok]
  rcases loadOrGenerate_cases h with ⟨hheld, hfiles⟩ | ⟨hheld, hfresh, w₁, hpersist, hfiles⟩
  · rw [hfiles, hheld]
    exact ⟨⟨fun _ => .inl rfl, fun _ => rfl⟩, fun hlost => absurd rfl hlost⟩
  · -- What was written is found again, except for a key that the certificate was written over.
    obtain ⟨hcert, hapart, hjoined⟩ := read_persist hpersist
    rw [← hfiles] at hcert hapart hjoined
    obtain ⟨⟨hmadeKey, hmadeCert⟩, _, _⟩ := fresh?_spec hfresh
    have hkept : w.files.Apart paths.keyPath paths.certPath → (Held.of paths w'.files).identity? = some id :=
      fun h => Held.identity?_eq_some.2 ⟨key_held hmadeKey (hapart h), cert_held hmadeCert hcert⟩
    have hlost : ¬w.files.Apart paths.keyPath paths.certPath → (Held.of paths w'.files).identity? = none := by
      intro h
      rw [Held.identity?, key_not_held (ofDer?_fresh hfresh) (hjoined h)]
      rfl
    refine ⟨⟨?_, ?_⟩, ?_⟩
    · intro hsome
      right
      by_contra h
      rw [hlost h] at hsome
      cases hsome
    · rintro (hloaded | h)
      · rw [hheld] at hloaded
        cases hloaded
      · exact hkept h
    · intro hnot v hv
      have hnone := hlost fun h => hnot (hkept h)
      rw [← hv] at hnone
      refine ⟨(exec_load paths v).1.trans hnone, ?_⟩
      intro next v' hnext
      rcases loadOrGenerate_cases hnext with ⟨hsome, _⟩ | ⟨_, hfresh, _⟩
      · rw [hnone] at hsome
        cases hsome
      · exact hfresh

def onePath : IdentityPaths := ⟨"id.pem", "id.pem"⟩

def emptyStart : World :=
  ⟨.emptyAt [], 0, [2 ^ 1024 - 105, 2 ^ 1024 - 179], [], []⟩

theorem loadOrGenerate_emptyStart :
    (exec (loadOrGenerate onePath) emptyStart).1.toOption.isSome = true := by
  decide +kernel

theorem loadOrGenerate_kept_iff_onePath :
    ∃ id w', exec (loadOrGenerate onePath) emptyStart = (.ok id, w') ∧ ¬Kept onePath id w'.files ∧
      ∀ v : World, v.files = w'.files → (exec (load onePath) v).1.toOption = none := by
  have hok := loadOrGenerate_emptyStart
  cases hexec : exec (loadOrGenerate onePath) emptyStart with
  | mk result w' =>
      rw [hexec] at hok
      cases result with
      | error e => cases hok
      | ok id =>
          obtain ⟨hkept, hlost⟩ := loadOrGenerate_kept_iff hexec
          have hnot : ¬Kept onePath id w'.files := by
            rw [hkept]
            rintro (hload | hapart)
            · have hnothing : (exec (load onePath) emptyStart).1.toOption = none := by decide +kernel
              rw [hload] at hnothing
              cases hnothing
            · have hresolve : emptyStart.files.resolve "id.pem" = .ok ["id.pem"] := by decide +kernel
              exact hapart ["id.pem"] hresolve hresolve
          exact ⟨id, w', rfl, hnot, fun v hv => (hlost hnot v hv).1⟩

end ServerIdentity
end PairedTls
