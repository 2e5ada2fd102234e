import PairedTls.Proofs.PemDocument
import PairedTls.Proofs.SelfSigned

namespace PairedTls

open Act

namespace Certificate

def readPem (text : Bytes) : Except IdentityError Certificate :=
  match Pem.first Pem.certificate? (Pem.itemsOfText text) with
  | .ok der => ofDer der
  | .error fault => .error (.certificatePem fault)

def readFile (files : Files) (path : String) : Except IdentityError Certificate := do
  let text ← (fileText files path).mapError (.unreadable path)
  readPem text

theorem ofDer_eq (der : Bytes) :
    ofDer der = if (CertFields.decode? der).isSome then .ok ⟨der⟩ else .error .certificate := by
  rw [ofDer, fields]
  cases CertFields.decode? der <;> rfl

theorem exec_ofPem (text : Bytes) (w : World) :
    exec (ofPem text) w =
      match Pem.first Pem.certificate? (Pem.itemsOfText text) with
      | .ok der => (ofDer der, w)
      | .error fault => (.error (.certificatePem fault),
          noted ⟨.error, target, "Unable to decode PEM certificate", [("error", .shown fault.message)]⟩ w) := by
  rw [ofPem]
  cases Pem.first Pem.certificate? (Pem.itemsOfText text) with
  | ok der => exact exec_ofExcept (ofDer der) w
  | error fault => rfl

theorem exec_ofPem_spec (text : Bytes) (w : World) :
    (exec (ofPem text) w).1 = readPem text ∧ OnlyLogged w (exec (ofPem text) w).2 := by
  rw [exec_ofPem, readPem]
  cases Pem.first Pem.certificate? (Pem.itemsOfText text) with
  | ok der => exact ⟨rfl, onlyLogged_refl w⟩
  | error fault => exact ⟨rfl, onlyLogged_noted _ w⟩

end Certificate

section ReadFile

variable {α : Type} {read : Bytes → Act IdentityError α} {result : Bytes → Except IdentityError α}

theorem exec_throughFile
    (hread : ∀ text w, (exec (read text) w).1 = result text ∧ OnlyLogged w (exec (read text) w).2)
    (unread : FileFault → Log.Event) (spoilt : Log.Event) (path : String) (w : World) :
    (exec (Certificate.throughFile read unread spoilt path) w).1 =
        ((Certificate.fileText w.files path).mapError (.unreadable path)).bind result ∧
      OnlyLogged w (exec (Certificate.throughFile read unread spoilt path) w).2 := by
  rw [Certificate.throughFile, exec_bind_ok (exec_get w)]
  cases Certificate.fileText w.files path with
  | error fault => exact ⟨rfl, onlyLogged_noted _ w⟩
  | ok text =>
      obtain ⟨hresult, hlog⟩ := hread text w
      simp only [exec_tryCatch, Except.mapError, Except.bind, ← hresult]
      cases hreads : exec (read text) w with
      | mk outcome w' =>
          rw [hreads] at hlog
          cases outcome with
          | error e => exact ⟨rfl, hlog.trans (onlyLogged_noted spoilt w')⟩
          | ok x => exact ⟨rfl, hlog⟩

end ReadFile

theorem Certificate.exec_ofFile (path : String) (w : World) :
    (exec (ofFile path) w).1 = readFile w.files path ∧ OnlyLogged w (exec (ofFile path) w).2 :=
  exec_throughFile exec_ofPem_spec _ _ path w

namespace ServerKey

def readFile (files : Files) (path : String) : Except IdentityError ServerKey := do
  let text ← (Certificate.fileText files path).mapError (.unreadable path)
  (readPem text).mapError .key

theorem exec_ofPem (text : Bytes) (w : World) :
    (exec (ofPem text) w).1 = (readPem text).mapError .key ∧ OnlyLogged w (exec (ofPem text) w).2 := by
  rw [ofPem]
  cases readPem text with
  | ok key => exact ⟨rfl, onlyLogged_refl w⟩
  | error fault => exact ⟨rfl, onlyLogged_noted _ w⟩

theorem exec_ofFile (path : String) (w : World) :
    (exec (ofFile path) w).1 = readFile w.files path ∧ OnlyLogged w (exec (ofFile path) w).2 :=
  exec_throughFile exec_ofPem _ _ path w

def draw? (randoms : List Nat) : Option (Rsa.PrivateKey × List Nat) :=
  (nextPrime? randoms).bind fun found => complete? found.1 found.2

theorem exec_generate (w : World) :
    exec generate w =
      match draw? w.randoms with
      | some (key, rest) => (.ok (ofRsa key), { w with randoms := rest })
      | none =>
        (.error .keyGeneration, noted ⟨.error, target, "Unable to generate 2048-bit RSA key",
          [("error", .shown "no suitable primes")]⟩ w) := by
  rw [generate, exec_bind, exec_get]
  simp only [draw?]
  cases (nextPrime? w.randoms).bind fun found => complete? found.1 found.2 <;> rfl

inductive Made : ServerKey → Prop
  | fromDer {der : Bytes} {key : ServerKey} (h : ofDer? der = some key) : Made key
  | fromPem {text : Bytes} {key : ServerKey} {w w' : World} (h : exec (ofPem text) w = (.ok key, w')) : Made key
  | fromFile {path : String} {key : ServerKey} {w w' : World} (h : exec (ofFile path) w = (.ok key, w')) : Made key
  | generated {key : ServerKey} {w w' : World} (h : exec generate w = (.ok key, w')) : Made key

theorem ofDer?_der {der : Bytes} {key : ServerKey} (h : ofDer? der = some key) : ofDer? key.der = some key := by
  obtain ⟨pair, hpair, rfl⟩ := Option.map_eq_some_iff.1 h
  exact h

theorem ofDer?_ofRsa {k : Rsa.PrivateKey} (h : k.usable = true) : ofDer? (ofRsa k).der = some (ofRsa k) := by
  rw [ofDer?, ofRsa, KeyPair.ofDer?_encodeRsa h]
  rfl

theorem usable_of_ofPrimes? {p q e : Nat} {k : Rsa.PrivateKey} (h : Rsa.PrivateKey.ofPrimes? p q e = some k) :
    k.usable = true := by
  obtain ⟨d, _, h⟩ := Option.bind_eq_some_iff.1 h
  obtain ⟨c, _, h⟩ := Option.bind_eq_some_iff.1 h
  obtain ⟨hk, h⟩ := Option.ite_none_right_eq_some.1 h
  obtain rfl := Option.some.inj h
  exact hk

theorem usable_of_complete? {p : Nat} {qs rest : List Nat} {k : Rsa.PrivateKey} (h : complete? p qs = some (k, rest)) :
    k.usable = true := by
  induction qs with
  | nil => cases h
  | cons q qs ih =>
      rw [complete?] at h
      split at h
      · next key hkey =>
          split at hkey
          · split at h
            · obtain ⟨rfl, _⟩ := Prod.mk.inj (Option.some.inj h)
              exact usable_of_ofPrimes? hkey
            · exact ih h
          · cases hkey
      · exact ih h

theorem generate_ok {key : ServerKey} {w w' : World} (h : exec generate w = (.ok key, w')) :
    ∃ k : Rsa.PrivateKey, k.usable = true ∧ key = ofRsa k ∧ ∃ rest, w' = { w with randoms := rest } := by
  rw [exec_generate] at h
  cases hk : draw? w.randoms with
  | none => rw [hk] at h; cases h
  | some found =>
      obtain ⟨k, rest⟩ := found
      rw [hk] at h
      obtain ⟨hkey, hw⟩ := Prod.mk.inj h
      obtain ⟨⟨p, qs⟩, _, hcomplete⟩ := Option.bind_eq_some_iff.1 hk
      exact ⟨k, usable_of_complete? hcomplete, (Except.ok.inj hkey).symm, rest, hw.symm⟩

theorem of_readPem {text : Bytes} {key : ServerKey} (h : (readPem text).mapError IdentityError.key = .ok key) :
    Pem.Envelope.read text = .ok key.der ∧ ofDer? key.der = some key := by
  rw [readPem] at h
  cases hread : Pem.Envelope.read text with
  | error fault => rw [hread] at h; cases h
  | ok der =>
      rw [hread] at h
      cases hkey : ofDer? der with
      | none => simp only [hkey] at h; cases h
      | some found =>
          simp only [hkey] at h
          obtain rfl := Except.ok.inj h
          obtain ⟨pair, -, rfl⟩ := Option.map_eq_some_iff.1 hkey
          exact ⟨rfl, hkey⟩

theorem Made.ofDer?_der {key : ServerKey} (h : key.Made) : ofDer? key.der = some key := by
  cases h with
  | fromDer h => exact ServerKey.ofDer?_der h
  | @fromPem text _ w w' h =>
      have hread := (exec_ofPem text w).1
      rw [h] at hread
      exact (of_readPem hread.symm).2
  | @fromFile path _ w w' h =>
      have hread := (exec_ofFile path w).1
      rw [h, readFile] at hread
      cases htext : Certificate.fileText w.files path with
      | error fault => rw [htext] at hread; cases hread
      | ok text => rw [htext] at hread; exact (of_readPem hread.symm).2
  | generated h =>
      obtain ⟨k, hk, rfl, _⟩ := generate_ok h
      exact ofDer?_ofRsa hk

theorem Made.usable {key : ServerKey} (h : key.Made) : key.pair.Usable := by
  obtain ⟨pair, hpair, hkey⟩ := Option.map_eq_some_iff.1 h.ofDer?_der
  rw [← hkey]
  exact KeyPair.usable_of_ofDer? hpair

end ServerKey

namespace Certificate

inductive Made : Certificate → Prop
  | fromDer {der : Bytes} {c : Certificate} (h : ofDer der = .ok c) : Made c
  | fromPem {text : Bytes} {c : Certificate} {w w' : World} (h : exec (ofPem text) w = (.ok c, w')) : Made c
  | fromFile {path : String} {c : Certificate} {w w' : World} (h : exec (ofFile path) w = (.ok c, w')) : Made c
  | generated {key : ServerKey} {c : Certificate} {w w' : World} (hkey : key.Made)
      (h : exec (generate key) w = (.ok c, w')) : Made c

theorem ofDer_self {der : Bytes} {c : Certificate} (h : ofDer der = .ok c) : ofDer c.der = .ok c := by
  rw [ofDer_eq] at h
  split at h
  · next hdecode =>
      obtain rfl := Except.ok.inj h
      rw [ofDer_eq, if_pos hdecode]
  · cases h

theorem ofDer_of_readPem {text : Bytes} {c : Certificate} (h : readPem text = .ok c) : ofDer c.der = .ok c := by
  rw [readPem] at h
  split at h
  · exact ofDer_self h
  · cases h

theorem exec_generate (key : ServerKey) (w : World) :
    exec (generate key) w =
      match build? key.pair w.now (drawNonce key.pair w.randoms).1 with
      | some c => (.ok c, { w with randoms := (drawNonce key.pair w.randoms).2 })
      | none => (.error .signing, noted ⟨.error, target, "Error signing certificate",
          [("error", .shown "the key does not sign")]⟩ { w with randoms := (drawNonce key.pair w.randoms).2 }) := by
  rw [generate, exec_bind, exec_get]
  simp only
  cases build? key.pair w.now (drawNonce key.pair w.randoms).1 <;> rfl

theorem generate_ok {key : ServerKey} {c : Certificate} {w w' : World} (h : exec (generate key) w = (.ok c, w')) :
    ∃ nonce rest, build? key.pair w.now nonce = some c ∧ w' = { w with randoms := rest } := by
  rw [exec_generate] at h
  split at h
  · next found hfound =>
      obtain ⟨hc, hw⟩ := Prod.mk.inj h
      obtain rfl := Except.ok.inj hc
      exact ⟨_, _, hfound, hw.symm⟩
  · cases h

theorem Made.ofDer_der {c : Certificate} (h : c.Made) : ofDer c.der = .ok c := by
  cases h with
  | fromDer h => exact ofDer_self h
  | @fromPem text _ w w' h =>
      have hread := (exec_ofPem_spec text w).1
      rw [h] at hread
      exact ofDer_of_readPem hread.symm
  | @fromFile path _ w w' h =>
      have hread := (exec_ofFile path w).1
      rw [h, readFile] at hread
      cases htext : fileText w.files path with
      | error fault => rw [htext] at hread; cases hread
      | ok text => rw [htext] at hread; exact ofDer_of_readPem hread.symm
  | generated hkey h =>
      obtain ⟨nonce, rest, hc, _⟩ := generate_ok h
      obtain ⟨f, hf, _⟩ := (build?_spec hkey.usable hc).1
      rw [ofDer_eq, hf]
      rfl

/-- A certificate of the public half of a key, under an empty signature. -/
def unsigned (key : KeyPair) : Certificate :=
  let day : CertTime := ⟨2000, 1, 1, 0, 0, 0, 0, 0⟩
  ⟨encodeSigned key (encodeBody key day day) []⟩

theorem regular_firstDay : CertTime.Regular ⟨2000, 1, 1, 0, 0, 0, 0, 0⟩ :=
  ⟨by decide, by decide, by decide, by decide, by decide, by decide, rfl, rfl⟩

theorem decode?_unsigned {key : KeyPair} (h : key.Usable) :
    ∃ f, CertFields.decode? (unsigned key).der = some f ∧ f.keyInfo.raw = key.publicInfo :=
  ⟨_, decode?_encodeSigned h regular_firstDay regular_firstDay (Nat.zero_le _), rfl⟩

theorem made_unsigned {key : KeyPair} (h : key.Usable) : (unsigned key).Made := by
  obtain ⟨f, hf, _⟩ := decode?_unsigned h
  have hder : ofDer (unsigned key).der = .ok (unsigned key) := by
    rw [ofDer_eq, hf]
    rfl
  exact .fromDer hder

end Certificate
end PairedTls
