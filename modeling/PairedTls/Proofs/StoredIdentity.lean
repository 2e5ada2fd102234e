import PairedTls.Program
import PairedTls.Proofs.WrittenIdentity

namespace PairedTls

open Act

def Held.identity? (held : Held) : Option ServerIdentity := do
  let key ← held.key
  let cert ← held.cert
  return ⟨key, cert⟩

def Held.next (held : Held) (a : Option Attempt) : Held :=
  a.elim held held.after

def Held.All (P : ServerIdentity → Prop) (held : Held) : Prop :=
  ∀ id, held.identity? = some id → P id

namespace ServerIdentity

def Made (id : ServerIdentity) : Prop :=
  id.key.Made ∧ id.cert.Made

/-- The public key in the certificate is that of the private key. -/
def Matching (id : ServerIdentity) : Prop :=
  ∃ f, id.cert.fields = .ok f ∧ f.keyInfo.raw = id.key.pair.publicInfo

/-- The configuration of a listener can be built from it. -/
def Accepted (id : ServerIdentity) : Prop :=
  ∀ auth session, ∃ config, TlsConfig.build (TlsSettings.ofIdentity id auth) session = .ok config

variable {id : ServerIdentity} {paths : IdentityPaths} {w w' : World} {e : IdentityError}

def fresh? (now : Int) (randoms : List Nat) : Option ServerIdentity :=
  (exec generate ⟨.emptyAt [], now, randoms, [], []⟩).1.toOption

theorem exec_generate (w : World) :
    (exec generate w).1.toOption = fresh? w.now w.randoms ∧ (exec generate w).2.files = w.files ∧
      (exec generate w).2.writeFaults = w.writeFaults := by
  simp only [fresh?, generate, exec_bind, ServerKey.exec_generate]
  cases ServerKey.draw? w.randoms with
  | none => exact ⟨rfl, rfl, rfl⟩
  | some found =>
      obtain ⟨k, rest⟩ := found
      simp only [Certificate.exec_generate]
      cases Certificate.build? (ServerKey.ofRsa k).pair w.now
        (Certificate.drawNonce (ServerKey.ofRsa k).pair rest).1 with
      | none => exact ⟨rfl, rfl, rfl⟩
      | some c => exact ⟨rfl, rfl, rfl⟩

theorem accepted_ofRsa {k : Rsa.PrivateKey} {cert : Certificate} (hk : k.usable = true)
    (hleaf : Leaf.ofDer cert.der = .ok ⟨(KeyPair.rsa k).publicContent⟩) : Accepted ⟨ServerKey.ofRsa k, cert⟩ := by
  intro auth session
  have hformat : KeyPair.ofFormat? .pkcs8 (ServerKey.ofRsa k).der = some (.rsa k) := KeyPair.ofFormat?_encodeRsa hk
  have hmatches : TlsConfig.matchesKey [cert.der] (.rsa k) = true := by
    simp only [TlsConfig.matchesKey, hleaf, KeyPair.publicInfo_eq]
    exact beq_self_eq_true _
  simp only [TlsConfig.build, TlsSettings.ofIdentity, ServerKey.privateKeyDer, hformat, hmatches, if_true]
  exact ⟨_, rfl⟩

theorem generate_ok (h : exec generate w = (.ok id, w')) :
    id.Made ∧ id.Matching ∧ id.Accepted := by
  obtain ⟨key, w₁, hkey, h⟩ := exec_bind_eq_ok h
  obtain ⟨cert, w₂, hcert, h⟩ := exec_bind_eq_ok h
  obtain rfl := Except.ok.inj (Prod.mk.inj h).1
  have hmade := ServerKey.Made.generated hkey
  obtain ⟨k, hk, rfl, _⟩ := ServerKey.generate_ok hkey
  obtain ⟨nonce, _, hbuild, _⟩ := Certificate.generate_ok hcert
  obtain ⟨⟨f, hf, hraw⟩, hleaf⟩ := Certificate.build?_spec hmade.usable hbuild
  refine ⟨⟨hmade, .generated hmade hcert⟩, ⟨f, ?_, hraw⟩, accepted_ofRsa hk hleaf⟩
  rw [Certificate.fields, hf]

theorem generate_error (h : exec generate w = (.error e, w')) : e = .keyGeneration ∨ e = .signing := by
  rw [generate, exec_bind, ServerKey.exec_generate] at h
  cases hdraw : ServerKey.draw? w.randoms with
  | none =>
      rw [hdraw] at h
      exact .inl (Except.error.inj (Prod.mk.inj h).1).symm
  | some found =>
      obtain ⟨k, rest⟩ := found
      rw [hdraw] at h
      simp only [exec_bind, Certificate.exec_generate] at h
      split at h
      · next heq =>
          split at heq
          · cases h
          · cases heq
      · next heq =>
          split at heq
          · cases heq
          · exact .inr ((Except.error.inj (Prod.mk.inj heq).1).trans (Except.error.inj (Prod.mk.inj h).1)).symm

theorem fresh?_spec {now : Int} {randoms : List Nat} (h : fresh? now randoms = some id) :
    id.Made ∧ id.Matching ∧ id.Accepted := by
  rw [fresh?] at h
  cases hexec : exec generate ⟨.emptyAt [], now, randoms, [], []⟩ with
  | mk result w' =>
      rw [hexec] at h
      cases result with
      | error e => cases h
      | ok found =>
          obtain rfl := Option.some.inj h
          exact generate_ok hexec

theorem exec_load (paths : IdentityPaths) (w : World) :
    (exec (load paths) w).1.toOption = (Held.of paths w.files).identity? ∧ OnlyLogged w (exec (load paths) w).2 := by
  obtain ⟨hkey, hkeyLog⟩ := ServerKey.exec_ofFile paths.keyPath w
  rw [load, exec_bind, Held.of, Held.identity?, ← hkey]
  cases hexec : exec (ServerKey.ofFile paths.keyPath) w with
  | mk result w₁ =>
      rw [hexec] at hkeyLog
      cases result with
      | error e => exact ⟨rfl, hkeyLog⟩
      | ok key =>
          obtain ⟨hcert, hcertLog⟩ := Certificate.exec_ofFile paths.certPath w₁
          obtain ⟨log, rfl⟩ := hkeyLog
          simp only [exec_bind]
          rw [← hcert]
          cases hexec' : exec (Certificate.ofFile paths.certPath) { w with log := log } with
          | mk result w₂ =>
              rw [hexec'] at hcertLog
              obtain ⟨log', rfl⟩ := hcertLog
              cases result with
              | error e => exact ⟨rfl, log', rfl⟩
              | ok cert => exact ⟨rfl, log', rfl⟩

theorem present_of_identity? {files : Files} (h : (Held.of paths files).identity? = some id) :
    paths.present files = true := by
  obtain ⟨key, hkey, h⟩ := Option.bind_eq_some_iff.1 h
  obtain ⟨cert, hcert, _⟩ := Option.bind_eq_some_iff.1 h
  simp only [Held.of, ServerKey.toOption_readFile, Certificate.toOption_readFile] at hkey hcert
  obtain ⟨keyText, hkeyText, _⟩ := Option.bind_eq_some_iff.1 hkey
  obtain ⟨certText, hcertText, _⟩ := Option.bind_eq_some_iff.1 hcert
  rw [IdentityPaths.present, Files.present_of_read (Files.content?_eq_some.1 hkeyText),
    Files.present_of_read (Files.content?_eq_some.1 hcertText)]
  rfl

theorem exec_tryLoad (paths : IdentityPaths) (w : World) :
    exec (tryLoad paths) w = (.ok (exec (load paths) w).1, (exec (load paths) w).2) := by
  rw [tryLoad, exec_tryCatch, exec_bind]
  cases exec (load paths) w with
  | mk result w' => cases result <;> rfl

/-- A pair on disk is taken as it is; in all other cases there is a new one. -/
theorem exec_loadOrGenerate (paths : IdentityPaths) (w : World) :
    match (Held.of paths w.files).identity? with
    | some id => ∃ w', OnlyLogged w w' ∧ exec (loadOrGenerate paths) w = (.ok id, w')
    | none => ∃ w', OnlyLogged w w' ∧ exec (loadOrGenerate paths) w = exec (regenerate paths) w' := by
  obtain ⟨hload, hlog⟩ := exec_load paths w
  have htry := exec_tryLoad paths w
  rw [loadOrGenerate, exec_bind, exec_get]
  simp only
  cases hpresent : paths.present w.files with
  | false =>
      cases hheld : (Held.of paths w.files).identity? with
      | some id => rw [present_of_identity? hheld] at hpresent; cases hpresent
      | none =>
          simp only [Bool.false_eq_true, if_false, exec_bind, exec_log]
          exact ⟨_, onlyLogged_noted _ w, rfl⟩
  | true =>
      simp only [if_true]
      cases hexec : exec (load paths) w with
      | mk result w' =>
          rw [hexec] at hload hlog htry
          cases result with
          | ok id =>
              rw [← hload]
              simp only [Except.toOption, exec_bind_ok htry, exec_bind, exec_log]
              exact ⟨_, hlog.trans (onlyLogged_noted _ w'), rfl⟩
          | error e =>
              rw [← hload]
              simp only [Except.toOption, exec_bind_ok htry, exec_bind, exec_log]
              exact ⟨_, hlog.trans (onlyLogged_noted _ w'), rfl⟩

theorem exec_made (finish : ServerIdentity → Act IdentityError ServerIdentity)
    (hfinish : ∀ id w, (exec (finish id) w).1 = .ok id ∧ OnlyLogged w (exec (finish id) w).2)
    (paths : IdentityPaths) (w : World) :
    let made : Act IdentityError ServerIdentity := do
      let id ← generate
      id.persist paths
      finish id
    match fresh? w.now w.randoms with
    | none =>
      (∃ e, (e = .keyGeneration ∨ e = .signing) ∧ (exec made w).1 = .error e) ∧ (exec made w).2.files = w.files
    | some id =>
      (exec made w).1 = (exec (id.persist paths) w).1.map (fun _ => id) ∧
        (exec made w).2.files = (exec (id.persist paths) w).2.files := by
  intro made
  obtain ⟨hfresh, hfiles, hfaults⟩ := exec_generate w
  simp only [made, exec_bind]
  rw [← hfresh]
  cases hgenerate : exec generate w with
  | mk result w₁ =>
      rw [hgenerate] at hfiles hfaults
      cases result with
      | error e => exact ⟨⟨e, generate_error hgenerate, rfl⟩, hfiles⟩
      | ok id =>
          obtain ⟨hresult, hleft⟩ := persist_congr hfiles hfaults id paths
          simp only [Except.toOption]
          rw [← hresult, ← hleft]
          cases exec (id.persist paths) w₁ with
          | mk result w₂ =>
              cases result with
              | error e => exact ⟨rfl, rfl⟩
              | ok u =>
                  obtain ⟨hok, log, hlog⟩ := hfinish id w₂
                  have hkept : (exec (finish id) w₂).2.files = w₂.files := by rw [hlog]
                  exact ⟨hok, hkept⟩

theorem held_made (finish : ServerIdentity → Act IdentityError ServerIdentity)
    (hfinish : ∀ id w, (exec (finish id) w).1 = .ok id ∧ OnlyLogged w (exec (finish id) w).2)
    (hapart : w.files.Apart paths.keyPath paths.certPath) :
    let made : Act IdentityError ServerIdentity := do
      let id ← generate
      id.persist paths
      finish id
    Held.of paths (exec made w).2.files =
        (Held.of paths w.files).next ((fresh? w.now w.randoms).map (·.attempt paths w.files w.writeFaults)) ∧
      (exec made w).2.files.Apart paths.keyPath paths.certPath ∧
      ∀ id, (exec made w).1 = .ok id → fresh? w.now w.randoms = some id := by
  intro made
  have hmade := exec_made finish hfinish paths w
  cases hfresh : fresh? w.now w.randoms with
  | none =>
      rw [hfresh] at hmade
      obtain ⟨⟨e, _, herror⟩, hfiles⟩ := hmade
      rw [herror, hfiles]
      exact ⟨rfl, hapart, nofun⟩
  | some id =>
      rw [hfresh] at hmade
      obtain ⟨hresult, hfiles⟩ := hmade
      obtain ⟨⟨hkey, hcert⟩, _, _⟩ := fresh?_spec hfresh
      rw [hresult, hfiles]
      refine ⟨held_persist hkey.ofDer?_der hcert.ofDer_der hapart, apart_persist.2 hapart, ?_⟩
      intro found hfound
      cases hpersist : (exec (id.persist paths) w).1 with
      | error e => rw [hpersist] at hfound; cases hfound
      | ok u =>
          rw [hpersist] at hfound
          exact congrArg some (Except.ok.inj hfound)

theorem exec_regenerate (paths : IdentityPaths) (w : World) :
    match fresh? w.now w.randoms with
    | none =>
      (∃ e, (e = .keyGeneration ∨ e = .signing) ∧ (exec (regenerate paths) w).1 = .error e) ∧
        (exec (regenerate paths) w).2.files = w.files
    | some id =>
      (exec (regenerate paths) w).1 = (exec (id.persist paths) w).1.map (fun _ => id) ∧
        (exec (regenerate paths) w).2.files = (exec (id.persist paths) w).2.files :=
  exec_made (fun id => do
    Act.log ⟨.info, target, "Generated new server identity", [("fingerprint", .shown id.cert.fingerprint)]⟩
    return id) (fun _ w => ⟨rfl, onlyLogged_noted _ w⟩) paths w

theorem regenerate_spec (hapart : w.files.Apart paths.keyPath paths.certPath) :
    Held.of paths (exec (regenerate paths) w).2.files =
        (Held.of paths w.files).next ((fresh? w.now w.randoms).map (·.attempt paths w.files w.writeFaults)) ∧
      (exec (regenerate paths) w).2.files.Apart paths.keyPath paths.certPath ∧
      ∀ id, (exec (regenerate paths) w).1 = .ok id → fresh? w.now w.randoms = some id := by
  refine held_made (fun id => do
    Act.log ⟨.info, target, "Generated new server identity", [("fingerprint", .shown id.cert.fingerprint)]⟩
    return id) ?_ hapart
  intro id w
  exact ⟨rfl, onlyLogged_noted _ w⟩

theorem generateAt_spec (hapart : w.files.Apart paths.keyPath paths.certPath) :
    Held.of paths (exec (Program.generateAt paths) w).2.files =
        (Held.of paths w.files).next ((fresh? w.now w.randoms).map (·.attempt paths w.files w.writeFaults)) ∧
      (exec (Program.generateAt paths) w).2.files.Apart paths.keyPath paths.certPath := by
  have hmade := held_made pure (fun _ w => ⟨rfl, onlyLogged_refl w⟩) hapart
  exact ⟨hmade.1, hmade.2.1⟩

end ServerIdentity
end PairedTls
