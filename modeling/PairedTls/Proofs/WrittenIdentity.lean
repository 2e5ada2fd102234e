import PairedTls.Identity.Store
import PairedTls.Proofs.FileWrites
import PairedTls.Proofs.MadeCertificate
import PairedTls.Proofs.PemEnvelope

namespace PairedTls

open Act

def Files.Written.left {α : Type} (w : Files.Written) (before : Option α) (a : α) : Option α :=
  match w with
  | .untouched => before
  | .cut => none
  | .whole => some a

def Files.WriteOutcome.error? (path : String) : WriteOutcome → Option IdentityError
  | .written => none
  | .notOpened fault => some (.openForWriting path fault)
  | .stopped fault => some (.writing path fault)

theorem Files.WriteOutcome.error?_eq_none {path : String} {outcome : WriteOutcome} :
    outcome.error? path = none ↔ outcome = .written := by
  cases outcome <;> simp [error?]

theorem Files.bind_content?_write {α : Type} {read : Bytes → Option α} {pem : Bytes} {a : α}
    (h : ∀ n, read (pem.take n) = if n + 1 < pem.length then none else some a) (files : Files) (path : String)
    (fault : Option WriteFault) :
    ((files.write path pem fault).1.content? path).bind read =
      (files.written path pem fault).left ((files.content? path).bind read) a := by
  have hcontent := files.content?_write path pem fault
  cases hwritten : files.written path pem fault with
  | untouched =>
      rw [hwritten] at hcontent
      simp only at hcontent
      rw [hcontent]
      rfl
  | cut =>
      rw [hwritten] at hcontent
      obtain ⟨n, hn, hread⟩ := hcontent
      rw [hread, Option.bind_some, h, if_pos hn]
      rfl
  | whole =>
      rw [hwritten] at hcontent
      obtain ⟨n, hn, hread⟩ := hcontent
      rw [hread, Option.bind_some, h, if_neg (by omega)]
      rfl

theorem Pem.block_lt (label : Label) (der : Bytes) : ∀ b ∈ block label.text der, b < 0x80 := by
  have hbegin : beginMark.all (· < 0x80) = true := rfl
  have hend : endMark.all (· < 0x80) = true := rfl
  have hdashes : dashes.all (· < 0x80) = true := rfl
  have hlabel := label.text_plain
  have hnewline : newline < 0x80 := by decide
  intro b hb
  simp only [block_eq, openBlock, beginLine, endLine, List.mem_append, List.mem_cons, List.not_mem_nil, or_false] at hb
  rcases hb with (((hb | hb) | hb) | rfl | hb | (hb | hb) | hb) | rfl
  · exact ascii_of_all hbegin b hb
  · exact (hlabel b hb).2
  · exact ascii_of_all hdashes b hb
  · exact hnewline
  · exact bodyText_lt hb
  · exact ascii_of_all hend b hb
  · exact (hlabel b hb).2
  · exact ascii_of_all hdashes b hb
  · exact hnewline

theorem Utf8.isSome_decode?_take {text : Bytes} (h : ∀ b ∈ text, b < 0x80) (n : Nat) :
    (decode? (text.take n)).isSome = true := by
  rw [decode?_ascii fun b hb => h b (List.mem_of_mem_take hb)]
  rfl

namespace ServerKey

def ofText? (text : Bytes) : Option ServerKey :=
  if (Utf8.decode? text).isSome then (readPem text).toOption else none

theorem toOption_readFile (files : Files) (path : String) :
    (readFile files path).toOption = (files.content? path).bind ofText? := by
  rw [readFile, Certificate.fileText, Files.content?]
  cases files.read path with
  | error fault => rfl
  | ok text =>
      have htext : (Except.ok text : Except FileFault Bytes).toOption.bind ofText? = ofText? text := rfl
      rw [htext, ofText?]
      simp only [bind, Except.bind]
      split_ifs
      · simp only [Except.mapError]
        cases readPem text <;> rfl
      · rfl

theorem ofText?_toPem {key : ServerKey} (h : ofDer? key.der = some key) (n : Nat) :
    ofText? (key.toPem.take n) = if n + 1 < key.toPem.length then none else some key := by
  have hlabel : ∀ b ∈ Pem.privateKeyLabel, b ≠ 45 ∧ b < 0x80 := Pem.Label.text_plain .privateKey
  have hascii : ∀ b ∈ Pem.block Pem.privateKeyLabel key.der, b < 0x80 := Pem.block_lt .privateKey key.der
  rw [ofText?, toPem, if_pos (Utf8.isSome_decode?_take hascii n), readPem]
  by_cases hn : n + 1 < (Pem.block Pem.privateKeyLabel key.der).length
  · -- What is left has too few dashes for both marks.
    have hfew := Pem.dashCount_cut (fun b hb => (hlabel b hb).1) key.der hn
    rw [if_pos hn]
    cases hread : Pem.Envelope.read ((Pem.block Pem.privateKeyLabel key.der).take n) with
    | error fault => rfl
    | ok der =>
        have hmany := Pem.Envelope.dashCount_read hread
        omega
  · have hlength : (Pem.block Pem.privateKeyLabel key.der).length ≤ n + 1 := by omega
    have hread : Pem.Envelope.read ((Pem.block Pem.privateKeyLabel key.der).take n) = .ok key.der := by
      rcases Pem.take_block Pem.privateKeyLabel key.der hlength with htake | htake
      · have hopen := Pem.Envelope.read_openBlock hlabel (by decide) key.der []
        rwa [List.append_nil, ← htake] at hopen
      · rw [htake, Pem.block_eq]
        exact Pem.Envelope.read_openBlock hlabel (by decide) key.der _
    rw [if_neg hn, hread]
    simp only [h]
    rfl

end ServerKey

namespace Certificate

def ofText? (text : Bytes) : Option Certificate :=
  if (Utf8.decode? text).isSome then (readPem text).toOption else none

theorem toOption_readFile (files : Files) (path : String) :
    (readFile files path).toOption = (files.content? path).bind ofText? := by
  rw [readFile, fileText, Files.content?]
  cases files.read path with
  | error fault => rfl
  | ok text =>
      have htext : (Except.ok text : Except FileFault Bytes).toOption.bind ofText? = ofText? text := rfl
      rw [htext, ofText?]
      simp only [bind, Except.bind]
      split_ifs <;> rfl

theorem ofText?_toPem {c : Certificate} (h : ofDer c.der = .ok c) (n : Nat) :
    ofText? (c.toPem.take n) = if n + 1 < c.toPem.length then none else some c := by
  have hlabel : ∀ b ∈ Pem.certificateLabel, b ≠ 45 ∧ b < 0x80 := Pem.Label.text_plain .certificate
  have hascii : ∀ b ∈ Pem.block Pem.certificateLabel c.der, b < 0x80 := Pem.block_lt .certificate c.der
  rw [ofText?, toPem, if_pos (Utf8.isSome_decode?_take hascii n), readPem]
  by_cases hn : n + 1 < (Pem.block Pem.certificateLabel c.der).length
  · -- What is left has too few dashes for both marks.
    have hfew := Pem.dashCount_cut (fun b hb => (hlabel b hb).1) c.der hn
    rw [if_pos hn]
    cases hfirst : Pem.first Pem.certificate? (Pem.itemsOfText ((Pem.block Pem.certificateLabel c.der).take n)) with
    | error fault => rfl
    | ok der =>
        have hmany := Pem.dashCount_itemsOfText hfirst
        omega
  · have hitems := Pem.itemsOfText_take (Pem.Label.text_ok .certificate) (Pem.Label.kindOf?_text .certificate) c.der
      (by omega : (Pem.block Pem.certificateLabel c.der).length ≤ n + 1)
    have hfirst : Pem.first Pem.certificate?
        (Pem.itemsOfText ((Pem.block Pem.certificateLabel c.der).take n)) = .ok c.der := by
      have hlabel : Pem.certificateLabel = Pem.Label.certificate.text := rfl
      rw [hlabel, hitems]
      rfl
    rw [if_neg hn, hfirst]
    simp only [h]
    rfl

end Certificate

def Act.laterFault (w : World) : Option WriteFault :=
  w.writeFaults.tail.head?.getD none

/-- What the two files hold, as far as they can be read. -/
structure Held where
  key : Option ServerKey
  cert : Option Certificate

def Held.of (paths : IdentityPaths) (files : Files) : Held :=
  ⟨(ServerKey.readFile files paths.keyPath).toOption, (Certificate.readFile files paths.certPath).toOption⟩

/-- An attempt to replace the identity on disk, and how far it got. -/
structure Attempt where
  id : ServerIdentity
  key : Files.Written
  cert : Files.Written

def Held.after (held : Held) (a : Attempt) : Held :=
  ⟨a.key.left held.key a.id.key, a.cert.left held.cert a.id.cert⟩

/-- The new key is whole, and a certificate that was there before still is. -/
def Attempt.Torn (a : Attempt) (held : Held) : Prop :=
  a.key = .whole ∧ a.cert = .untouched ∧ held.cert.isSome

namespace ServerIdentity

/-- The certificate is written only once the key is. -/
def attempt (id : ServerIdentity) (paths : IdentityPaths) (files : Files) (faults : List (Option WriteFault)) :
    Attempt where
  id := id
  key := files.written paths.keyPath id.key.toPem (faults.head?.getD none)
  cert :=
    match files.write paths.keyPath id.key.toPem (faults.head?.getD none) with
    | (files, .written) => files.written paths.certPath id.cert.toPem (faults.tail.head?.getD none)
    | _ => .untouched

theorem attempt_ordered (id : ServerIdentity) (paths : IdentityPaths) (files : Files)
    (faults : List (Option WriteFault)) (h : (id.attempt paths files faults).cert ≠ .untouched) :
    (id.attempt paths files faults).key = .whole := by
  unfold attempt Files.written Files.write at *
  cases htarget : files.target paths.keyPath with
  | error e => simp [htarget] at h
  | ok place =>
      cases hfault : faults.head?.getD none with
      | none => rfl
      | some fault => cases fault <;> simp [htarget, hfault] at h

theorem exec_writePem (path : String) (pem : Bytes) (w : World) :
    (exec (writePem path pem) w).2.files = (w.files.write path pem (nextFault w)).1 ∧
      (exec (writePem path pem) w).2.writeFaults = w.writeFaults.tail ∧
      (exec (writePem path pem) w).1 =
        match (w.files.write path pem (nextFault w)).2.error? path with
        | none => .ok ()
        | some e => .error e := by
  rw [writePem, exec_bind, exec_writeFile]
  simp only
  cases (w.files.write path pem (nextFault w)).2 <;> exact ⟨rfl, rfl, rfl⟩

def afterKey (id : ServerIdentity) (paths : IdentityPaths) (w : World) : Files × Files.WriteOutcome :=
  w.files.write paths.keyPath id.key.toPem (nextFault w)

def afterCert (id : ServerIdentity) (paths : IdentityPaths) (w : World) : Files × Files.WriteOutcome :=
  (id.afterKey paths w).1.write paths.certPath id.cert.toPem (laterFault w)

/-- Persisting in its two writes. -/
theorem persist_eq (id : ServerIdentity) (paths : IdentityPaths) (w : World) :
    ((exec (id.persist paths) w).1, (exec (id.persist paths) w).2.files) =
      match (id.afterKey paths w).2.error? paths.keyPath, (id.afterCert paths w).2.error? paths.certPath with
      | some e, _ => (.error e, (id.afterKey paths w).1)
      | none, some e => (.error e, (id.afterCert paths w).1)
      | none, none => (.ok (), (id.afterCert paths w).1) := by
  obtain ⟨hfiles, hfaults, hresult⟩ := exec_writePem paths.keyPath id.key.toPem w
  rw [persist, exec_bind, afterCert, afterKey]
  cases hexec : exec (writePem paths.keyPath id.key.toPem) w with
  | mk result w' =>
      rw [hexec] at hfiles hfaults hresult
      simp only at hfiles hfaults hresult
      cases herror : (w.files.write paths.keyPath id.key.toPem (nextFault w)).2.error? paths.keyPath with
      | some e =>
          rw [herror] at hresult
          rw [hresult, hfiles]
      | none =>
          obtain ⟨hcertFiles, _, hcertResult⟩ := exec_writePem paths.certPath id.cert.toPem w'
          have hlater : nextFault w' = laterFault w := by
            rw [nextFault, hfaults, laterFault]
          rw [hfiles, hlater] at hcertResult hcertFiles
          rw [herror] at hresult
          rw [hresult]
          simp only [hcertResult, hcertFiles]
          cases ((w.files.write paths.keyPath id.key.toPem (nextFault w)).1.write paths.certPath id.cert.toPem
            (laterFault w)).2.error? paths.certPath <;> rfl

theorem files_persist (id : ServerIdentity) (paths : IdentityPaths) (w : World) :
    (exec (id.persist paths) w).2.files =
      match w.files.write paths.keyPath id.key.toPem (nextFault w) with
      | (files, .written) => (files.write paths.certPath id.cert.toPem (w.writeFaults.tail.head?.getD none)).1
      | (files, _) => files := by
  have hpersist := congrArg Prod.snd (id.persist_eq paths w)
  rw [afterCert, afterKey] at hpersist
  cases hwrite : w.files.write paths.keyPath id.key.toPem (nextFault w) with
  | mk files outcome =>
      rw [hwrite] at hpersist
      cases outcome with
      | written =>
          refine hpersist.trans ?_
          cases (files.write paths.certPath id.cert.toPem (laterFault w)).2.error? paths.certPath <;>
            simp only [Files.WriteOutcome.error?] <;> rfl
      | notOpened fault => exact hpersist
      | stopped fault => exact hpersist

theorem persist_congr {v w : World} (hfiles : v.files = w.files) (hfaults : v.writeFaults = w.writeFaults)
    (id : ServerIdentity) (paths : IdentityPaths) :
    (exec (id.persist paths) v).1 = (exec (id.persist paths) w).1 ∧
      (exec (id.persist paths) v).2.files = (exec (id.persist paths) w).2.files := by
  have hkey : id.afterKey paths v = id.afterKey paths w := by
    rw [afterKey, afterKey, nextFault, nextFault, hfiles, hfaults]
  have hcert : id.afterCert paths v = id.afterCert paths w := by
    rw [afterCert, afterCert, laterFault, laterFault, hkey, hfaults]
  have hpersist := id.persist_eq paths v
  rw [hkey, hcert, ← id.persist_eq paths w] at hpersist
  exact Prod.mk.inj hpersist

/-- A process that is stopped between its two writes leaves what it would have left if the second file had not
opened. -/
theorem files_persist_stopped (id : ServerIdentity) (paths : IdentityPaths) (w : World) (fault : Option WriteFault)
    (e : FileFault) :
    (exec (id.persist paths) { w with writeFaults := [fault, some (.atOpen e)] }).2.files =
      (exec (writePem paths.keyPath id.key.toPem) { w with writeFaults := [fault] }).2.files := by
  rw [files_persist, (exec_writePem _ _ _).1]
  simp only [nextFault, List.head?_cons, Option.getD_some, List.tail_cons]
  cases w.files.write paths.keyPath id.key.toPem fault with
  | mk files outcome =>
      cases outcome with
      | written =>
          simp only [Files.write]
          cases files.target paths.certPath <;> rfl
      | notOpened fault => rfl
      | stopped fault => rfl

variable {id : ServerIdentity} {paths : IdentityPaths} {w : World}

theorem held_persist (hkey : ServerKey.ofDer? id.key.der = some id.key)
    (hcert : Certificate.ofDer id.cert.der = .ok id.cert) (hapart : w.files.Apart paths.keyPath paths.certPath) :
    Held.of paths (exec (id.persist paths) w).2.files =
      (Held.of paths w.files).after (id.attempt paths w.files w.writeFaults) := by
  have hnewKey := Files.bind_content?_write (ServerKey.ofText?_toPem hkey) w.files paths.keyPath (nextFault w)
  have holdCert := Files.content?_write_other hapart id.key.toPem (nextFault w)
  rw [files_persist]
  simp only [Held.of, Held.after, attempt, ServerKey.toOption_readFile, Certificate.toOption_readFile]
  cases hwrite : w.files.write paths.keyPath id.key.toPem (nextFault w) with
  | mk files outcome =>
      have hapart' : files.Apart paths.certPath paths.keyPath := by
        have hafter : (w.files.write paths.keyPath id.key.toPem (nextFault w)).1.Apart paths.keyPath paths.certPath :=
          Files.apart_write.2 hapart
        rw [hwrite] at hafter
        exact hafter.symm
      rw [hwrite] at hnewKey holdCert
      simp only [nextFault] at hwrite hnewKey
      rw [hwrite]
      cases outcome with
      | written =>
          have hnewCert := Files.bind_content?_write (Certificate.ofText?_toPem hcert) files paths.certPath
            (w.writeFaults.tail.head?.getD none)
          rw [holdCert] at hnewCert
          simp only [hnewCert, Files.content?_write_other hapart', hnewKey]
      | notOpened fault =>
          simp only [hnewKey, holdCert]
          rfl
      | stopped fault =>
          simp only [hnewKey, holdCert]
          rfl

theorem apart_persist : (exec (id.persist paths) w).2.files.Apart paths.keyPath paths.certPath ↔
    w.files.Apart paths.keyPath paths.certPath := by
  rw [files_persist]
  have hkey : (w.files.write paths.keyPath id.key.toPem (nextFault w)).1.Apart paths.keyPath paths.certPath ↔
      w.files.Apart paths.keyPath paths.certPath := Files.apart_write
  cases hwrite : w.files.write paths.keyPath id.key.toPem (nextFault w) with
  | mk files outcome =>
      rw [hwrite] at hkey
      cases outcome with
      | written => exact Files.apart_write.trans hkey
      | notOpened fault => exact hkey
      | stopped fault => exact hkey

end ServerIdentity
end PairedTls
