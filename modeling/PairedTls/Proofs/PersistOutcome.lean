import PairedTls.Proofs.PersistedIdentity

namespace PairedTls

open Act

namespace Files

/-- The file opens, and no fault comes before the end of the write. -/
def Completes (fs : Files) (path : String) (fault : Option WriteFault) : Prop :=
  fs.Writable path ∧ fault = none

/-- How a file could not be written, and what is left of it. -/
inductive Unwritten (before after : Files) (path : String) (content : Bytes) : IdentityError → Prop
  | notOpened (fault : FileFault) (h : after.node? path = before.node? path) :
      Unwritten before after path content (.openForWriting path fault)
  | stopped (n : Nat) (fault : FileFault) (h : after.read path = .ok (content.take n)) :
      Unwritten before after path content (.writing path fault)

theorem write_spec (fs : Files) (path : String) (content : Bytes) (fault : Option WriteFault) :
    match (fs.write path content fault).2.error? path with
    | none => fs.Completes path fault ∧ (fs.write path content fault).1.read path = .ok content
    | some e => ¬fs.Completes path fault ∧ Unwritten fs (fs.write path content fault).1 path content e := by
  rw [Completes, Writable, write]
  cases htarget : fs.target path with
  | error e =>
      refine ⟨?_, .notOpened e rfl⟩
      rintro ⟨⟨place, hplace⟩, _⟩
      cases hplace
  | ok place =>
      cases fault with
      | none => exact ⟨⟨⟨place, rfl⟩, rfl⟩, read_set_self htarget content⟩
      | some fault =>
          have hnot := Option.some_ne_none fault
          cases fault with
          | atOpen e => exact ⟨fun h => hnot h.2, .notOpened e rfl⟩
          | afterBytes n e => exact ⟨fun h => hnot h.2, .stopped n e (read_set_self htarget (content.take n))⟩

theorem completes_write_other {fs : Files} {path other : String} (h : fs.Apart path other) (content : Bytes)
    (fault fault' : Option WriteFault) :
    (fs.write path content fault).1.Completes other fault' ↔ fs.Completes other fault' :=
  and_congr_left fun _ => writable_write_other h content fault

theorem completes_write_joined {fs : Files} {path other : String} (hjoined : ¬fs.Apart path other)
    (hwritable : fs.Writable path) (content : Bytes) (fault : Option WriteFault) :
    (fs.write path content none).1.Completes other fault ↔ fault = none := by
  obtain ⟨place, htarget⟩ := hwritable
  obtain ⟨hresolve, hnode⟩ := target_ok htarget
  have hother : fs.resolve other = .ok place := by
    by_contra hne
    apply hjoined
    intro p hp hp'
    cases hresolve.symm.trans hp
    exact hne hp'
  have hwrite : (fs.write path content none).1 = fs.set place (.file content) := by rw [write, htarget]
  refine and_iff_right ?_
  rw [hwrite, writable_iff]
  refine ⟨place, (resolve_set hnode content other place).2 hother, ?_⟩
  rw [get?_set hnode, if_pos rfl]
  trivial

theorem Unwritten.of_node?_eq {before before' after : Files} {path : String} {content : Bytes} {e : IdentityError}
    (h : Unwritten before after path content e) (hnode : before.node? path = before'.node? path) :
    Unwritten before' after path content e := by
  cases h with
  | notOpened fault h => exact .notOpened fault (h.trans hnode)
  | stopped n fault h => exact .stopped n fault h

end Files

namespace ServerIdentity

variable {id : ServerIdentity} {paths : IdentityPaths} {w : World}

theorem node?_persist_other (id : ServerIdentity) {other : String} (hkey : w.files.Apart paths.keyPath other)
    (hcert : w.files.Apart paths.certPath other) :
    (exec (id.persist paths) w).2.files.node? other = w.files.node? other := by
  have hafterKey : (id.afterKey paths w).1.node? other = w.files.node? other :=
    Files.node?_write_other hkey id.key.toPem (nextFault w)
  have hafterCert : (id.afterCert paths w).1.node? other = w.files.node? other := by
    rw [← hafterKey]
    exact Files.node?_write_other (Files.apart_write.2 hcert) id.cert.toPem (laterFault w)
  have hpersist := congrArg Prod.snd (id.persist_eq paths w)
  simp only at hpersist
  rw [hpersist]
  split
  · exact hafterKey
  · exact hafterCert
  · exact hafterCert

theorem afterKey_of_completes (h : w.files.Completes paths.keyPath (nextFault w)) :
    (id.afterKey paths w).1 = (w.files.write paths.keyPath id.key.toPem none).1 := by
  rw [afterKey, h.2]

/-- The three ways that persisting can go. -/
theorem persist_cases (id : ServerIdentity) (paths : IdentityPaths) (w : World) :
    let result := (exec (id.persist paths) w).1
    let files := (exec (id.persist paths) w).2.files
    let keyed := (id.afterKey paths w).1
    let keyDone := w.files.Completes paths.keyPath (nextFault w)
    let certDone := keyed.Completes paths.certPath (laterFault w)
    (∃ e, result = .error e ∧ files = keyed ∧ ¬keyDone ∧
        Files.Unwritten w.files files paths.keyPath id.key.toPem e) ∨
      (∃ e, result = .error e ∧ files = (id.afterCert paths w).1 ∧ keyDone ∧ ¬certDone ∧
        Files.Unwritten keyed files paths.certPath id.cert.toPem e) ∨
      result = .ok () ∧ keyDone ∧ certDone := by
  intro result files keyed keyDone certDone
  have hpersist : (result, files) = _ := id.persist_eq paths w
  have hkey := Files.write_spec w.files paths.keyPath id.key.toPem (nextFault w)
  have hcert := Files.write_spec keyed paths.certPath id.cert.toPem (laterFault w)
  rw [← afterKey] at hkey
  rw [← afterCert] at hcert
  cases hkeyError : (id.afterKey paths w).2.error? paths.keyPath with
  | some e =>
      rw [hkeyError] at hkey hpersist
      obtain ⟨hresult, hfiles⟩ := Prod.mk.inj hpersist
      rw [hresult, hfiles]
      exact .inl ⟨e, rfl, rfl, hkey⟩
  | none =>
      rw [hkeyError] at hkey hpersist
      cases hcertError : (id.afterCert paths w).2.error? paths.certPath with
      | some e =>
          rw [hcertError] at hcert hpersist
          obtain ⟨hresult, hfiles⟩ := Prod.mk.inj hpersist
          rw [hresult, hfiles]
          exact .inr (.inl ⟨e, rfl, rfl, hkey.1, hcert⟩)
      | none =>
          rw [hcertError] at hcert hpersist
          obtain ⟨hresult, _⟩ := Prod.mk.inj hpersist
          exact .inr (.inr ⟨hresult, hkey.1, hcert.1⟩)

/-- The key is read where it was written, as long as the certificate goes to another file. -/
theorem read_key_afterCert (hapart : w.files.Apart paths.keyPath paths.certPath)
    (hkey : w.files.Completes paths.keyPath (nextFault w)) :
    (id.afterCert paths w).1.read paths.keyPath = .ok id.key.toPem := by
  have hread : (id.afterKey paths w).1.read paths.keyPath = .ok id.key.toPem := by
    obtain ⟨place, htarget⟩ := hkey.1
    rw [afterKey_of_completes hkey, Files.write, htarget]
    exact Files.read_set_self htarget id.key.toPem
  rw [← Files.content?_eq_some] at hread ⊢
  rw [← hread]
  exact Files.content?_write_other (Files.apart_write.2 hapart).symm id.cert.toPem (laterFault w)

theorem toPem_key_ne_cert (id : ServerIdentity) : id.key.toPem ≠ id.cert.toPem := by
  intro hsame
  -- The first byte of the label.
  have hkey : id.key.toPem[11]? = some 80 := rfl
  have hcert : id.cert.toPem[11]? = some 67 := rfl
  rw [hsame, hcert] at hkey
  cases hkey

theorem persist_apart (id : ServerIdentity) (hapart : w.files.Apart paths.keyPath paths.certPath) :
    let result := (exec (id.persist paths) w).1
    let files := (exec (id.persist paths) w).2.files
    let keyDone := w.files.Completes paths.keyPath (nextFault w)
    let certDone := w.files.Completes paths.certPath (laterFault w)
    (result = .ok () ↔ keyDone ∧ certDone) ∧
      (result = .ok () →
        files.read paths.keyPath = .ok id.key.toPem ∧ files.read paths.certPath = .ok id.cert.toPem) ∧
      ∀ e, result = .error e →
        ¬keyDone ∧ Files.Unwritten w.files files paths.keyPath id.key.toPem e ∧
            files.node? paths.certPath = w.files.node? paths.certPath ∨
          keyDone ∧ ¬certDone ∧ files.read paths.keyPath = .ok id.key.toPem ∧
            Files.Unwritten w.files files paths.certPath id.cert.toPem e := by
  intro result files keyDone certDone
  have huntouched : (id.afterKey paths w).1.node? paths.certPath = w.files.node? paths.certPath :=
    Files.node?_write_other hapart id.key.toPem (nextFault w)
  have hdone : (id.afterKey paths w).1.Completes paths.certPath (laterFault w) ↔ certDone :=
    Files.completes_write_other hapart id.key.toPem (nextFault w) (laterFault w)
  have hreads : result = .ok () →
      files.read paths.keyPath = .ok id.key.toPem ∧ files.read paths.certPath = .ok id.cert.toPem := by
    intro hok
    obtain ⟨hcert, hkey, _⟩ := read_persist (Prod.ext hok rfl)
    exact ⟨hkey hapart, hcert⟩
  rcases id.persist_cases paths w with ⟨e, hresult, hfiles, hnot, hleft⟩ |
    ⟨e, hresult, hfiles, hkey, hnot, hleft⟩ | ⟨hresult, hkey, hcert⟩
  · have hfailed : result ≠ .ok () := fun hok => by cases hresult.symm.trans hok
    refine ⟨iff_of_false hfailed fun h => hnot h.1, hreads, ?_⟩
    intro e' he
    cases hresult.symm.trans he
    exact .inl ⟨hnot, hleft, (congrArg (·.node? paths.certPath) hfiles).trans huntouched⟩
  · have hfailed : result ≠ .ok () := fun hok => by cases hresult.symm.trans hok
    rw [hdone] at hnot
    refine ⟨iff_of_false hfailed fun h => hnot h.2, hreads, ?_⟩
    intro e' he
    cases hresult.symm.trans he
    refine .inr ⟨hkey, hnot, ?_, hleft.of_node?_eq huntouched⟩
    exact (congrArg (·.read paths.keyPath) hfiles).trans (read_key_afterCert hapart hkey)
  · rw [hdone] at hcert
    exact ⟨iff_of_true hresult ⟨hkey, hcert⟩, hreads, fun e he => by cases hresult.symm.trans he⟩

/-- One file for both ends up with the certificate, and with no key. -/
theorem persist_joined (id : ServerIdentity) (hjoined : ¬w.files.Apart paths.keyPath paths.certPath) :
    let result := (exec (id.persist paths) w).1
    let files := (exec (id.persist paths) w).2.files
    let keyed := (w.files.write paths.keyPath id.key.toPem none).1
    let keyDone := w.files.Completes paths.keyPath (nextFault w)
    (result = .ok () ↔ keyDone ∧ laterFault w = none) ∧
      (result = .ok () →
        files.read paths.keyPath = .ok id.cert.toPem ∧ files.read paths.certPath = .ok id.cert.toPem) ∧
      ∀ e, result = .error e →
        ¬keyDone ∧ Files.Unwritten w.files files paths.keyPath id.key.toPem e ∨
          keyDone ∧ laterFault w ≠ none ∧ Files.Unwritten keyed files paths.certPath id.cert.toPem e := by
  intro result files keyed keyDone
  have hdone : keyDone → ((id.afterKey paths w).1.Completes paths.certPath (laterFault w) ↔ laterFault w = none) := by
    intro hkey
    rw [afterKey_of_completes hkey]
    exact Files.completes_write_joined hjoined hkey.1 id.key.toPem (laterFault w)
  have hreads : result = .ok () →
      files.read paths.keyPath = .ok id.cert.toPem ∧ files.read paths.certPath = .ok id.cert.toPem := by
    intro hok
    obtain ⟨hcert, _, hkey⟩ := read_persist (Prod.ext hok rfl)
    exact ⟨hkey hjoined, hcert⟩
  rcases id.persist_cases paths w with ⟨e, hresult, hfiles, hnot, hleft⟩ |
    ⟨e, hresult, hfiles, hkey, hnot, hleft⟩ | ⟨hresult, hkey, hcert⟩
  · have hfailed : result ≠ .ok () := fun hok => by cases hresult.symm.trans hok
    refine ⟨iff_of_false hfailed fun h => hnot h.1, hreads, ?_⟩
    intro e' he
    cases hresult.symm.trans he
    exact .inl ⟨hnot, hleft⟩
  · have hfailed : result ≠ .ok () := fun hok => by cases hresult.symm.trans hok
    rw [hdone hkey] at hnot
    refine ⟨iff_of_false hfailed fun h => hnot h.2, hreads, ?_⟩
    intro e' he
    cases hresult.symm.trans he
    rw [afterKey_of_completes hkey] at hleft
    exact .inr ⟨hkey, hnot, hleft⟩
  · rw [hdone hkey] at hcert
    exact ⟨iff_of_true hresult ⟨hkey, hcert⟩, hreads, fun e he => by cases hresult.symm.trans he⟩

/-- Persisting goes wrong where a file does not open or a write stops, and then says so. It also goes wrong where both
paths lead to one file, which it does not say: each file holds its own text after a success if and only if there are
two. -/
theorem persist_by_file (id : ServerIdentity) (paths : IdentityPaths) (w : World) :
    let result := (exec (id.persist paths) w).1
    let files := (exec (id.persist paths) w).2.files
    let keyed := (w.files.write paths.keyPath id.key.toPem none).1
    let keyDone := w.files.Completes paths.keyPath (nextFault w)
    let certDone := w.files.Completes paths.certPath (laterFault w)
    (w.files.Apart paths.keyPath paths.certPath →
      (result = .ok () ↔ keyDone ∧ certDone) ∧
        (result = .ok () →
          files.read paths.keyPath = .ok id.key.toPem ∧ files.read paths.certPath = .ok id.cert.toPem) ∧
        ∀ e, result = .error e →
          ¬keyDone ∧ Files.Unwritten w.files files paths.keyPath id.key.toPem e ∧
              files.node? paths.certPath = w.files.node? paths.certPath ∨
            keyDone ∧ ¬certDone ∧ files.read paths.keyPath = .ok id.key.toPem ∧
              Files.Unwritten w.files files paths.certPath id.cert.toPem e) ∧
      (¬w.files.Apart paths.keyPath paths.certPath →
        (result = .ok () ↔ keyDone ∧ laterFault w = none) ∧
          (result = .ok () →
            files.read paths.keyPath = .ok id.cert.toPem ∧ files.read paths.certPath = .ok id.cert.toPem) ∧
          ∀ e, result = .error e →
            ¬keyDone ∧ Files.Unwritten w.files files paths.keyPath id.key.toPem e ∨
              keyDone ∧ laterFault w ≠ none ∧ Files.Unwritten keyed files paths.certPath id.cert.toPem e) ∧
      (result = .ok () →
        (files.read paths.keyPath = .ok id.key.toPem ∧ files.read paths.certPath = .ok id.cert.toPem ↔
          w.files.Apart paths.keyPath paths.certPath)) ∧
      ∀ other, w.files.Apart paths.keyPath other → w.files.Apart paths.certPath other →
        files.node? other = w.files.node? other := by
  intro result files keyed keyDone certDone
  refine ⟨id.persist_apart, id.persist_joined, ?_, fun _ => node?_persist_other id⟩
  intro hok
  constructor
  · rintro ⟨hkey, _⟩
    by_contra hjoined
    obtain ⟨_, hreads, _⟩ := id.persist_joined hjoined
    exact id.toPem_key_ne_cert (Except.ok.inj (hkey.symm.trans (hreads hok).1))
  · intro hapart
    obtain ⟨_, hreads, _⟩ := id.persist_apart hapart
    exact hreads hok

def oneFile : IdentityPaths := ⟨"id.pem", "./id.pem"⟩

theorem not_apart_oneFile : ¬(Files.emptyAt []).Apart oneFile.keyPath oneFile.certPath := by
  have hkey : (Files.emptyAt []).resolve "id.pem" = .ok ["id.pem"] := by decide +kernel
  have hcert : (Files.emptyAt []).resolve "./id.pem" = .ok ["id.pem"] := by decide +kernel
  exact fun h => h ["id.pem"] hkey hcert

def emptyDisk : World :=
  ⟨.emptyAt [], 0, [], [], []⟩

def fullDisk : World :=
  ⟨tornStart, 0, [], [none, some (.afterBytes 10 .diskFull)], []⟩

/-- On a full disk the error names the certificate and the key is whole. Under two spellings of one path everything
succeeds, and the certificate stands where the key should. -/
theorem persist_by_file_oneFile :
    let full := (exec (weierstrass.persist tornPaths) fullDisk).2.files
    let joined := (exec (weierstrass.persist oneFile) emptyDisk).2.files
    (fullDisk.files.Apart tornPaths.keyPath tornPaths.certPath ∧
      (exec (weierstrass.persist tornPaths) fullDisk).1 = .error (.writing "cert.pem" .diskFull) ∧
      full.read tornPaths.keyPath = .ok weierstrass.key.toPem ∧
      Files.Unwritten fullDisk.files full tornPaths.certPath weierstrass.cert.toPem (.writing "cert.pem" .diskFull)) ∧
    oneFile.keyPath ≠ oneFile.certPath ∧ (exec (weierstrass.persist oneFile) emptyDisk).1 = .ok () ∧
      joined.read oneFile.keyPath = .ok weierstrass.cert.toPem ∧
      joined.read oneFile.keyPath ≠ .ok weierstrass.key.toPem := by
  intro full joined
  have herror : (exec (weierstrass.persist tornPaths) fullDisk).1 = .error (.writing "cert.pem" .diskFull) := by
    decide +kernel
  have hkey : fullDisk.files.Completes tornPaths.keyPath (nextFault fullDisk) := by
    refine ⟨⟨["key.pem"], ?_⟩, rfl⟩
    decide +kernel
  have hone : emptyDisk.files.Completes oneFile.keyPath (nextFault emptyDisk) := by
    refine ⟨⟨["id.pem"], ?_⟩, rfl⟩
    decide +kernel
  obtain ⟨htwo, _⟩ := weierstrass.persist_by_file tornPaths fullDisk
  obtain ⟨_, _, hfailed⟩ := htwo apart_tornStart
  obtain ⟨_, hjoined, _⟩ := weierstrass.persist_by_file oneFile emptyDisk
  obtain ⟨hsucceeds, hreads, _⟩ := hjoined not_apart_oneFile
  have hok := hsucceeds.2 ⟨hone, rfl⟩
  have hread := (hreads hok).1
  refine ⟨?_, by decide, hok, hread, ?_⟩
  · rcases hfailed _ herror with ⟨hnot, _⟩ | ⟨_, _, hwhole, hleft⟩
    · exact absurd hkey hnot
    · exact ⟨apart_tornStart, herror, hwhole, hleft⟩
  · intro hwhole
    exact weierstrass.toPem_key_ne_cert (Except.ok.inj (hwhole.symm.trans hread))

end ServerIdentity
end PairedTls
