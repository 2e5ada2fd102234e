import PairedTls.Proofs.PersistedIdentity

namespace PairedTls

open Act

namespace ServerKey

variable {key key' : ServerKey} {text : Bytes} {w w' : World}

theorem read_toPem (key : ServerKey) (behind : Bytes) : Pem.Envelope.read (key.toPem ++ behind) = .ok key.der :=
  Pem.Envelope.read_block (Pem.Label.text_plain .privateKey) (by decide) key.der behind

theorem toPem_inj : key.toPem = key'.toPem ↔ key.der = key'.der := by
  constructor
  · intro h
    have hread := read_toPem key []
    rw [h, read_toPem] at hread
    exact (Except.ok.inj hread).symm
  · intro h
    rw [toPem, toPem, h]

theorem exec_ofPem_ok (hread : Pem.Envelope.read text = .ok key.der) (hkey : ofDer? key.der = some key) (w : World) :
    exec (ofPem text) w = (.ok key, w) := by
  have hpem : readPem text = .ok key := by
    rw [readPem, hread]
    simp only [hkey]
  rw [ofPem, hpem]
  rfl

theorem ofPem_ok (h : exec (ofPem text) w = (.ok key, w')) :
    Pem.Envelope.read text = .ok key.der ∧ ofDer? key.der = some key := by
  have hexec := (exec_ofPem text w).1
  rw [h] at hexec
  exact of_readPem hexec.symm

/-- Whatever text a key was read from, the one that is written for it is read as the same key, and nothing behind it
gets in the way. What is written depends on nothing but the bytes that the text holds. -/
theorem ofPem_written (h : exec (ofPem text) w = (.ok key, w')) :
    (∀ behind v, ∃ again, exec (ofPem (key.toPem ++ behind)) v = (.ok again, v) ∧ again.der = key.der ∧
      again.isRsa = key.isRsa ∧ again.toPem = key.toPem) ∧
    ∀ text' key' v v', exec (ofPem text') v = (.ok key', v') →
      (key'.toPem = key.toPem ↔ Pem.Envelope.read text' = Pem.Envelope.read text) := by
  obtain ⟨hread, hkey⟩ := ofPem_ok h
  constructor
  · intro behind v
    exact ⟨key, exec_ofPem_ok (read_toPem key behind) hkey v, rfl, rfl, rfl⟩
  · intro text' key' v v' h'
    rw [toPem_inj, (ofPem_ok h').1, hread, Except.ok.injEq]

/-- A key of another form under a label of its own, with a header, a note in front and lines of four. -/
def oddText : Bytes :=
  Bytes.ofString "my key\r\n-----BEGIN SOME KEY-----\r\nProc-Type: 4\r\n\r\nMAYC\r\nAQEE\r\nAQE=\r\n-----END SOME KEY-----"

theorem ofPem_written_odd :
    let key := ServerIdentity.bareKey
    let w : World := ⟨⟨[], []⟩, 0, [], [], []⟩
    exec (ofPem oddText) w = (.ok key, w) ∧ key.toPem ≠ oddText ∧
      (∃ again, exec (ofPem (key.toPem ++ oddText)) w = (.ok again, w) ∧ again.der = key.der ∧
        again.isRsa = key.isRsa ∧ again.toPem = key.toPem) ∧
      Pem.Envelope.read key.toPem = Pem.Envelope.read oddText := by
  intro key w
  have hread : Pem.Envelope.read oddText = .ok key.der := by decide +kernel
  have hkey : ofDer? key.der = some key := ServerIdentity.made_bareKey.ofDer?_der
  have hodd := exec_ofPem_ok hread hkey w
  have hself : exec (ofPem key.toPem) w = (.ok key, w) := by
    have hwritten := exec_ofPem_ok (read_toPem key []) hkey w
    rwa [List.append_nil] at hwritten
  obtain ⟨hagain, hsame⟩ := ofPem_written hodd
  exact ⟨hodd, by decide +kernel, hagain oddText w, (hsame key.toPem key w w hself).1 rfl⟩

end ServerKey
end PairedTls
