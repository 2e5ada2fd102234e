import PairedTls.Proofs.PersistOutcome

namespace PairedTls

open Act

namespace ServerIdentity

variable {id : ServerIdentity} {paths : IdentityPaths} {w : World} {e : IdentityError}

theorem load_eq_error {fault : IdentityError} (h : (exec (load paths) w).1 = .error fault) :
    (Held.of paths w.files).identity? = none := by
  rw [← (exec_load paths w).1, h]
  rfl

theorem loadOrGenerate_fallback {fault : IdentityError} (h : (exec (load paths) w).1 = .error fault) :
    match fresh? w.now w.randoms with
    | none =>
      (∃ e, (e = .keyGeneration ∨ e = .signing) ∧ (exec (loadOrGenerate paths) w).1 = .error e) ∧
        (exec (loadOrGenerate paths) w).2.files = w.files
    | some id =>
      (exec (loadOrGenerate paths) w).1 = (exec (id.persist paths) w).1.map (fun _ => id) ∧
        (exec (loadOrGenerate paths) w).2.files = (exec (id.persist paths) w).2.files := by
  have hexec := exec_loadOrGenerate paths w
  rw [load_eq_error h] at hexec
  obtain ⟨_, ⟨log, rfl⟩, hexec⟩ := hexec
  have hmade := exec_regenerate paths { w with log := log }
  rw [hexec]
  simp only at hmade
  cases hfresh : fresh? w.now w.randoms with
  | none =>
      rw [hfresh] at hmade
      exact hmade
  | some id =>
      rw [hfresh] at hmade
      obtain ⟨hresult, hfiles⟩ := hmade
      obtain ⟨hsame, hleft⟩ := persist_congr (v := { w with log := log }) (w := w) rfl rfl id paths
      exact ⟨hresult.trans (congrArg _ hsame), hfiles.trans hleft⟩

theorem loadOrGenerate_loaded (h : (exec (load paths) w).1 = .ok id) :
    (exec (loadOrGenerate paths) w).1 = .ok id ∧ (exec (loadOrGenerate paths) w).2.files = w.files := by
  have hexec := exec_loadOrGenerate paths w
  rw [(load_eq_ok w).1 h] at hexec
  obtain ⟨_, ⟨log, rfl⟩, hexec⟩ := hexec
  exact ⟨congrArg Prod.fst hexec, congrArg (·.2.files) hexec⟩

theorem loadOrGenerate_made {fault : IdentityError} (hload : (exec (load paths) w).1 = .error fault)
    (h : (exec (loadOrGenerate paths) w).1 = .ok id) :
    fresh? w.now w.randoms = some id ∧ (exec (id.persist paths) w).1 = .ok () ∧
      (exec (loadOrGenerate paths) w).2.files = (exec (id.persist paths) w).2.files := by
  have hmade := loadOrGenerate_fallback hload
  cases hfresh : fresh? w.now w.randoms with
  | none =>
      rw [hfresh] at hmade
      obtain ⟨⟨e, _, he⟩, _⟩ := hmade
      cases h.symm.trans he
  | some found =>
      rw [hfresh] at hmade
      obtain ⟨hresult, hfiles⟩ := hmade
      cases hpersist : (exec (found.persist paths) w).1 with
      | error e =>
          rw [hpersist] at hresult
          cases h.symm.trans hresult
      | ok u =>
          rw [hpersist] at hresult
          obtain rfl := Except.ok.inj (h.symm.trans hresult)
          exact ⟨rfl, hpersist, hfiles⟩

end ServerIdentity
end PairedTls
