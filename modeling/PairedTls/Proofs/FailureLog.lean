import PairedTls.Identity.Store
import PairedTls.Proofs.PemReaders

namespace PairedTls

open Act

namespace Act

variable {ε α β : Type} {a : Act ε α} {f : α → Act ε β} {w : World} {event : Log.Event}

def HasError (events : List Log.Event) : Prop :=
  ∃ event ∈ events, event.level = .error

theorem not_hasError_nil : ¬HasError [] := by
  simp [HasError]

theorem hasError_single (h : event.level = .error) : HasError [event] :=
  ⟨event, List.mem_singleton_self event, h⟩

theorem hasError_append {events later : List Log.Event} :
    HasError (events ++ later) ↔ HasError events ∨ HasError later := by
  simp only [HasError, List.mem_append, or_and_right, exists_or]

def Quiet (a : Act ε α) (w : World) : Prop :=
  ∃ events, (exec a w).2.log = w.log ++ events ∧ (HasError events → ∃ e, (exec a w).1 = .error e)

/-- An error is logged if and only if the action fails. -/
def Told (a : Act ε α) (w : World) : Prop :=
  ∃ events, (exec a w).2.log = w.log ++ events ∧ (HasError events ↔ ∃ e, (exec a w).1 = .error e)

theorem Told.quiet (h : Told a w) : Quiet a w := by
  obtain ⟨events, hlog, htold⟩ := h
  exact ⟨events, hlog, htold.1⟩

theorem quiet_of_silent (h : (exec a w).2.log = w.log) : Quiet a w :=
  ⟨[], h.trans (List.append_nil _).symm, fun herror => absurd herror not_hasError_nil⟩

/-- Where nothing is logged, only success is told of. -/
theorem told_iff_of_silent (h : (exec a w).2.log = w.log) : Told a w ↔ ∃ x, (exec a w).1 = .ok x := by
  constructor
  · rintro ⟨events, hlog, htold⟩
    have hnothing : events = [] := List.append_cancel_left ((hlog.symm.trans h).trans (List.append_nil _).symm)
    cases hresult : (exec a w).1 with
    | ok x => exact ⟨x, rfl⟩
    | error e => exact absurd (hnothing ▸ htold.2 ⟨e, hresult⟩) not_hasError_nil
  · rintro ⟨x, hx⟩
    refine ⟨[], h.trans (List.append_nil _).symm, fun herror => absurd herror not_hasError_nil, ?_⟩
    rintro ⟨e, he⟩
    cases hx.symm.trans he

theorem told_pure (x : α) : Told (pure x : Act ε α) w :=
  (told_iff_of_silent rfl).2 ⟨x, rfl⟩

theorem told_fault (h : event.level = .error) (e : ε) : Told (do log event; throw e : Act ε α) w :=
  ⟨[event], rfl, fun _ => ⟨e, rfl⟩, fun _ => hasError_single h⟩

theorem told_bind (ha : Told a w) (hf : ∀ x w', exec a w = (.ok x, w') → Told (f x) w') : Told (a >>= f) w := by
  obtain ⟨events, hlog, htold⟩ := ha
  rw [Told, exec_bind]
  cases hexec : exec a w with
  | mk result w' =>
      rw [hexec] at hlog htold
      cases result with
      | error e => exact ⟨events, hlog, htold.trans ⟨fun _ => ⟨e, rfl⟩, fun _ => ⟨e, rfl⟩⟩⟩
      | ok x =>
          have hnone : ¬HasError events := by
            intro herror
            obtain ⟨e, he⟩ := htold.1 herror
            cases he
          obtain ⟨later, hlater, htold'⟩ := hf x w' hexec
          refine ⟨events ++ later, ?_, ?_⟩
          · rw [hlater, hlog, List.append_assoc]
          · rw [hasError_append, or_iff_right hnone]
            exact htold'

theorem told_rethrow (h : event.level = .error) (ha : Quiet a w) :
    Told (tryCatch a fun e => do log event; throw e) w := by
  obtain ⟨events, hlog, hquiet⟩ := ha
  rw [Told, exec_tryCatch]
  cases hexec : exec a w with
  | mk result w' =>
      rw [hexec] at hlog hquiet
      cases result with
      | ok x =>
          refine ⟨events, hlog, hquiet, ?_⟩
          rintro ⟨e, he⟩
          cases he
      | error e =>
          refine ⟨events ++ [event], ?_, fun _ => ⟨e, rfl⟩, fun _ => hasError_append.2 (.inr (hasError_single h))⟩
          change w'.log ++ [event] = w.log ++ (events ++ [event])
          rw [hlog, List.append_assoc]

theorem told_throughFile {read : Bytes → Act IdentityError α} (hread : ∀ text w, Quiet (read text) w)
    {unread : FileFault → Log.Event} (hunread : ∀ fault, (unread fault).level = .error) {spoilt : Log.Event}
    (hspoilt : spoilt.level = .error) (path : String) (w : World) :
    Told (Certificate.throughFile read unread spoilt path) w := by
  refine told_bind ((told_iff_of_silent rfl).2 ⟨w, rfl⟩) ?_
  intro v w' _
  cases Certificate.fileText v.files path with
  | error fault => exact told_fault (hunread fault) _
  | ok text => exact told_rethrow hspoilt (hread text w')

end Act

namespace ServerKey

theorem told_ofPem (text : Bytes) (w : World) : Told (ofPem text) w := by
  rw [ofPem]
  cases readPem text with
  | ok key => exact told_pure key
  | error fault => exact told_fault rfl _

theorem told_ofFile (path : String) (w : World) : Told (ofFile path) w :=
  told_throughFile (fun text w => (told_ofPem text w).quiet) (fun _ => rfl) rfl path w

end ServerKey

namespace Certificate

theorem ofDer_ok_iff {der : Bytes} : (∃ c, ofDer der = .ok c) ↔ (CertFields.decode? der).isSome = true := by
  rw [ofDer_eq]
  split <;> simp_all

theorem told_ofPem_iff {text : Bytes} {w : World} :
    Told (ofPem text) w ↔
      ∀ der, Pem.first Pem.certificate? (Pem.itemsOfText text) = .ok der → (CertFields.decode? der).isSome = true := by
  rw [ofPem]
  cases Pem.first Pem.certificate? (Pem.itemsOfText text) with
  | error fault =>
      refine iff_of_true (told_fault rfl _) ?_
      rintro der ⟨⟩
  | ok der =>
      rw [told_iff_of_silent (by simp), exec_ofExcept, ofDer_ok_iff]
      simp

/-- What is not told of is a failure without any line in the log. -/
theorem told_or_silent (text : Bytes) (w : World) :
    Told (ofPem text) w ∨ exec (ofPem text) w = (.error .certificate, w) := by
  rw [ofPem]
  cases Pem.first Pem.certificate? (Pem.itemsOfText text) with
  | error fault => exact .inl (told_fault rfl _)
  | ok der =>
      simp only [exec_ofExcept, ofDer_eq]
      split
      · exact .inl ((told_iff_of_silent (by simp)).2 ⟨_, by rw [exec_ofExcept]⟩)
      · exact .inr rfl

theorem silent_toPem {der : Bytes} (h : CertFields.decode? der = none) (w : World) :
    exec (ofPem (toPem ⟨der⟩)) w = (.error .certificate, w) := by
  rw [Pem.Document.exec_ofPem_block, ofDer_eq, h]
  rfl

theorem quiet_ofPem (text : Bytes) (w : World) : Quiet (ofPem text) w := by
  rcases told_or_silent text w with htold | hsilent
  · exact htold.quiet
  · exact quiet_of_silent (by rw [hsilent])

theorem told_ofFile (path : String) (w : World) : Told (ofFile path) w :=
  told_throughFile quiet_ofPem (fun _ => rfl) rfl path w

end Certificate

namespace ServerIdentity

theorem told_writePem (path : String) (pem : Bytes) (w : World) : Told (writePem path pem) w := by
  refine told_bind ((told_iff_of_silent rfl).2 ⟨_, rfl⟩) ?_
  intro outcome w' _
  cases outcome with
  | written => exact told_pure ()
  | notOpened fault => exact told_fault rfl _
  | stopped fault => exact told_fault rfl _

theorem told_persist (id : ServerIdentity) (paths : IdentityPaths) (w : World) : Told (id.persist paths) w :=
  told_bind (told_writePem _ _ w) fun _ w' _ => told_writePem _ _ w'

theorem told_load (paths : IdentityPaths) (w : World) : Told (load paths) w := by
  refine told_bind (ServerKey.told_ofFile _ w) ?_
  intro key w₁ _
  refine told_bind (Certificate.told_ofFile _ w₁) ?_
  exact fun cert w₂ _ => told_pure _

/-- For every input and every state of the files: reading a key from a text, reading a key or a certificate from a
file, persisting and loading log an error if and only if they fail. Reading a certificate from bytes never logs
anything, so that its failures, and no others, are silent; and reading one from a text is silent exactly where it fails
on the bytes that the text stands for, as it does on the text of any bytes that are no certificate. -/
theorem failures_told (der text : Bytes) (path : String) (id : ServerIdentity) (paths : IdentityPaths) (w : World) :
    Told (ServerKey.ofPem text) w ∧ Told (ServerKey.ofFile path) w ∧ Told (Certificate.ofFile path) w ∧
      Told (id.persist paths) w ∧ Told (load paths) w ∧
      (Told (ofExcept (Certificate.ofDer der)) w ↔ (CertFields.decode? der).isSome = true) ∧
      (exec (ofExcept (Certificate.ofDer der)) w).2.log = w.log ∧
      (Told (Certificate.ofPem text) w ↔
        ∀ der, Pem.first Pem.certificate? (Pem.itemsOfText text) = .ok der → (CertFields.decode? der).isSome = true) ∧
      (Told (Certificate.ofPem text) w ∨ exec (Certificate.ofPem text) w = (.error .certificate, w)) ∧
      (CertFields.decode? der = none →
        exec (Certificate.ofPem (Certificate.toPem ⟨der⟩)) w = (.error .certificate, w)) := by
  refine ⟨ServerKey.told_ofPem text w, ServerKey.told_ofFile path w, Certificate.told_ofFile path w,
    told_persist id paths w, told_load paths w, ?_, ?_, Certificate.told_ofPem_iff, Certificate.told_or_silent text w,
    fun h => Certificate.silent_toPem h w⟩
  · rw [told_iff_of_silent (by simp), exec_ofExcept, Certificate.ofDer_ok_iff]
  · rw [exec_ofExcept]

end ServerIdentity
end PairedTls
