import PairedTls.Proofs.GeneratedCertificate
import PairedTls.Proofs.IdentityRuns

namespace PairedTls

open Act ServerIdentity

namespace Act

variable {ε α β : Type} {a : Act ε α} {f : α → Act ε β}

/-- Success leaves no line in the log. -/
def Wordless (a : Act ε α) : Prop :=
  ∀ w x w', exec a w = (.ok x, w') → w'.log = w.log

theorem wordless_of_log (h : ∀ w, (exec a w).2.log = w.log) : Wordless a := by
  intro w x w' hexec
  have hlog := h w
  rwa [hexec] at hlog

theorem wordless_of_error (h : ∀ w, ∃ e, (exec a w).1 = .error e) : Wordless a := by
  intro w x w' hexec
  obtain ⟨e, he⟩ := h w
  rw [hexec] at he
  cases he

theorem wordless_fault (event : Log.Event) (e : ε) : Wordless (do log event; throw e : Act ε α) :=
  wordless_of_error fun _ => ⟨e, rfl⟩

theorem wordless_bind (ha : Wordless a) (hf : ∀ x, Wordless (f x)) : Wordless (a >>= f) := by
  intro w y w' hexec
  obtain ⟨x, w₁, hfirst, hrest⟩ := exec_bind_eq_ok hexec
  exact (hf x w₁ y w' hrest).trans (ha w x w₁ hfirst)

theorem wordless_rethrow (event : Log.Event) (ha : Wordless a) :
    Wordless (tryCatch a fun e => do log event; throw e) := by
  intro w x w' hexec
  rw [exec_tryCatch] at hexec
  cases hfirst : exec a w with
  | mk result w₁ =>
      rw [hfirst] at hexec
      cases result with
      | ok y =>
          obtain rfl := (Prod.mk.inj hexec).2
          exact ha w y w₁ hfirst
      | error e => cases hexec

theorem wordless_throughFile {read : Bytes → Act IdentityError α} (hread : ∀ text, Wordless (read text))
    (unread : FileFault → Log.Event) (spoilt : Log.Event) (path : String) :
    Wordless (Certificate.throughFile read unread spoilt path) := by
  refine wordless_bind (wordless_of_log fun _ => rfl) ?_
  intro v
  cases Certificate.fileText v.files path with
  | error fault => exact wordless_fault _ _
  | ok text => exact wordless_rethrow spoilt (hread text)

end Act

namespace ServerKey

theorem wordless_generate : Wordless generate := by
  intro w key w' hexec
  rw [exec_generate] at hexec
  split at hexec
  · obtain rfl := (Prod.mk.inj hexec).2
    rfl
  · cases hexec

theorem wordless_ofPem (text : Bytes) : Wordless (ofPem text) := by
  rw [ofPem]
  cases readPem text with
  | ok key => exact wordless_of_log fun _ => rfl
  | error fault => exact wordless_fault _ _

end ServerKey

namespace Certificate

theorem wordless_generate (key : ServerKey) : Wordless (generate key) := by
  intro w c w' hexec
  rw [exec_generate] at hexec
  split at hexec
  · obtain rfl := (Prod.mk.inj hexec).2
    rfl
  · cases hexec

theorem wordless_ofPem (text : Bytes) : Wordless (ofPem text) := by
  rw [ofPem]
  cases Pem.first Pem.certificate? (Pem.itemsOfText text) with
  | ok der => exact wordless_of_log fun _ => by rw [exec_ofExcept]
  | error fault => exact wordless_fault _ _

end Certificate

namespace ServerIdentity

theorem wordless_writePem (path : String) (pem : Bytes) : Wordless (writePem path pem) := by
  refine wordless_bind (wordless_of_log fun _ => rfl) ?_
  intro outcome
  cases outcome with
  | written => exact wordless_of_log fun _ => rfl
  | notOpened fault => exact wordless_fault _ _
  | stopped fault => exact wordless_fault _ _

theorem wordless_load (paths : IdentityPaths) : Wordless (load paths) :=
  wordless_bind (wordless_throughFile ServerKey.wordless_ofPem _ _ paths.keyPath) fun _ =>
    wordless_bind (wordless_throughFile Certificate.wordless_ofPem _ _ paths.certPath) fun _ =>
      wordless_of_log fun _ => rfl

theorem wordless_generateAt (paths : IdentityPaths) : Wordless (Program.generateAt paths) := by
  have hmade : Wordless generate :=
    wordless_bind ServerKey.wordless_generate fun key =>
      wordless_bind (Certificate.wordless_generate key) fun _ => wordless_of_log fun _ => rfl
  refine wordless_bind hmade fun id => wordless_bind ?_ fun _ => wordless_of_log fun _ => rfl
  exact wordless_bind (wordless_writePem _ _) fun _ => wordless_writePem _ _

end ServerIdentity

namespace Program

variable {paths : IdentityPaths} {force : Bool} {s s' : State} {id : ServerIdentity}

theorem exists_run_act {ε α : Type} {a : Act ε α} {result : Except ε α}
    (h : (exec a { s.world with log := [] }).1 = result) : ∃ s', (act a).run s = (result, s') :=
  ⟨((act a).run s).2, Prod.ext h rfl⟩

theorem run_act_ok {ε α : Type} {a : Act ε α} {x : α} {w : World} (ha : Wordless a)
    (h : exec a { s.world with log := [] } = (.ok x, w)) :
    (act a).run s = (.ok x, { s with world := w }) := by
  obtain ⟨files, now, randoms, faults, log⟩ := w
  obtain rfl : log = [] := ha _ x _ h
  change (let (result, world) := exec a { s.world with log := [] }
    (result, ((world.log.forM Program.log).run { s with world := { world with log := [] } }).2)) = _
  rw [h]
  rfl

theorem run_prints (lines : List String) (s : State) :
    (lines.forM print).run s = ((), { s with out := s.out ++ lines }) := by
  induction lines generalizing s with
  | nil =>
      rw [List.append_nil]
      rfl
  | cons line lines ih =>
      have hrest := ih { s with out := s.out ++ [line] }
      rw [List.append_assoc, List.singleton_append] at hrest
      exact hrest

theorem run_generate (paths : IdentityPaths) (force : Bool) (s : State) :
    (generate paths force).run s =
      if paths.present s.world.files && !force then
        (.failure, { s with err := s.err ++
          ["Identity already exists at " ++ paths.keyPath ++ " / " ++ paths.certPath ++
            " (use --force to replace it)"] })
      else
        match (act (generateAt paths)).run s with
        | (.ok id, s') =>
          (.success, { s' with out := s'.out ++ ["Key:         " ++ paths.keyPath] ++
            ["Certificate: " ++ paths.certPath] ++ ["SHA-256:     " ++ id.cert.fingerprint] })
        | (.error e, s') =>
          (.failure, { s' with err := s'.err ++
            ["Failed to generate identity: " ++ ErrorKind.identity.render e.message] }) := by
  rw [generate, StateT.run_bind, StateT.run_get, pure_bind]
  simp only
  split_ifs
  · rfl
  · rw [StateT.run_bind]
    cases (act (generateAt paths)).run s with
    | mk result s' => cases result <;> rfl

theorem generate_success (h : ((generate paths force).run s).1 = .success) :
    ∃ id w, exec (generateAt paths) { s.world with log := [] } = (.ok id, w) ∧
      ((generate paths force).run s).2 = { s with world := w, out := s.out ++
        ["Key:         " ++ paths.keyPath, "Certificate: " ++ paths.certPath,
         "SHA-256:     " ++ id.cert.fingerprint] } := by
  rw [run_generate] at h ⊢
  split_ifs at h ⊢
  cases hexec : exec (generateAt paths) { s.world with log := [] } with
  | mk result w =>
      cases result with
      | ok id =>
          rw [run_act_ok (wordless_generateAt paths) hexec]
          exact ⟨id, w, rfl, by simp⟩
      | error e =>
          obtain ⟨s', hrun⟩ := exists_run_act (congrArg Prod.fst hexec)
          rw [hrun] at h
          cases h

theorem generate_made (hnot : ¬(paths.present s.world.files && !force))
    (h : (exec (generateAt paths) { s.world with log := [] }).1 = .ok id) :
    ((generate paths force).run s).1 = .success := by
  obtain ⟨s', hrun⟩ := exists_run_act h
  rw [run_generate, if_neg hnot, hrun]

theorem run_showIdentity (paths : IdentityPaths) (s : State) :
    (showIdentity paths).run s =
      match (act (load paths)).run s with
      | (.ok id, s') => (printParts (description id.cert)).run s'
      | (.error e, s') =>
        (.failure, { s' with err := s'.err ++
          ["Failed to load identity: " ++ ErrorKind.identity.render e.message] }) := by
  rw [showIdentity, StateT.run_bind]
  cases (act (load paths)).run s with
  | mk result s' => cases result <;> rfl

theorem world_printParts (parts : List (Except IdentityError (List String))) (s : State) :
    ((printParts parts).run s).2.world = s.world := by
  induction parts generalizing s with
  | nil => rfl
  | cons part parts ih =>
      cases part with
      | error e => rfl
      | ok lines =>
          rw [printParts, StateT.run_bind, run_prints]
          exact ih _

theorem run_printParts (parts : List (List String)) (s : State) :
    (printParts (parts.map .ok)).run s = (.success, { s with out := s.out ++ parts.flatten }) := by
  induction parts generalizing s with
  | nil =>
      rw [List.flatten_nil, List.append_nil]
      rfl
  | cons lines parts ih =>
      rw [List.map_cons, printParts, StateT.run_bind, run_prints]
      have hrest := ih { s with out := s.out ++ lines }
      rw [List.append_assoc, ← List.flatten_cons] at hrest
      exact hrest

theorem files_showIdentity (paths : IdentityPaths) (s : State) :
    ((showIdentity paths).run s).2.world.files = s.world.files := by
  have hact : ((act (load paths)).run s).2.world.files = s.world.files := by
    obtain ⟨log, hlog⟩ := (exec_load paths { s.world with log := [] }).2
    rw [run_act, hlog]
  rw [run_showIdentity]
  cases hrun : (act (load paths)).run s with
  | mk result s' =>
      rw [hrun] at hact
      cases result with
      | ok id =>
          simp only
          rw [world_printParts]
          exact hact
      | error e => exact hact

def fieldLines (f : CertFields) (p : RsaParameters) : List String :=
  ["Subject:     " ++ (SubjectName.ofAttributes f.subject).display,
   "Issuer:      " ++ (SubjectName.ofAttributes f.issuer).display,
   "Serial:      " ++ Hex.encode f.serial,
   "Not before:  " ++ f.notBefore.text,
   "Not after:   " ++ f.notAfter.text,
   "Public key:  RSA " ++ p.modulusBits.repr ++ " bits, e=" ++ p.publicExponent.repr]

theorem description_eq {c : Certificate} {f : CertFields} {p : RsaParameters} (hf : c.fields = .ok f)
    (hp : c.rsaParameters = .ok p) :
    description c = ((fieldLines f p).map ([·]) ++ [["SHA-256:     " ++ c.fingerprint, ""],
      lines (Pem.block Pem.publicKeyLabel f.keyInfo.raw)]).map .ok := by
  simp only [description, Certificate.subject, Certificate.issuer, Certificate.serial, Certificate.notBefore,
    Certificate.notAfter, Certificate.publicKeyPem, hf, hp]
  rfl

theorem show_success {f : CertFields} {p : RsaParameters}
    (hload : (exec (load paths) { s.world with log := [] }).1 = .ok id) (hf : id.cert.fields = .ok f)
    (hp : id.cert.rsaParameters = .ok p) :
    ((showIdentity paths).run s).1 = .success ∧
      ((showIdentity paths).run s).2.out = s.out ++ fieldLines f p ++ ("SHA-256:     " ++ id.cert.fingerprint) :: "" ::
        lines (Pem.block Pem.publicKeyLabel f.keyInfo.raw) := by
  have hexec : exec (load paths) { s.world with log := [] } =
      (.ok id, (exec (load paths) { s.world with log := [] }).2) :=
    Prod.ext hload rfl
  rw [run_showIdentity, run_act_ok (wordless_load paths) hexec]
  simp only [description_eq hf hp, run_printParts]
  refine ⟨trivial, ?_⟩
  simp [fieldLines]

theorem show_failure {e : IdentityError} (hload : (exec (load paths) { s.world with log := [] }).1 = .error e) :
    ((showIdentity paths).run s).1 = .failure := by
  obtain ⟨s', hrun⟩ := exists_run_act hload
  rw [run_showIdentity, hrun]

end Program

theorem ServerIdentity.fresh?_shown {now : Int} {randoms : List Nat} {id : ServerIdentity}
    (h : fresh? now randoms = some id) :
    (∃ f, id.cert.fields = .ok f) ∧ ∃ p, id.cert.rsaParameters = .ok p := by
  rw [fresh?] at h
  cases hexec : exec generate ⟨.emptyAt [], now, randoms, [], []⟩ with
  | mk result w' =>
      rw [hexec] at h
      cases result with
      | error e => cases h
      | ok found =>
          obtain rfl := Option.some.inj h
          obtain ⟨key, w₁, hkey, hexec⟩ := exec_bind_eq_ok hexec
          obtain ⟨cert, w₂, hcert, hexec⟩ := exec_bind_eq_ok hexec
          obtain rfl := Except.ok.inj (Prod.mk.inj hexec).1
          have hmade := ServerKey.Made.generated hkey
          obtain ⟨k, hk, rfl, _⟩ := ServerKey.generate_ok hkey
          obtain ⟨notBefore, notAfter, signature, nonce, -, -, hsign, hfields⟩ :=
            Certificate.fields_generate hmade hcert
          exact ⟨⟨_, hfields⟩, _, (Certificate.verified_of_rsa hfields hmade.usable rfl rfl hsign).2⟩

end PairedTls
