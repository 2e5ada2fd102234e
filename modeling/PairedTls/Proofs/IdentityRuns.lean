import PairedTls.Proofs.StoredIdentity

namespace PairedTls

open Act ServerIdentity

namespace Program

theorem world_log (e : Log.Event) (s : State) : ((log e).run s).2.world = s.world := by
  change ((if s.filter.admits e then print (if s.json then e.jsonLine else e.line) else pure ()).run s).2.world =
    s.world
  split_ifs <;> rfl

theorem world_logs (events : List Log.Event) (s : State) : ((events.forM log).run s).2.world = s.world := by
  induction events generalizing s with
  | nil => rfl
  | cons e events ih =>
      have hlog := world_log e s
      change ((events.forM log).run ((log e).run s).2).2.world = s.world
      rw [ih, hlog]

theorem run_act {ε α : Type} (a : Act ε α) (s : State) :
    ((act a).run s).2.world.files = (exec a { s.world with log := [] }).2.files := by
  cases hexec : exec a { s.world with log := [] } with
  | mk result w =>
      have hlogs := world_logs w.log { s with world := { w with log := [] } }
      have hrun : ((act a).run s).2.world =
          ((w.log.forM log).run { s with world := { w with log := [] } }).2.world := by
        change (let (_, world) := exec a { s.world with log := [] }
          (world.log.forM log).run { s with world := { world with log := [] } }).2.world = _
        rw [hexec]
      rw [hrun, hlogs]

theorem files_generate (paths : IdentityPaths) (force : Bool) (s : State) :
    ((generate paths force).run s).2.world.files =
      if paths.present s.world.files && !force then s.world.files
      else (exec (generateAt paths) { s.world with log := [] }).2.files := by
  rw [generate, StateT.run_bind, StateT.run_get, pure_bind]
  simp only
  split_ifs
  · rfl
  · rw [StateT.run_bind, ← run_act]
    cases (act (generateAt paths)).run s with
    | mk result s' => cases result <;> rfl

end Program

inductive Operation where
  | persist (id : ServerIdentity)
  | generate (force : Bool) (filter : Log.Filter) (json : Bool)
  | loadOrGenerate

/-- What a process does, and what it meets besides the files. -/
structure Process where
  operation : Operation
  now : Int
  randoms : List Nat
  writeFaults : List (Option WriteFault)
  /-- It is stopped after its first write, and never opens the second file. -/
  stopped : Bool

namespace Process

variable {paths : IdentityPaths} {files : Files}

def faults (p : Process) : List (Option WriteFault) :=
  if p.stopped then [p.writeFaults.head?.getD none, some (.atOpen .denied)] else p.writeFaults

def world (p : Process) (files : Files) : World :=
  ⟨files, p.now, p.randoms, p.faults, []⟩

def leaves (p : Process) (paths : IdentityPaths) (files : Files) : Files :=
  match p.operation with
  | .persist id => (exec (id.persist paths) (p.world files)).2.files
  | .generate force filter json =>
    ((Program.generate paths force).run ⟨p.world files, filter, json, [], []⟩).2.world.files
  | .loadOrGenerate => (exec (loadOrGenerate paths) (p.world files)).2.files

def attempt? (p : Process) (paths : IdentityPaths) (files : Files) : Option Attempt :=
  let fresh := (fresh? p.now p.randoms).map (·.attempt paths files p.faults)
  match p.operation with
  | .persist id => some (id.attempt paths files p.faults)
  | .generate force _ _ => if paths.present files && !force then none else fresh
  | .loadOrGenerate => if (Held.of paths files).identity?.isSome then none else fresh

/-- What holds of the identity that a process persists, if that is what it does. -/
def Persists (P : ServerIdentity → Prop) (p : Process) : Prop :=
  ∀ id, p.operation = .persist id → P id

theorem leaves_spec {p : Process} (hp : p.Persists Made) (hapart : files.Apart paths.keyPath paths.certPath) :
    Held.of paths (p.leaves paths files) = (Held.of paths files).next (p.attempt? paths files) ∧
      (p.leaves paths files).Apart paths.keyPath paths.certPath := by
  rw [leaves, attempt?]
  cases hoperation : p.operation with
  | persist id =>
      obtain ⟨hkey, hcert⟩ := hp id hoperation
      have hworld : (p.world files).files.Apart paths.keyPath paths.certPath := hapart
      exact ⟨held_persist hkey.ofDer?_der hcert.ofDer_der hworld, apart_persist.2 hworld⟩
  | generate force filter json =>
      simp only [Program.files_generate]
      cases hskip : paths.present files && !force with
      | true =>
          have hworld : paths.present (p.world files).files && !force := hskip
          simp only [if_pos hworld, if_true]
          exact ⟨rfl, hapart⟩
      | false =>
          have hworld : ¬(paths.present (p.world files).files && !force) := by
            have hfiles : (p.world files).files = files := rfl
            rw [hfiles, hskip]
            exact Bool.false_ne_true
          simp only [if_neg hworld, Bool.false_eq_true, if_false]
          exact generateAt_spec (w := p.world files) hapart
  | loadOrGenerate =>
      have hload := exec_loadOrGenerate paths (p.world files)
      have hworld : Held.of paths (p.world files).files = Held.of paths files := rfl
      rw [hworld] at hload
      cases hheld : (Held.of paths files).identity? with
      | some id =>
          rw [hheld] at hload
          obtain ⟨w', ⟨log, rfl⟩, hexec⟩ := hload
          rw [hexec]
          exact ⟨rfl, hapart⟩
      | none =>
          rw [hheld] at hload
          obtain ⟨w', ⟨log, rfl⟩, hexec⟩ := hload
          have hmade := regenerate_spec (w := { p.world files with log := log }) hapart
          rw [hexec]
          exact ⟨hmade.1, hmade.2.1⟩

/-- Every attempt is with an identity that is persisted or fresh, and its certificate comes after its key. -/
theorem attempt?_spec {P : ServerIdentity → Prop} (hfresh : ∀ now randoms id, fresh? now randoms = some id → P id)
    {p : Process} (hp : p.Persists P) {a : Attempt} (ha : p.attempt? paths files = some a) :
    P a.id ∧ (a.cert ≠ .untouched → a.key = .whole) := by
  have hmade : ∀ a, (fresh? p.now p.randoms).map (·.attempt paths files p.faults) = some a →
      P a.id ∧ (a.cert ≠ .untouched → a.key = .whole) := by
    intro a ha
    obtain ⟨id, hid, rfl⟩ := Option.map_eq_some_iff.1 ha
    exact ⟨hfresh p.now p.randoms id hid, attempt_ordered id paths files p.faults⟩
  rw [attempt?] at ha
  cases hoperation : p.operation with
  | persist id =>
      simp only [hoperation] at ha
      obtain rfl := Option.some.inj ha
      exact ⟨hp id hoperation, attempt_ordered id paths files p.faults⟩
  | generate force filter json =>
      simp only [hoperation] at ha
      exact hmade a (Option.ite_none_left_eq_some.1 ha).2
  | loadOrGenerate =>
      simp only [hoperation] at ha
      exact hmade a (Option.ite_none_left_eq_some.1 ha).2

/-- The files in the end, and the attempts that were made on the way. -/
def run (paths : IdentityPaths) (files : Files) : List Process → Files × List Attempt
  | [] => (files, [])
  | p :: ps =>
    let (last, attempts) := run paths (p.leaves paths files) ps
    (last, (p.attempt? paths files).toList ++ attempts)

variable {ps : List Process}

theorem foldl_toList (held : Held) (a : Option Attempt) : a.toList.foldl Held.after held = held.next a := by
  cases a <;> rfl

theorem held_run (hmade : ∀ p ∈ ps, p.Persists Made) (hapart : files.Apart paths.keyPath paths.certPath) :
    Held.of paths (run paths files ps).1 = (run paths files ps).2.foldl Held.after (Held.of paths files) ∧
      (run paths files ps).1.Apart paths.keyPath paths.certPath := by
  induction ps generalizing files with
  | nil => exact ⟨rfl, hapart⟩
  | cons p ps ih =>
      obtain ⟨hheld, hnext⟩ := leaves_spec (hmade p List.mem_cons_self) hapart
      obtain ⟨hrest, hlast⟩ := ih (fun q hq => hmade q (List.mem_cons_of_mem p hq)) hnext
      refine ⟨?_, hlast⟩
      simp only [run, List.foldl_append, foldl_toList, hrest, hheld]

theorem attempts_run {P : ServerIdentity → Prop} (hfresh : ∀ now randoms id, fresh? now randoms = some id → P id)
    (hps : ∀ p ∈ ps, p.Persists P) :
    ∀ a ∈ (run paths files ps).2, P a.id ∧ (a.cert ≠ .untouched → a.key = .whole) := by
  induction ps generalizing files with
  | nil => intro a ha; cases ha
  | cons p ps ih =>
      intro a ha
      rcases List.mem_append.1 ha with ha | ha
      · exact attempt?_spec hfresh (hps p List.mem_cons_self) (Option.mem_toList.1 ha)
      · exact ih (fun q hq => hps q (List.mem_cons_of_mem p hq)) a ha

end Process

namespace Held

variable {P : ServerIdentity → Prop} {held : Held}

/-- No attempt leaves a new key beside a certificate that was there before. -/
def Untorn (held : Held) : List Attempt → Prop
  | [] => True
  | a :: rest => ¬a.Torn held ∧ (held.after a).Untorn rest

theorem identity?_eq_some {id : ServerIdentity} :
    held.identity? = some id ↔ held.key = some id.key ∧ held.cert = some id.cert := by
  rcases held with ⟨_ | key, _ | cert⟩ <;> simp [identity?]
  rcases id with ⟨k, c⟩
  simp

theorem all_after (hheld : held.All P) {a : Attempt} (hid : P a.id) (horder : a.cert ≠ .untouched → a.key = .whole)
    (htorn : ¬a.Torn held) : (held.after a).All P := by
  intro id hsome
  obtain ⟨hkey, hcert⟩ := identity?_eq_some.1 hsome
  cases hc : a.cert with
  | cut => simp [after, hc, Files.Written.left] at hcert
  | whole =>
      have hk := horder (by rw [hc]; decide)
      simp only [after, hc, hk, Files.Written.left, Option.some.injEq] at hkey hcert
      have heq : a.id = id := by
        calc a.id = ⟨a.id.key, a.id.cert⟩ := rfl
          _ = ⟨id.key, id.cert⟩ := by rw [hkey, hcert]
          _ = id := rfl
      exact heq ▸ hid
  | untouched =>
      simp only [after, hc, Files.Written.left] at hcert
      cases hk : a.key with
      | untouched =>
          simp only [after, hk, Files.Written.left] at hkey
          exact hheld id (identity?_eq_some.2 ⟨hkey, hcert⟩)
      | cut => simp [after, hk, Files.Written.left] at hkey
      | whole => exact absurd ⟨hk, hc, by rw [hcert]; rfl⟩ htorn

theorem all_foldl {attempts : List Attempt} (hheld : held.All P)
    (hattempts : ∀ a ∈ attempts, P a.id ∧ (a.cert ≠ .untouched → a.key = .whole)) (huntorn : held.Untorn attempts) :
    (attempts.foldl Held.after held).All P := by
  induction attempts generalizing held with
  | nil => exact hheld
  | cons a attempts ih =>
      obtain ⟨hid, horder⟩ := hattempts a List.mem_cons_self
      apply ih
      · exact all_after hheld hid horder huntorn.1
      · exact fun b hb => hattempts b (List.mem_cons_of_mem a hb)
      · exact huntorn.2

end Held

namespace ServerIdentity

variable {paths : IdentityPaths} {files : Files} {ps : List Process} {w w' : World} {id : ServerIdentity}

theorem loadOrGenerate_ok (hapart : w.files.Apart paths.keyPath paths.certPath)
    (h : exec (loadOrGenerate paths) w = (.ok id, w')) :
    (Held.of paths w.files).identity? = some id ∨
      (Held.of paths w.files).identity? = none ∧ fresh? w.now w.randoms = some id := by
  have hload := exec_loadOrGenerate paths w
  cases hheld : (Held.of paths w.files).identity? with
  | some found =>
      rw [hheld] at hload
      obtain ⟨w₁, _, hexec⟩ := hload
      rw [hexec] at h
      exact .inl (congrArg some (Except.ok.inj (Prod.mk.inj h).1))
  | none =>
      rw [hheld] at hload
      obtain ⟨w₁, ⟨log, rfl⟩, hexec⟩ := hload
      have hmade := (regenerate_spec (w := { w with log := log }) hapart).2.2 id
      rw [← hexec, h] at hmade
      exact .inr ⟨rfl, hmade rfl⟩

theorem all_iff {P : ServerIdentity → Prop} (hfresh : ∀ now randoms id, fresh? now randoms = some id → P id)
    {held : Held} (h : held.identity? = some id ∨ held.identity? = none ∧ fresh? w.now w.randoms = some id) :
    P id ↔ held.All P := by
  rcases h with h | ⟨h, hid⟩
  · constructor
    · intro hP found hfound
      rw [h] at hfound
      exact Option.some.inj hfound ▸ hP
    · intro hall
      exact hall id h
  · constructor
    · intro _ found hfound
      rw [h] at hfound
      cases hfound
    · intro _
      exact hfresh w.now w.randoms id hid

/-- After a run that starts without an identity or with a matching one and persists matching ones only, the identity
that is loaded matches unless the last whole key and the last whole certificate are of different identities. -/
theorem loadOrGenerate_run (hapart : files.Apart paths.keyPath paths.certPath)
    (hstart : (Held.of paths files).All Matching) (hmade : ∀ p ∈ ps, p.Persists Made)
    (hmatching : ∀ p ∈ ps, p.Persists Matching) (hw : w.files = (Process.run paths files ps).1)
    (h : exec (loadOrGenerate paths) w = (.ok id, w')) :
    let start := Held.of paths files
    let attempts := (Process.run paths files ps).2
    let held := attempts.foldl Held.after start
    (held.identity? = some id ∨ held.identity? = none ∧ fresh? w.now w.randoms = some id) ∧
      (id.Matching ↔ held.All Matching) ∧ (id.Accepted ↔ held.All Accepted) ∧
      (start.Untorn attempts → id.Matching ∧
        (start.All Accepted → (∀ p ∈ ps, p.Persists Accepted) → id.Accepted)) := by
  intro start attempts held
  obtain ⟨hheld, hlast⟩ := Process.held_run hmade hapart
  rw [← hw] at hheld hlast
  have hok := loadOrGenerate_ok hlast h
  rw [hheld] at hok
  have hfreshMatching : ∀ now randoms id, fresh? now randoms = some id → Matching id :=
    fun now randoms id hid => (fresh?_spec hid).2.1
  have hfreshAccepted : ∀ now randoms id, fresh? now randoms = some id → Accepted id :=
    fun now randoms id hid => (fresh?_spec hid).2.2
  refine ⟨hok, all_iff hfreshMatching hok, all_iff hfreshAccepted hok, ?_⟩
  intro huntorn
  constructor
  · apply (all_iff hfreshMatching hok).2
    exact Held.all_foldl hstart (Process.attempts_run hfreshMatching hmatching) huntorn
  · intro hstartAccepted haccepted
    apply (all_iff hfreshAccepted hok).2
    exact Held.all_foldl hstartAccepted (Process.attempts_run hfreshAccepted haccepted) huntorn

def unsigned (pair : KeyPair) (der : Bytes) : ServerIdentity :=
  ⟨⟨pair, der⟩, .unsigned pair⟩

theorem made_unsigned {pair : KeyPair} {der : Bytes} (h : KeyPair.ofDer? der = some pair) :
    (unsigned pair der).Made := by
  have hkey : ServerKey.ofDer? der = some (unsigned pair der).key := by
    rw [ServerKey.ofDer?, h]
    rfl
  exact ⟨.fromDer hkey, Certificate.made_unsigned (KeyPair.usable_of_ofDer? h)⟩

theorem matching_unsigned {pair : KeyPair} (h : pair.Usable) (der : Bytes) : (unsigned pair der).Matching := by
  obtain ⟨f, hf, hraw⟩ := Certificate.decode?_unsigned h
  refine ⟨f, ?_, hraw⟩
  rw [unsigned, Certificate.fields, hf]

def edwards : ServerIdentity :=
  let seed := List.replicate 32 0
  unsigned (.ed25519 seed)
    (KeyPair.wrap (Der.writeObjectId ObjectId.ed25519) (Der.write Der.Strict.octetStringTag seed))

def weierstrass : ServerIdentity :=
  let secret := Der.write Der.Strict.octetStringTag [1]
  unsigned (.ecdsa ⟨Ecdsa.p256, 1⟩)
    (KeyPair.wrap (Ecdsa.PrivateKey.algorithm Ecdsa.p256) (Der.writeSequence [Der.writeNatural 1, secret]))

theorem ofDer?_edwards : KeyPair.ofDer? edwards.key.der = some edwards.key.pair := by
  decide +kernel

theorem ofDer?_weierstrass : KeyPair.ofDer? weierstrass.key.der = some weierstrass.key.pair := by
  decide +kernel

theorem made_edwards : edwards.Made :=
  made_unsigned ofDer?_edwards

theorem made_weierstrass : weierstrass.Made :=
  made_unsigned ofDer?_weierstrass

theorem publicInfo_ne : edwards.key.pair.publicInfo ≠ weierstrass.key.pair.publicInfo := by
  have hread : ∀ pair : KeyPair, pair.Usable → ∃ rest,
      (Der.readContent Der.Tag.sequence pair.publicInfo).bind (Der.readContent Der.Tag.sequence ·.1) =
        some (pair.publicAlgorithm, rest) := by
    intro pair hpair
    have hcontent := Der.readContent_sequence
      (Nat.lt_of_le_of_lt (KeyPair.length_publicContent_le hpair) (by decide)) []
    rw [List.append_nil, ← KeyPair.publicInfo_eq] at hcontent
    have hshort := (KeyPair.publicAlgorithm_text hpair).length_le
    have halgorithm := Der.readContent_sequence (Nat.lt_of_le_of_lt hshort (by decide)) (Der.writeBits pair.publicBits)
    exact ⟨_, by rw [hcontent, Option.bind_some]; exact halgorithm⟩
  intro heq
  obtain ⟨rest, hedwards⟩ := hread _ (KeyPair.usable_of_ofDer? ofDer?_edwards)
  obtain ⟨rest', hweierstrass⟩ := hread _ (KeyPair.usable_of_ofDer? ofDer?_weierstrass)
  rw [heq, hweierstrass] at hedwards
  have halgorithm := (Prod.mk.inj (Option.some.inj hedwards)).1
  revert halgorithm
  decide

def tornPaths : IdentityPaths := ⟨"key.pem", "cert.pem"⟩

def tornStart : Files :=
  ⟨[(["key.pem"], .file edwards.key.toPem), (["cert.pem"], .file edwards.cert.toPem)], []⟩

def replacement : Process :=
  ⟨.persist weierstrass, 0, [], [], true⟩

theorem places_tornStart :
    tornStart.resolve tornPaths.keyPath = .ok ["key.pem"] ∧
      tornStart.resolve tornPaths.certPath = .ok ["cert.pem"] := by
  decide +kernel

theorem held_tornStart : Held.of tornPaths tornStart = ⟨some edwards.key, some edwards.cert⟩ := by
  obtain ⟨hkey, hcert⟩ := made_edwards
  have hkeyText : tornStart.content? tornPaths.keyPath = some edwards.key.toPem :=
    Files.content?_eq_some.2 (Files.read_eq_ok.2 ⟨["key.pem"], places_tornStart.1, rfl⟩)
  have hcertText : tornStart.content? tornPaths.certPath = some edwards.cert.toPem :=
    Files.content?_eq_some.2 (Files.read_eq_ok.2 ⟨["cert.pem"], places_tornStart.2, rfl⟩)
  have hkeyRead := ServerKey.ofText?_toPem hkey.ofDer?_der edwards.key.toPem.length
  have hcertRead := Certificate.ofText?_toPem hcert.ofDer_der edwards.cert.toPem.length
  rw [if_neg (by omega), List.take_length] at hkeyRead hcertRead
  rw [Held.of, ServerKey.toOption_readFile, Certificate.toOption_readFile, hkeyText, hcertText, Option.bind_some,
    Option.bind_some]
  exact congrArg₂ Held.mk hkeyRead hcertRead

theorem apart_tornStart : tornStart.Apart tornPaths.keyPath tornPaths.certPath := by
  intro p hkey hcert
  obtain ⟨hkeyPlace, hcertPlace⟩ := places_tornStart
  rw [hkeyPlace] at hkey
  rw [hcertPlace, ← Except.ok.inj hkey] at hcert
  exact absurd (Except.ok.inj hcert) (by decide)

theorem attempt_replacement :
    weierstrass.attempt tornPaths tornStart replacement.faults = ⟨weierstrass, .whole, .untouched⟩ := by
  have htarget : tornStart.target tornPaths.keyPath = .ok ["key.pem"] := by
    rw [Files.target, places_tornStart.1]
    rfl
  have hnotOpened : ∀ (fs : Files) (path : String) (content : Bytes) (e : FileFault),
      fs.written path content (some (.atOpen e)) = .untouched := by
    intro fs path content e
    rw [Files.written.eq_def]
    cases fs.target path <;> rfl
  have hkey : tornStart.written tornPaths.keyPath weierstrass.key.toPem none = .whole := by
    rw [Files.written.eq_def, htarget]
  have hwrite : tornStart.write tornPaths.keyPath weierstrass.key.toPem none =
      (tornStart.set ["key.pem"] (.file weierstrass.key.toPem), .written) := by
    rw [Files.write, htarget]
  have hfaults : replacement.faults = [none, some (.atOpen .denied)] := rfl
  simp only [attempt, hfaults, List.head?_cons, Option.getD_some, List.tail_cons, hkey, hwrite, hnotOpened]

theorem attempts_replacement :
    (Process.run tornPaths tornStart [replacement]).2 = [⟨weierstrass, .whole, .untouched⟩] := by
  have hattempt : replacement.attempt? tornPaths tornStart =
      some (weierstrass.attempt tornPaths tornStart replacement.faults) := rfl
  simp only [Process.run, hattempt, attempt_replacement, Option.toList_some, List.append_nil]

theorem identity?_tornStart : (Held.of tornPaths tornStart).identity? = some edwards := by
  rw [held_tornStart, Held.identity?_eq_some]
  exact ⟨rfl, rfl⟩

theorem persists_replacement {P : ServerIdentity → Prop} (h : P weierstrass) : ∀ p ∈ [replacement], p.Persists P := by
  intro p hp id hid
  obtain rfl := List.mem_singleton.1 hp
  obtain rfl := Operation.persist.inj hid
  exact h

theorem loadOrGenerate_run_torn :
    let torn : ServerIdentity := ⟨weierstrass.key, edwards.cert⟩
    let w : World := ⟨(Process.run tornPaths tornStart [replacement]).1, 0, [], [], []⟩
    (Held.of tornPaths tornStart).identity? = some edwards ∧ edwards.Matching ∧
      weierstrass.Made ∧ weierstrass.Matching ∧
      (exec (loadOrGenerate tornPaths) w).1 = .ok torn ∧ ¬torn.Matching ∧
      ¬(Held.of tornPaths tornStart).Untorn (Process.run tornPaths tornStart [replacement]).2 := by
  intro torn w
  have hedwards : edwards.Matching := matching_unsigned (KeyPair.usable_of_ofDer? ofDer?_edwards) edwards.key.der
  have hweierstrass : weierstrass.Matching :=
    matching_unsigned (KeyPair.usable_of_ofDer? ofDer?_weierstrass) weierstrass.key.der
  have hmade := persists_replacement made_weierstrass
  have hidentity : (Held.of tornPaths w.files).identity? = some torn := by
    rw [(Process.held_run hmade apart_tornStart).1, attempts_replacement, held_tornStart, Held.identity?_eq_some]
    exact ⟨rfl, rfl⟩
  have hload := exec_loadOrGenerate tornPaths w
  rw [hidentity] at hload
  obtain ⟨w', _, hexec⟩ := hload
  have hresult : (exec (loadOrGenerate tornPaths) w).1 = .ok torn := by
    rw [hexec]
  have hstart : (Held.of tornPaths tornStart).All Matching := by
    intro id hid
    rw [identity?_tornStart] at hid
    exact Option.some.inj hid ▸ hedwards
  obtain ⟨_, _, _, hsafe⟩ := loadOrGenerate_run (w := w) apart_tornStart hstart hmade
    (persists_replacement hweierstrass) rfl hexec
  have htorn : ¬torn.Matching := by
    rintro ⟨f, hf, hraw⟩
    obtain ⟨g, hg, hgraw⟩ := hedwards
    have hsame : g = f := Except.ok.inj (hg.symm.trans hf)
    rw [hsame] at hgraw
    exact publicInfo_ne (hgraw.symm.trans hraw)
  exact ⟨identity?_tornStart, hedwards, made_weierstrass, hweierstrass, hresult, htorn,
    fun huntorn => htorn (hsafe huntorn).1⟩

end ServerIdentity
end PairedTls
