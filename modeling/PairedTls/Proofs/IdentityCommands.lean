import PairedTls.Proofs.CommandOutput
import PairedTls.Proofs.IdentityRestart

namespace PairedTls

open Act ServerIdentity

namespace Files

variable {fs : Files} {path other : String}

def Readable (fs : Files) (path : String) : Prop :=
  ∃ content, fs.read path = .ok content

theorem Readable.write_eq (h : fs.Readable path) (content : Bytes) : (fs.write path content none).2 = .written := by
  obtain ⟨old, hread⟩ := h
  obtain ⟨place, hresolve, hnode⟩ := read_eq_ok.1 hread
  have htarget : fs.target path = .ok place := by simp [target, hresolve, hnode, bind, Except.bind]
  rw [write, htarget]

theorem Readable.write (h : fs.Readable other) (path : String) (content : Bytes) (fault : Option WriteFault) :
    (fs.write path content fault).1.Readable other := by
  obtain ⟨old, hread⟩ := h
  obtain ⟨place, hresolve, hnode⟩ := read_eq_ok.1 hread
  rcases write_cases fs path content fault with hwrite | ⟨place', part, htarget, hwrite⟩
  · rw [hwrite]
    exact ⟨old, hread⟩
  · have hnot := (target_ok htarget).2
    rw [hwrite]
    by_cases hsame : place = place'
    · refine ⟨part, read_eq_ok.2 ⟨place, (resolve_set hnot part other place).2 hresolve, ?_⟩⟩
      rw [get?_set hnot, if_pos hsame]
    · refine ⟨old, read_eq_ok.2 ⟨place, (resolve_set hnot part other place).2 hresolve, ?_⟩⟩
      rw [get?_set hnot, if_neg hsame, hnode]

end Files

namespace ServerIdentity

variable {id : ServerIdentity} {paths : IdentityPaths} {w w' : World}

def Filed (paths : IdentityPaths) (files : Files) : Prop :=
  files.Readable paths.keyPath ∧ files.Readable paths.certPath

theorem persist_filed (h : Filed paths w.files) (hfaults : w.writeFaults = []) (id : ServerIdentity) :
    (exec (id.persist paths) w).1 = .ok () := by
  have hpersist := congrArg Prod.fst (id.persist_eq paths w)
  have hkey : (id.afterKey paths w).2 = .written := by
    rw [afterKey, nextFault, hfaults]
    exact h.1.write_eq _
  have hcert : (id.afterCert paths w).2 = .written := by
    rw [afterCert, laterFault, hfaults]
    exact (h.2.write _ _ _).write_eq _
  rw [hkey, hcert] at hpersist
  exact hpersist

theorem exec_generateAt (paths : IdentityPaths) (w : World) :
    match fresh? w.now w.randoms with
    | none =>
      (∃ e, (e = .keyGeneration ∨ e = .signing) ∧ (exec (Program.generateAt paths) w).1 = .error e) ∧
        (exec (Program.generateAt paths) w).2.files = w.files
    | some id =>
      (exec (Program.generateAt paths) w).1 = (exec (id.persist paths) w).1.map (fun _ => id) ∧
        (exec (Program.generateAt paths) w).2.files = (exec (id.persist paths) w).2.files :=
  exec_made pure (fun _ w => ⟨rfl, onlyLogged_refl w⟩) paths w

theorem generateAt_filed (h : Filed paths w.files) (hfaults : w.writeFaults = [])
    (herror : ∀ id, (exec (Program.generateAt paths) w).1 ≠ .ok id) :
    (exec (Program.generateAt paths) w).2.files = w.files := by
  have hmade := exec_generateAt paths w
  cases hfresh : fresh? w.now w.randoms with
  | none =>
      rw [hfresh] at hmade
      exact hmade.2
  | some id =>
      rw [hfresh] at hmade
      obtain ⟨hresult, -⟩ := hmade
      rw [persist_filed h hfaults id] at hresult
      exact absurd hresult (herror id)

theorem generateAt_ok (h : exec (Program.generateAt paths) w = (.ok id, w')) :
    fresh? w.now w.randoms = some id ∧ ∃ w₁, exec (id.persist paths) w = (.ok (), w₁) ∧ w'.files = w₁.files := by
  have hmade := exec_generateAt paths w
  rw [h] at hmade
  cases hfresh : fresh? w.now w.randoms with
  | none =>
      rw [hfresh] at hmade
      obtain ⟨⟨e, _, he⟩, _⟩ := hmade
      cases he
  | some found =>
      rw [hfresh] at hmade
      obtain ⟨hresult, hfiles⟩ := hmade
      cases hpersist : exec (found.persist paths) w with
      | mk result w₁ =>
          rw [hpersist] at hresult hfiles
          cases result with
          | error e => cases hresult
          | ok u =>
              obtain rfl := Except.ok.inj hresult
              exact ⟨rfl, w₁, hpersist, hfiles⟩

theorem persist_fresh {now : Int} {randoms : List Nat} (hfresh : fresh? now randoms = some id)
    (h : exec (id.persist paths) w = (.ok (), w')) :
    Filed paths w'.files ∧
      (w.files.Apart paths.keyPath paths.certPath → (Held.of paths w'.files).identity? = some id) ∧
      (¬w.files.Apart paths.keyPath paths.certPath → (Held.of paths w'.files).identity? = none) := by
  obtain ⟨hcert, hapart, hjoined⟩ := read_persist h
  obtain ⟨⟨hmadeKey, hmadeCert⟩, _, _⟩ := fresh?_spec hfresh
  refine ⟨⟨?_, id.cert.toPem, hcert⟩, ?_, ?_⟩
  · by_cases hpaths : w.files.Apart paths.keyPath paths.certPath
    · exact ⟨_, hapart hpaths⟩
    · exact ⟨_, hjoined hpaths⟩
  · intro hpaths
    exact Held.identity?_eq_some.2 ⟨key_held hmadeKey (hapart hpaths), cert_held hmadeCert hcert⟩
  · intro hpaths
    rw [Held.identity?, key_not_held (ofDer?_fresh hfresh) (hjoined hpaths)]
    rfl

end ServerIdentity

/-- A command that is carried out by a process of its own, and what that meets besides the files. No write is made to
fail; one may still be refused for what is at its path. -/
structure Invocation where
  command : IdentityCommand
  now : Int
  randoms : List Nat
  filter : Log.Filter
  json : Bool

namespace Invocation

variable {paths : IdentityPaths} {files : Files} {i : Invocation}

def start (i : Invocation) (files : Files) : Program.State :=
  ⟨⟨files, i.now, i.randoms, [], []⟩, i.filter, i.json, [], []⟩

def run (i : Invocation) (paths : IdentityPaths) (files : Files) : Exit × Program.State :=
  (Program.identityCommand i.command paths).run (i.start files)

def exit (i : Invocation) (paths : IdentityPaths) (files : Files) : Exit :=
  (i.run paths files).1

def out (i : Invocation) (paths : IdentityPaths) (files : Files) : List String :=
  (i.run paths files).2.out

def leaves (i : Invocation) (paths : IdentityPaths) (files : Files) : Files :=
  (i.run paths files).2.world.files

theorem run_show (h : i.command = .show) (paths : IdentityPaths) (files : Files) :
    i.run paths files = (Program.showIdentity paths).run (i.start files) := by
  rw [run, h, Program.identityCommand]

theorem run_generate {force : Bool} (h : i.command = .generate force) (paths : IdentityPaths) (files : Files) :
    i.run paths files = (Program.generate paths force).run (i.start files) := by
  rw [run, h, Program.identityCommand]

theorem leaves_show (h : i.command = .show) (paths : IdentityPaths) (files : Files) : i.leaves paths files = files := by
  rw [leaves, run_show h]
  exact Program.files_showIdentity paths (i.start files)

theorem refused (h : i.command = .generate false) (hpresent : paths.present files = true) :
    i.exit paths files = .failure ∧ i.leaves paths files = files := by
  rw [exit, leaves, run_generate h, Program.run_generate]
  have hrefused : paths.present (i.start files).world.files && !false := by
    rw [start, hpresent]
    rfl
  rw [if_pos hrefused]
  exact ⟨rfl, rfl⟩

theorem leaves_generate {force : Bool} (h : i.command = .generate force) (paths : IdentityPaths) (files : Files) :
    i.leaves paths files =
      if paths.present files && !force then files
      else (exec (Program.generateAt paths) (i.start files).world).2.files := by
  rw [leaves, run_generate h]
  exact Program.files_generate paths force (i.start files)

theorem apart_leaves (i : Invocation) (paths : IdentityPaths) (files : Files) :
    (i.leaves paths files).Apart paths.keyPath paths.certPath ↔ files.Apart paths.keyPath paths.certPath := by
  cases hcommand : i.command with
  | «show» => rw [leaves_show hcommand]
  | generate force =>
      rw [leaves_generate hcommand]
      split_ifs
      · rfl
      · have hmade := exec_generateAt paths (i.start files).world
        cases hfresh : fresh? (i.start files).world.now (i.start files).world.randoms with
        | none =>
            rw [hfresh] at hmade
            rw [hmade.2]
            rfl
        | some id =>
            rw [hfresh] at hmade
            rw [hmade.2, apart_persist]
            rfl

theorem leaves_filed (hfiled : Filed paths files) (h : i.exit paths files = .success → i.command = .show) :
    i.leaves paths files = files := by
  cases hcommand : i.command with
  | «show» => exact leaves_show hcommand paths files
  | generate force =>
      rw [leaves_generate hcommand]
      split_ifs with hrefused
      · rfl
      · refine generateAt_filed (w := (i.start files).world) hfiled rfl fun id hid => ?_
        have hexit : i.exit paths files = .success := by
          rw [exit, run_generate hcommand]
          exact Program.generate_made hrefused hid
        rw [h hexit] at hcommand
        cases hcommand

theorem generated (h : i.command ≠ .show) (hexit : i.exit paths files = .success) :
    ∃ id, fresh? i.now i.randoms = some id ∧
      i.out paths files = ["Key:         " ++ paths.keyPath, "Certificate: " ++ paths.certPath,
        "SHA-256:     " ++ id.cert.fingerprint] ∧
      Filed paths (i.leaves paths files) ∧
      (files.Apart paths.keyPath paths.certPath → (Held.of paths (i.leaves paths files)).identity? = some id) ∧
      (¬files.Apart paths.keyPath paths.certPath → (Held.of paths (i.leaves paths files)).identity? = none) := by
  cases hcommand : i.command with
  | «show» => exact absurd hcommand h
  | generate force =>
      rw [exit, run_generate hcommand] at hexit
      obtain ⟨id, w, hexec, hstate⟩ := Program.generate_success hexit
      obtain ⟨hfresh, w₁, hpersist, hfiles⟩ := generateAt_ok hexec
      have hleaves : i.leaves paths files = w₁.files := by
        rw [leaves, run_generate hcommand, hstate]
        exact hfiles
      refine ⟨id, hfresh, ?_, ?_⟩
      · rw [out, run_generate hcommand, hstate]
        rfl
      · rw [hleaves]
        exact persist_fresh hfresh hpersist

theorem shown {id : ServerIdentity} {now : Int} {randoms : List Nat} (h : i.command = .show)
    (hfresh : fresh? now randoms = some id) (hheld : (Held.of paths files).identity? = some id) :
    i.exit paths files = .success ∧ ∃ above below, above.length = 6 ∧
      i.out paths files = above ++ ("SHA-256:     " ++ id.cert.fingerprint) :: below := by
  obtain ⟨⟨f, hf⟩, p, hp⟩ := fresh?_shown hfresh
  have hload : (exec (load paths) (i.start files).world).1 = .ok id := (load_eq_ok _).2 hheld
  obtain ⟨hexit, hout⟩ := Program.show_success (s := i.start files) hload hf hp
  rw [exit, out, run_show h]
  exact ⟨hexit, Program.fieldLines f p, _, rfl, hout⟩

theorem not_shown (h : i.command = .show) (hheld : (Held.of paths files).identity? = none) :
    i.exit paths files = .failure := by
  have hload := (exec_load paths (i.start files).world).1.trans hheld
  rw [exit, run_show h]
  cases hresult : (exec (load paths) (i.start files).world).1 with
  | ok id =>
      rw [hresult] at hload
      cases hload
  | error e => exact Program.show_failure (s := i.start files) hresult

def after (paths : IdentityPaths) (files : Files) (commands : List Invocation) : Files :=
  commands.foldl (fun files i => i.leaves paths files) files

theorem apart_after (paths : IdentityPaths) (files : Files) (commands : List Invocation) :
    (after paths files commands).Apart paths.keyPath paths.certPath ↔ files.Apart paths.keyPath paths.certPath := by
  induction commands generalizing files with
  | nil => rfl
  | cons i commands ih => exact (ih _).trans (apart_leaves i paths files)

theorem after_append (paths : IdentityPaths) (files : Files) (first later : List Invocation) :
    after paths files (first ++ later) = after paths (after paths files first) later :=
  List.foldl_append

theorem after_filed {commands : List Invocation} (hfiled : Filed paths files)
    (h : ∀ past i rest, commands = past ++ i :: rest → i.exit paths (after paths files past) = .success →
      i.command = .show) :
    after paths files commands = files := by
  induction commands with
  | nil => rfl
  | cons i commands ih =>
      have hfirst : i.leaves paths files = files := leaves_filed hfiled (h [] i commands rfl)
      have hafter : ∀ more, after paths files (i :: more) = after paths files more := by
        intro more
        change after paths (i.leaves paths files) more = _
        rw [hfirst]
      rw [hafter]
      apply ih
      intro past j rest hcommands hexit
      apply h (i :: past) j rest (by rw [hcommands, List.cons_append])
      rwa [hafter]

/-- Showing an identity changes no file, and neither does generating one, without force, where both files are. What is
shown after an identity was generated, with any commands between the two that do not succeed in generating another, is
that identity with the fingerprint that was printed then; unless both paths lead to one file, where showing fails. -/
theorem shown_after_generated (paths : IdentityPaths) (files : Files) :
    (∀ i : Invocation, i.command = .show → i.leaves paths files = files) ∧
      (∀ i : Invocation, i.command = .generate false → paths.present files = true →
        i.exit paths files = .failure ∧ i.leaves paths files = files) ∧
      ∀ (before between : List Invocation) (g s : Invocation),
        let first := after paths files before
        let last := after paths files (before ++ g :: between)
        g.command ≠ .show → g.exit paths first = .success →
        (∀ past i rest, between = past ++ i :: rest →
          i.exit paths (after paths files (before ++ g :: past)) = .success → i.command = .show) →
        s.command = .show →
        ∃ fingerprint,
          g.out paths first = ["Key:         " ++ paths.keyPath, "Certificate: " ++ paths.certPath,
            "SHA-256:     " ++ fingerprint] ∧
          (s.exit paths last = .success ↔ files.Apart paths.keyPath paths.certPath) ∧
          (files.Apart paths.keyPath paths.certPath → ∃ above below, above.length = 6 ∧
            s.out paths last = above ++ ("SHA-256:     " ++ fingerprint) :: below) := by
  refine ⟨fun i hi => leaves_show hi paths files, fun i hi => refused hi, ?_⟩
  intro before between g s first last hg hexit hbetween hs
  obtain ⟨id, hfresh, hout, hfiled, hapart, hjoined⟩ := generated hg hexit
  have hsame : first.Apart paths.keyPath paths.certPath ↔ files.Apart paths.keyPath paths.certPath :=
    apart_after paths files before
  have hsplit : ∀ more, after paths files (before ++ g :: more) = after paths (g.leaves paths first) more :=
    fun more => after_append paths files before (g :: more)
  have hlast : last = g.leaves paths first := by
    refine (hsplit between).trans (after_filed hfiled ?_)
    intro past i rest hcommands hsuccess
    exact hbetween past i rest hcommands (by rwa [hsplit])
  -- No command moves a directory, so that the paths lead to one file now if and only if they did in the beginning.
  rw [hsame] at hapart hjoined
  rw [hlast]
  refine ⟨id.cert.fingerprint, hout, ?_, ?_⟩
  · constructor
    · intro hsuccess
      by_contra hpaths
      rw [not_shown hs (hjoined hpaths)] at hsuccess
      cases hsuccess
    · exact fun hpaths => (shown hs hfresh (hapart hpaths)).1
  · exact fun hpaths => (shown hs hfresh (hapart hpaths)).2

/-- The random numbers are primes, so the first two make the key. -/
def making : Invocation := ⟨.generate false, 0, [2 ^ 1024 - 105, 2 ^ 1024 - 179], ⟨[]⟩, false⟩

def showing : Invocation := ⟨.show, 0, [], ⟨[]⟩, false⟩

def twoFiles : IdentityPaths := ⟨"key.pem", "cert.pem"⟩

theorem apart_twoFiles : (Files.emptyAt []).Apart twoFiles.keyPath twoFiles.certPath := by
  have hkey : (Files.emptyAt []).resolve "key.pem" = .ok ["key.pem"] := by decide +kernel
  have hcert : (Files.emptyAt []).resolve "cert.pem" = .ok ["cert.pem"] := by decide +kernel
  intro place hplace hsame
  cases hkey.symm.trans hplace
  simpa using hcert.symm.trans hsame

theorem making_succeeds : ∀ paths ∈ [twoFiles, oneFile], making.exit paths (.emptyAt []) = .success := by
  decide +kernel

theorem shown_after_generated_emptyStart :
    (making.exit twoFiles (.emptyAt []) = .success ∧
      showing.exit twoFiles (making.leaves twoFiles (.emptyAt [])) = .success) ∧
    oneFile.keyPath ≠ oneFile.certPath ∧ making.exit oneFile (.emptyAt []) = .success ∧
      showing.exit oneFile (making.leaves oneFile (.emptyAt [])) = .failure := by
  have htwo := making_succeeds twoFiles (by simp)
  have hone := making_succeeds oneFile (by simp)
  have hshown : ∀ paths, making.exit paths (.emptyAt []) = .success →
      (showing.exit paths (making.leaves paths (.emptyAt [])) = .success ↔
        (Files.emptyAt []).Apart paths.keyPath paths.certPath) := by
    intro paths hmade
    obtain ⟨-, -, hrun⟩ := shown_after_generated paths (.emptyAt [])
    obtain ⟨-, -, hiff, -⟩ := hrun [] [] making showing (by decide) hmade
      (fun past i rest h => absurd h.symm (List.append_ne_nil_of_right_ne_nil past (List.cons_ne_nil i rest))) rfl
    exact hiff
  refine ⟨⟨htwo, (hshown twoFiles htwo).2 apart_twoFiles⟩, by decide, hone, ?_⟩
  cases hexit : showing.exit oneFile (making.leaves oneFile (.emptyAt [])) with
  | success => exact absurd ((hshown oneFile hone).1 hexit) not_apart_oneFile
  | failure => rfl

end Invocation
end PairedTls
