import Mathlib.Data.List.Induction
import PairedTls.Proofs.ConfigLayers

namespace PairedTls

def Node.isRegular : Node → Bool
  | .directory => false
  | .file _ | .locked => true

def Node.content : Node → Except FileFault Bytes
  | .file content => .ok content
  | .locked => .error .denied
  | .directory => .error .isDirectory

namespace Files

variable {files : Files} {path : String} {node : Node}

def start (files : Files) (path : String) : Place :=
  if path.startsWith "/" then [] else files.workingDir

def at? (files : Files) (dir : Place) (path : String) : Option Node :=
  match files.walk dir (names path) with
  | .ok place => files.get? place
  | .error _ => none

theorem at?_of_find (h : files.find path = .ok node) : files.at? (files.start path) path = some node := by
  obtain ⟨place, hresolve, hplace⟩ := bind_eq_ok h
  have hwalk : files.walk (files.start path) (names path) = .ok place := by
    rw [resolve] at hresolve
    split_ifs at hresolve with hempty hnul hroot
    · rwa [start, if_pos hroot]
    · rwa [start, if_neg hroot]
  simp only [at?, hwalk]
  cases hnode : files.get? place with
  | none =>
      rw [hnode] at hplace
      cases hplace
  | some other =>
      rw [hnode] at hplace
      cases hplace
      rfl

theorem present_iff : files.present path = true ↔ ∃ node, files.find path = .ok node := by
  rw [present]
  cases files.find path <;> simp

theorem isFile_of_find (h : files.find path = .ok node) : files.isFile path = node.isRegular := by
  rw [isFile, h]
  cases node <;> rfl

theorem read_of_find (h : files.find path = .ok node) : files.read path = node.content := by
  rw [read, h]
  cases node <;> rfl

end Files

namespace Config

open Environment

variable {files : Files} {environment : List (String × String)} {path : String} {dir : Place} {node : Node} {c : Config}

theorem searchDirs_concat (workingDir : Place) (name : String) :
    searchDirs (workingDir ++ [name]) = (workingDir ++ [name]) :: searchDirs workingDir := by
  have hfront : (List.range (workingDir.length + 1)).map (workingDir ++ [name]).take =
      (List.range (workingDir.length + 1)).map workingDir.take := by
    refine List.map_congr_left fun n hn => List.take_append_of_le_length ?_
    exact Nat.lt_succ_iff.1 (List.mem_range.1 hn)
  have hlength : (workingDir ++ [name]).length = workingDir.length + 1 := List.length_append
  rw [searchDirs, hlength, List.range_succ, List.reverse_append, List.reverse_singleton, List.singleton_append,
    List.map_cons, List.map_reverse, hfront, ← List.map_reverse, searchDirs]
  exact congrArg (· :: _) (hlength ▸ List.take_length)

/-- The search goes from the working directory upwards and ends at the first place that fits. -/
theorem find?_searchDirs {fits : Place → Bool} {workingDir : Place} :
    (searchDirs workingDir).find? fits = some dir ↔ dir <+: workingDir ∧ fits dir = true ∧
      ∀ other, dir <+: other → other <+: workingDir → other ≠ dir → fits other = false := by
  induction workingDir using List.reverseRecOn with
  | nil =>
      rw [show searchDirs [] = [[]] from rfl, List.find?_singleton, Option.ite_none_right_eq_some, Option.some.injEq]
      constructor
      · rintro ⟨hfits, rfl⟩
        refine ⟨List.prefix_rfl, hfits, fun other _ hother hne => absurd (List.prefix_nil.1 hother) hne⟩
      · rintro ⟨habove, hfits, -⟩
        obtain rfl := List.prefix_nil.1 habove
        exact ⟨hfits, rfl⟩
  | append_singleton workingDir name ih =>
      rw [searchDirs_concat]
      by_cases hhere : fits (workingDir ++ [name]) = true
      · rw [List.find?_cons_of_pos hhere, Option.some.injEq]
        constructor
        · rintro rfl
          refine ⟨List.prefix_rfl, hhere, fun other hdir hother hne => ?_⟩
          exact absurd (hother.eq_of_length_le hdir.length_le) hne
        · rintro ⟨habove, -, hnearest⟩
          by_contra hne
          have hnot := hnearest _ habove List.prefix_rfl hne
          rw [hhere] at hnot
          cases hnot
      · rw [List.find?_cons_of_neg hhere, ih]
        constructor
        · rintro ⟨habove, hfits, hnearest⟩
          refine ⟨habove.trans (List.prefix_append _ _), hfits, fun other hdir hother hne => ?_⟩
          rcases List.prefix_concat_iff.1 hother with rfl | hother
          · exact Bool.eq_false_iff.2 hhere
          · exact hnearest other hdir hother hne
        · rintro ⟨habove, hfits, hnearest⟩
          rcases List.prefix_concat_iff.1 habove with rfl | habove
          · exact absurd hfits hhere
          · exact ⟨habove, hfits, fun other hdir hother => hnearest other hdir (hother.trans (List.prefix_append _ _))⟩

/-- The file that a relative path is taken for: of all the directories from the working directory upwards, the first
one from which it leads to a file. -/
structure Nearest (files : Files) (path : String) (dir : Place) (node : Node) : Prop where
  relative : path.startsWith "/" = false
  above : dir <+: files.workingDir
  leads : files.at? dir path = some node
  regular : node.isRegular = true
  first : ∀ other, dir <+: other → other <+: files.workingDir → other ≠ dir →
    (files.at? other path).any Node.isRegular = false

theorem locate?_relative (hrelative : path.startsWith "/" = false) :
    locate? files path =
      (searchDirs files.workingDir).find? fun dir => (files.at? dir path).any Node.isRegular := by
  rw [locate?, hrelative, if_neg Bool.false_ne_true]
  refine congrArg (fun fits => (searchDirs files.workingDir).find? fits) (funext fun dir => ?_)
  rw [Files.at?]
  cases files.walk dir (Files.names path) with
  | error fault => rfl
  | ok place =>
      dsimp only
      cases files.get? place with
      | none => rfl
      | some node => cases node <;> rfl

theorem locate?_eq_some_iff (hrelative : path.startsWith "/" = false) :
    locate? files path = some dir ↔ ∃ node, Nearest files path dir node := by
  rw [locate?_relative hrelative, find?_searchDirs]
  constructor
  · rintro ⟨habove, hfits, hfirst⟩
    cases hleads : files.at? dir path with
    | none =>
        rw [hleads] at hfits
        cases hfits
    | some node =>
        rw [hleads] at hfits
        exact ⟨node, hrelative, habove, hleads, hfits, hfirst⟩
  · rintro ⟨node, -, habove, hleads, hregular, hfirst⟩
    exact ⟨habove, by rw [hleads]; exact hregular, hfirst⟩

theorem locate?_absolute (habsolute : path.startsWith "/" = true) :
    locate? files path = if files.isFile path then some [] else none := by
  rw [locate?, if_pos habsolute]

theorem locate?_of_regular (hfind : files.find path = .ok node) (hregular : node.isRegular = true) :
    locate? files path = some (files.start path) := by
  by_cases habsolute : path.startsWith "/" = true
  · rw [locate?_absolute habsolute, Files.isFile_of_find hfind, if_pos hregular, Files.start, if_pos habsolute]
  · have hrelative := Bool.eq_false_iff.2 habsolute
    have hleads := Files.at?_of_find hfind
    rw [Files.start, if_neg habsolute] at hleads ⊢
    refine (locate?_eq_some_iff hrelative).2 ⟨node, hrelative, List.prefix_rfl, hleads, hregular, ?_⟩
    exact fun other hdir hother hne => absurd (hother.eq_of_length_le hdir.length_le) hne

theorem locate?_of_directory (hfind : files.find path = .ok .directory) :
    locate? files path = some dir ↔ ∃ node, Nearest files path dir node := by
  by_cases habsolute : path.startsWith "/" = true
  · rw [locate?_absolute habsolute, Files.isFile_of_find hfind]
    refine ⟨nofun, fun ⟨node, hnearest⟩ => ?_⟩
    rw [hnearest.relative] at habsolute
    cases habsolute
  · exact locate?_eq_some_iff (Bool.eq_false_iff.2 habsolute)

def loadNode (environment : List (String × String)) (shown : String) (node : Node) : Except ConfigError Config :=
  match node.content with
  | .error fault => .error (.unreadable shown fault)
  | .ok content =>
    match Utf8.decode? content with
    | none => .error (.unreadable shown .notText)
    | some text =>
      match Document.read (.file shown) text with
      | .error fault => .error (.document shown fault)
      | .ok v => (Decoder.config .ignored (v.merge (read environment))).mapError .field

theorem readAt_of_at? (hleads : files.at? dir path = some node) (hregular : node.isRegular = true) :
    readAt files dir path = node.content := by
  rw [Files.at?] at hleads
  rw [readAt]
  cases hwalk : files.walk dir (Files.names path) with
  | error fault =>
      rw [hwalk] at hleads
      cases hleads
  | ok place =>
      rw [hwalk] at hleads
      dsimp only at hleads
      refine bind_of_ok rfl ?_
      rw [hleads]
      cases node with
      | directory => cases hregular
      | file | locked => rfl

theorem load_of_locate? (hpresent : files.present path = true) (hlocate : locate? files path = some dir)
    (hleads : files.at? dir path = some node) (hregular : node.isRegular = true) :
    load files environment (some path) = loadNode environment (shownPath files.workingDir dir path) node := by
  rw [load_eq, fileLayer, if_pos hpresent, fileValue, hlocate, loadNode]
  dsimp only
  rw [readAt_of_at? hleads hregular]
  cases node.content with
  | error fault => rfl
  | ok content =>
      dsimp only
      cases Utf8.decode? content with
      | none => rfl
      | some text =>
          dsimp only
          cases Document.read (.file (shownPath files.workingDir dir path)) text <;> rfl

theorem load_missing {fault : FileFault} (hfind : files.find path = .error fault) :
    load files environment (some path) = .error (.missingFile path) := by
  rw [load_eq, fileLayer, Files.present, hfind]
  rfl

theorem load_regular (hfind : files.find path = .ok node) (hregular : node.isRegular = true) :
    load files environment (some path) =
      loadNode environment (shownPath files.workingDir (files.start path) path) node :=
  load_of_locate? (Files.present_iff.2 ⟨node, hfind⟩) (locate?_of_regular hfind hregular) (Files.at?_of_find hfind)
    hregular

theorem load_nearest (hfind : files.find path = .ok .directory) (hnearest : Nearest files path dir node) :
    load files environment (some path) = loadNode environment (shownPath files.workingDir dir path) node :=
  load_of_locate? (Files.present_iff.2 ⟨_, hfind⟩) ((locate?_of_directory hfind).2 ⟨node, hnearest⟩) hnearest.leads
    hnearest.regular

theorem load_nowhere (hfind : files.find path = .ok .directory) (hnone : ∀ dir node, ¬Nearest files path dir node) :
    load files environment (some path) = load files environment none := by
  have hlocate : locate? files path = none := by
    refine Option.eq_none_iff_forall_ne_some.2 fun dir hdir => ?_
    obtain ⟨node, hnearest⟩ := (locate?_of_directory hfind).1 hdir
    exact hnone dir node hnearest
  have hlayer : fileLayer files (some path) = fileLayer files none := by
    change (if files.present path then fileValue files path else .error (.missingFile path)) = .ok (.map .direct [])
    rw [if_pos (Files.present_iff.2 ⟨_, hfind⟩), fileValue, hlocate]
  rw [load_eq, load_eq, hlayer]

/-- What a configuration owes to a file: its content is text, the text is a document, and with the environment over it
the document is the configuration. -/
def Gives (environment : List (String × String)) (shown : String) (content : Bytes) (c : Config) : Prop :=
  ∃ text v, Utf8.decode? content = some text ∧ Document.read (.file shown) text = .ok v ∧
    Decoder.config .ignored (v.merge (read environment)) = .ok c

theorem loadNode_eq_ok_iff {shown : String} :
    loadNode environment shown node = .ok c ↔
      ∃ content, node.content = .ok content ∧ Gives environment shown content c := by
  constructor
  · intro h
    unfold loadNode at h
    split at h
    · cases h
    · next content hcontent =>
        split at h
        · cases h
        · next text htext =>
            split at h
            · cases h
            · next v hv => exact ⟨content, hcontent, text, v, htext, hv, mapError_eq_ok.1 h⟩
  · rintro ⟨content, hcontent, text, v, htext, hv, hc⟩
    simp only [loadNode, hcontent, htext, hv, hc]
    rfl

theorem Nearest.ne_workingDir (h : Nearest files path dir node) (hfind : files.find path = .ok .directory) :
    dir ≠ files.workingDir := by
  rintro rfl
  have hleads := Files.at?_of_find hfind
  rw [Files.start, h.relative, if_neg Bool.false_ne_true, h.leads] at hleads
  cases hleads
  cases h.regular

theorem load_directory_eq_ok_iff (hfind : files.find path = .ok .directory) :
    load files environment (some path) = .ok c ↔
      (∃ dir content, dir ≠ files.workingDir ∧ Nearest files path dir (.file content) ∧
        Gives environment (shownPath files.workingDir dir path) content c) ∨
      (∀ dir node, ¬Nearest files path dir node) ∧ load files environment none = .ok c := by
  by_cases hsome : ∃ dir node, Nearest files path dir node
  · obtain ⟨dir, node, hnearest⟩ := hsome
    rw [load_nearest hfind hnearest, loadNode_eq_ok_iff]
    constructor
    · rintro ⟨content, hcontent, hgives⟩
      obtain rfl : node = .file content := by
        cases node <;> cases hcontent
        rfl
      exact .inl ⟨dir, content, hnearest.ne_workingDir hfind, hnearest, hgives⟩
    · rintro (⟨dir', content, -, hnearest', hgives⟩ | ⟨hnone, -⟩)
      · -- The search has one outcome.
        have hdir := (locate?_of_directory hfind).2 ⟨_, hnearest⟩
        have hdir' := (locate?_of_directory hfind).2 ⟨_, hnearest'⟩
        obtain rfl : dir = dir' := Option.some.inj (hdir.symm.trans hdir')
        obtain rfl : node = .file content := Option.some.inj (hnearest.leads.symm.trans hnearest'.leads)
        exact ⟨content, rfl, hgives⟩
      · exact absurd hnearest (hnone dir node)
  · have hnone (dir : Place) (node : Node) : ¬Nearest files path dir node := fun h => hsome ⟨dir, node, h⟩
    rw [load_nowhere hfind hnone]
    refine ⟨fun h => .inr ⟨hnone, h⟩, ?_⟩
    rintro (⟨dir, content, -, hnearest, -⟩ | ⟨-, hload⟩)
    · exact absurd hnearest (hnone _ _)
    · exact hload

/-- A load that succeeds is one of the file that the path leads to, except where the path leads to a directory: there
it is one of another file, or of none at all. What is loaded reflects the file, setting by setting. -/
theorem load_by_path (files : Files) (environment : List (String × String)) (path : String) :
    (∀ c, load files environment (some path) = .ok c ↔
      (∃ content, files.read path = .ok content ∧
        Gives environment (shownPath files.workingDir (files.start path) path) content c) ∨
      files.find path = .ok .directory ∧
        ((∃ dir content, dir ≠ files.workingDir ∧ Nearest files path dir (.file content) ∧
            Gives environment (shownPath files.workingDir dir path) content c) ∨
          (∀ dir node, ¬Nearest files path dir node) ∧ load files environment none = .ok c)) ∧
    (∀ fault, files.find path = .error fault → load files environment (some path) = .error (.missingFile path)) ∧
    ∀ shown content c, Gives environment shown content c → Orderly environment →
      ∃ text v, Utf8.decode? content = some text ∧ Document.read (.file shown) text = .ok v ∧
        ∀ s : Setting, s.settle (s.known? environment v) = .ok (s.get c) := by
  refine ⟨fun c => ?_, fun fault => load_missing, fun shown content c hgives henv => ?_⟩
  · cases hfind : files.find path with
    | error fault =>
        rw [load_missing hfind, Files.read, hfind]
        refine ⟨nofun, ?_⟩
        rintro (⟨content, hread, -⟩ | ⟨hdirectory, -⟩)
        · cases hread
        · cases hdirectory
    | ok node =>
        rw [Files.read_of_find hfind]
        cases hregular : node.isRegular with
        | true =>
            rw [load_regular hfind hregular, loadNode_eq_ok_iff]
            refine ⟨.inl, ?_⟩
            rintro (hgives | ⟨hdirectory, -⟩)
            · exact hgives
            · cases hdirectory
              cases hregular
        | false =>
            obtain rfl : node = .directory := by
              cases node <;> first | rfl | cases hregular
            rw [load_directory_eq_ok_iff hfind]
            refine ⟨fun h => .inr ⟨rfl, h⟩, ?_⟩
            rintro (⟨content, hread, -⟩ | ⟨-, h⟩)
            · cases hread
            · exact h
  · obtain ⟨text, v, htext, hv, hc⟩ := hgives
    exact ⟨text, v, htext, hv, load_settles henv hc⟩

example : load ⟨[(["conf"], .directory)], []⟩ [] (some "conf") = .ok default := by
  decide +kernel

example :
    let files : Files :=
      ⟨[(["inner", "conf"], .directory), (["conf"], .file (Utf8.encode "server: [here]".toList))], ["inner"]⟩
    (load files [] (some "conf")).toOption.map Setting.host.get = some "here" := by
  decide +kernel

end Config
end PairedTls
