import PairedTls.Program
import PairedTls.Proofs.ConfigEnvironment

namespace PairedTls.Config

open Environment

variable {files : Files} {environment : List (String × String)} {path : Option String} {file : Value} {c : Config}

def fileLayer (files : Files) : Option String → Except ConfigError Value
  | none => .ok (.map .direct [])
  | some path => if files.present path then fileValue files path else .error (.missingFile path)

theorem load_eq (files : Files) (environment : List (String × String)) (path : Option String) :
    load files environment path =
      fileLayer files path >>= fun file =>
        (Decoder.config .ignored (file.merge (read environment))).mapError ConfigError.field := by
  cases path with
  | none =>
      refine bind_congr fun file => ?_
      dsimp only
      cases Decoder.config .ignored (file.merge (read environment)) <;> rfl
  | some path =>
      rw [load, fileLayer]
      by_cases hpresent : files.present path
      · rw [if_pos hpresent, if_pos hpresent]
        refine bind_congr fun file => ?_
        dsimp only
        cases Decoder.config .ignored (file.merge (read environment)) <;> rfl
      · rw [if_neg hpresent, if_neg hpresent]
        rfl

theorem load_eq_ok (h : load files environment path = .ok c) :
    ∃ file, fileLayer files path = .ok file ∧
      Decoder.config .ignored (file.merge (read environment)) = .ok c := by
  rw [load_eq] at h
  obtain ⟨file, hfile, h⟩ := bind_eq_ok h
  exact ⟨file, hfile, mapError_eq_ok.1 h⟩

namespace Section

def isList (p : Section) (file : Value) : Bool :=
  match file.member? p.name with
  | some (.list ..) => true
  | _ => false

def hasVariable (p : Section) (environment : List (String × String)) : Bool :=
  Setting.all.any fun s => s.home = p && (s.given? environment).isSome

theorem hasVariable_iff {p : Section} :
    p.hasVariable environment = true ↔ ∃ s : Setting, s.home = p ∧ (s.given? environment).isSome := by
  simp [hasVariable, Setting.mem_all]

end Section

namespace Setting

/-- Whether the file's list of settings has given way to a variable, be it for another one of them. -/
def displaced (s : Setting) (environment : List (String × String)) (file : Value) : Bool :=
  s.home.isList file && s.home.hasVariable environment

/-- What the environment and the file have for a setting, in this order. -/
def known? (s : Setting) (environment : List (String × String)) (file : Value) : Option Value :=
  match s.given? environment with
  | some text => some (value text)
  | none => if s.displaced environment file then none else s.inFile? file

def option? : (s : Setting) → CommandLine → Option s.Kind
  | .host, line => line.host
  | .port, line => line.port
  | _, _ => none

/-- What a setting comes to: an option comes first, and what nobody has anything for is as usual. -/
def resolve (s : Setting) (line : CommandLine) (environment : List (String × String)) (file : Value) :
    Except FieldFault s.Kind :=
  match s.option? line with
  | some a => .ok a
  | none => s.settle (s.known? environment file)

end Setting

theorem member?_merge_layer {ms : List (String × Value)} (hordered : Value.Ordered ms) (p : Section) (file : Value) :
    ∃ merged, file.merge (.map .environment ms) = .map .environment merged ∧
      merged.lookup p.name = (ms.lookup p.name).elim (file.member? p.name) fun v =>
        some (Value.overlay (file.member? p.name) v) := by
  obtain ⟨merged, hmerged⟩ := Value.merge_map file .environment ms
  refine ⟨merged, hmerged, ?_⟩
  have hmember := Value.member?_merge file .environment p.name hordered
  rwa [hmerged] at hmember

theorem Setting.within?_over (s : Setting) {source : Source} {fields : List (String × Value)}
    (hordered : Value.Ordered fields) (earlier : Option Value) :
    s.within? (Value.overlay earlier (.map source fields)) =
      (fields.lookup s.field).elim (earlier.bind (·.member? s.field)) fun v =>
        some (Value.overlay (earlier.bind (·.member? s.field)) v) := by
  cases earlier with
  | none =>
      change fields.lookup s.field = _
      cases fields.lookup s.field <;> rfl
  | some w =>
      obtain ⟨merged, hmerged⟩ := Value.merge_map w source fields
      have hmember := Value.member?_merge w source s.field hordered
      rw [hmerged] at hmember
      rw [Value.overlay, hmerged]
      exact hmember

theorem load_settles (henv : Orderly environment)
    (h : Decoder.config .ignored (file.merge (read environment)) = .ok c) (s : Setting) :
    s.settle (s.known? environment file) = .ok (s.get c) := by
  obtain ⟨ms, hread, hordered, hlayers⟩ := read_layers henv
  obtain ⟨merged, hmerged, hlookup⟩ := member?_merge_layer hordered s.home file
  rw [hread, hmerged] at h
  have hsettles := Decoder.config_settles h s
  rw [hlookup] at hsettles
  have hlayer := hlayers s.home
  generalize ms.lookup s.home.name = found at hsettles hlayer
  cases hlayer with
  | absent hnone =>
      -- No variable is for the section, so nothing of the file is displaced.
      have hvariable : s.home.hasVariable environment = false := by
        refine Bool.eq_false_iff.2 fun hvariable => ?_
        obtain ⟨t, ht, hsome⟩ := Section.hasVariable_iff.1 hvariable
        rw [hnone t ht] at hsome
        cases hsome
      have hdisplaced : s.displaced environment file = false := by
        rw [Setting.displaced, hvariable, Bool.and_false]
      rw [Setting.known?, hnone s rfl, hdisplaced]
      exact hsettles
  | given fields hfields hgiven hsome =>
      rw [Option.elim_some, Option.bind_some, s.within?_over hfields, hgiven s rfl] at hsettles
      cases htext : s.given? environment with
      | some text =>
          rw [htext] at hsettles
          rw [Setting.known?, htext]
          exact (s.decode_overlay _ _).symm.trans hsettles
      | none =>
          have hvariable : s.home.hasVariable environment = true := Section.hasVariable_iff.2 hsome
          rw [htext] at hsettles
          rw [Setting.known?, htext, Setting.displaced, hvariable, Bool.and_true]
          have hfile : (if s.home.isList file then none else s.inFile? file) =
              (file.member? s.home.name).bind (·.member? s.field) := by
            rw [Section.isList, Setting.inFile?]
            cases file.member? s.home.name with
            | none => rfl
            | some w => cases w <;> rfl
          rw [hfile]
          exact hsettles

theorem read_filter (environment : List (String × String)) :
    ∃ ms ms', read environment = .map .environment ms ∧
      read (environment.filter fun entry => ¬ IsOption entry.1) = .map .environment ms' ∧
      Value.Ordered ms ∧ Value.Ordered ms' ∧ ∀ p : Section, ms.lookup p.name = ms'.lookup p.name := by
  induction environment using List.reverseRecOn with
  | nil => exact ⟨[], [], rfl, rfl, List.Pairwise.nil, List.Pairwise.nil, fun _ => rfl⟩
  | append_singleton environment entry ih =>
      obtain ⟨ms, ms', hread, hread', hordered, hordered', hsame⟩ := ih
      by_cases hoption : IsOption entry.1
      · obtain ⟨word, hpath, hword⟩ := path?_option hoption
        have hfilter : [entry].filter (fun entry => ¬ IsOption entry.1) = [] := by
          simp [hoption]
        rw [read_concat, List.filter_append, hfilter, List.append_nil, hread, hread', hpath]
        refine ⟨_, ms', merge_nest _ _ _ _ _, rfl, Value.ordered_insert _ _ hordered, hordered', fun p => ?_⟩
        rw [Value.lookup_insert, if_neg (hword p), hsame p]
      · have hfilter : [entry].filter (fun entry => ¬ IsOption entry.1) = [entry] := by
          simp [hoption]
        rw [List.filter_append, hfilter, read_concat, read_concat, hread, hread']
        cases hpath : path? entry.1 with
        | none => exact ⟨ms, ms', rfl, rfl, hordered, hordered', hsame⟩
        | some names =>
            cases names with
            | nil => exact absurd hpath (path?_ne_nil entry.1)
            | cons name rest =>
                refine ⟨_, _, merge_nest _ _ _ _ _, merge_nest _ _ _ _ _, Value.ordered_insert _ _ hordered,
                  Value.ordered_insert _ _ hordered', fun p => ?_⟩
                rw [Value.lookup_insert, Value.lookup_insert]
                by_cases hp : p.name = name
                · rw [if_pos hp, if_pos hp, ← hp, hsame p]
                · rw [if_neg hp, if_neg hp, hsame p]

theorem load_filter (files : Files) (environment : List (String × String)) (path : Option String) :
    load files environment path = load files (environment.filter fun entry => ¬ IsOption entry.1) path := by
  obtain ⟨ms, ms', hread, hread', hordered, hordered', hsame⟩ := read_filter environment
  have hdecode (file : Value) : Decoder.config .ignored (file.merge (read environment)) =
      Decoder.config .ignored (file.merge (read (environment.filter fun entry => ¬ IsOption entry.1))) := by
    obtain ⟨merged, hmerged⟩ := Value.merge_map file .environment ms
    obtain ⟨merged', hmerged'⟩ := Value.merge_map file .environment ms'
    rw [hread, hread', hmerged, hmerged']
    refine Decoder.config_congr fun p => ?_
    have hmember := Value.member?_merge file .environment p.name hordered
    have hmember' := Value.member?_merge file .environment p.name hordered'
    rw [hmerged] at hmember
    rw [hmerged'] at hmember'
    exact hmember.trans (hsame p ▸ hmember'.symm)
  simp only [load_eq, hdecode]

variable {line : CommandLine}

theorem get_override (s : Setting) (line : CommandLine) (c : Config) :
    s.get (line.override c) = (s.option? line).getD (s.get c) := by
  cases s <;> rfl

theorem loadConfig_resolves (henv : Orderly environment) (hload : line.loadConfig files environment = .ok c)
    (hfile : fileLayer files line.config = .ok file) (s : Setting) :
    s.resolve line environment file = .ok (s.get c) := by
  obtain ⟨below, hbelow, hover⟩ := bind_eq_ok hload
  cases hover
  obtain ⟨file', hfile', hdecode⟩ := load_eq_ok hbelow
  cases hfile.symm.trans hfile'
  rw [get_override, Setting.resolve]
  cases s.option? line with
  | some a => rfl
  | none => exact load_settles henv hdecode s

/-- Every setting is what its own sources make it, and no source of another one changes that, except that a list
gives way to the variables of its section. The variables of the options count for nothing in the environment. -/
theorem loadConfig_by_source (henv : Orderly environment) (hload : line.loadConfig files environment = .ok c) :
    (∃ file, fileLayer files line.config = .ok file ∧
      (∀ s : Setting, s.resolve line environment file = .ok (s.get c)) ∧
      (∀ c', (∀ s : Setting, s.resolve line environment file = .ok (s.get c')) → c' = c) ∧
      ∀ (line' : CommandLine) (files' : Files) (environment' : List (String × String)) (file' : Value) (c' : Config),
        Orderly environment' → line'.loadConfig files' environment' = .ok c' →
        fileLayer files' line'.config = .ok file' →
        ∀ s : Setting, s.option? line' = s.option? line → s.given? environment' = s.given? environment →
          s.inFile? file' = s.inFile? file → s.displaced environment' file' = s.displaced environment file →
          s.get c' = s.get c) ∧
    load files environment line.config =
      load files (environment.filter fun entry => ¬ IsOption entry.1) line.config := by
  refine ⟨?_, load_filter files environment line.config⟩
  obtain ⟨below, hbelow, -⟩ := bind_eq_ok hload
  obtain ⟨file, hfile, -⟩ := load_eq_ok hbelow
  have hresolves := loadConfig_resolves henv hload hfile
  refine ⟨file, hfile, hresolves, ?_, ?_⟩
  · intro c' hresolves'
    exact Setting.ext fun s => Except.ok.inj ((hresolves' s).symm.trans (hresolves s))
  · intro line' files' environment' file' c' henv' hload' hfile' s hoption hgiven hinFile hdisplaced
    have hsame : s.resolve line' environment' file' = s.resolve line environment file := by
      rw [Setting.resolve, Setting.known?, hoption, hgiven, hinFile, hdisplaced]
      rfl
    exact Except.ok.inj ((loadConfig_resolves henv' hload' hfile' s).symm.trans (hsame.trans (hresolves s)))

def oneFile (name text : String) : Files :=
  ⟨[([name], .file (Utf8.encode text.toList))], []⟩

def bareLine : CommandLine :=
  ⟨some "wolf.yaml", none, none, "info", none, none⟩

def layered : Files × List (String × String) :=
  (oneFile "wolf.yaml" "server: \x7bhost: here, port: 1, request_timeout: 9s\x7d",
    [("WOLF_TLS_SERVER__PORT", "2"), ("wolf_tls_server__handshake_timeout", "4s"), ("WOLF_TLS_PORT", "3"),
      ("WOLF_TLS_IDENTITY__PAIRED_CERTS", "[a.pem, b.pem]"), ("HOME", "/")])

def settled : Config :=
  ⟨⟨"here", 5, .ofSecs 4 (by decide), .ofSecs 9 (by decide), false, false⟩, ⟨"key.pem", "cert.pem", ["a.pem", "b.pem"]⟩⟩

theorem orderly_layered : Orderly layered.2 := by
  constructor
  · have hall : ∀ entry ∈ layered.2,
        (∃ s ∈ Setting.all, SameName entry.1 s.variableName) ∨ IsOption entry.1 ∨ path? entry.1 = none := by
      decide
    exact fun entry hentry => (hall entry hentry).imp_left fun ⟨s, _, hs⟩ => ⟨s, hs⟩
  · have hall : layered.2.Pairwise fun a b =>
        ∀ s ∈ Setting.all, SameName a.1 s.variableName → ¬ SameName b.1 s.variableName := by
      decide
    exact hall.imp fun h s => h s s.mem_all

theorem loadConfig_by_source_layered :
    let line := { bareLine with port := some 5 }
    Orderly layered.2 ∧ line.loadConfig layered.1 layered.2 = .ok settled ∧
      ∃ file, fileLayer layered.1 line.config = .ok file ∧
        ∀ s : Setting, s.resolve line layered.2 file = .ok (s.get settled) := by
  intro line
  have hload : line.loadConfig layered.1 layered.2 = .ok settled := by
    decide +kernel
  obtain ⟨⟨file, hfile, hresolves, -⟩, -⟩ := loadConfig_by_source orderly_layered hload
  exact ⟨orderly_layered, hload, file, hfile, hresolves⟩

theorem loadConfig_listed_section :
    let files := oneFile "wolf.yaml" "server: [127.0.0.1, 48000]"
    let environment := [("WOLF_TLS_SERVER__PORT", "1")]
    Setting.port.variableName = "WOLF_TLS_SERVER__PORT" ∧ Setting.host.given? environment = none ∧
      ((fileLayer files bareLine.config).toOption.bind Setting.host.inFile?).bind
        (fun v => (Setting.host.decode v).toOption) = some "127.0.0.1" ∧
      (bareLine.loadConfig files []).toOption.map Setting.host.get = some "127.0.0.1" ∧
      (bareLine.loadConfig files environment).toOption.map Setting.host.get = some "0.0.0.0" := by
  decide +kernel

end PairedTls.Config
