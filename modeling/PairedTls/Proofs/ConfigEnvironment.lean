import Mathlib.Data.List.Induction
import PairedTls.CommandLine.Basic
import PairedTls.Config.Environment
import PairedTls.Proofs.Characters
import PairedTls.Proofs.ConfigSettings

namespace PairedTls

namespace Config

open Environment

variable {environment : List (String × String)} {entry : String × String}

/-- Whether two names are the same but for their case. -/
def SameName (a b : String) : Prop :=
  lower a = lower b

instance (a b : String) : Decidable (SameName a b) :=
  inferInstanceAs (Decidable (lower a = lower b))

theorem path?_congr {a b : String} (h : SameName a b) : path? a = path? b := by
  have hchars : (Text.trim a.toList).map Char.toLower = (Text.trim b.toList).map Char.toLower := by
    rw [← Text.trim_toLower, ← Text.trim_toLower]
    exact congrArg Text.trim h
  simp only [path?, hchars]

theorem path?_ne_nil (name : String) : path? name ≠ some [] := by
  simp only [path?]
  split_ifs
  · nofun
  · simp [List.splitOn_ne_nil]
  · nofun

def optionVariables : List String :=
  CommandLine.Scope.top.flags.filterMap CommandLine.Flag.variableName?

def IsOption (name : String) : Prop :=
  ∃ own ∈ optionVariables, SameName name own

instance (name : String) : Decidable (IsOption name) :=
  inferInstanceAs (Decidable (∃ own ∈ optionVariables, SameName name own))

theorem path?_option {name : String} (h : IsOption name) :
    ∃ word, path? name = some [word] ∧ ∀ p : Section, p.name ≠ word := by
  have hall : ∀ own ∈ optionVariables, ∃ word ∈ ["config", "port", "host", "log_level", "log_format"],
      path? own = some [word] ∧ "server" ≠ word ∧ "identity" ≠ word := by
    decide
  obtain ⟨own, hown, hsame⟩ := h
  obtain ⟨word, -, hpath, hserver, hidentity⟩ := hall own hown
  refine ⟨word, (path?_congr hsame).trans hpath, fun p => ?_⟩
  cases p with
  | server => exact hserver
  | identity => exact hidentity

namespace Setting

variable {s t : Setting}

def path (s : Setting) : List String :=
  [s.home.name, s.field]

def variableName (s : Setting) : String :=
  stem ++ String.ofList (("__".intercalate s.path).toList.map Char.toUpper)

theorem path?_variableName (s : Setting) : path? s.variableName = some s.path := by
  cases s <;> decide

theorem path?_of_sameName {name : String} (h : SameName name s.variableName) : path? name = some s.path :=
  (path?_congr h).trans s.path?_variableName

theorem eq_of_path (h : s.path = t.path) : s = t := by
  have hall : ∀ s ∈ all, ∀ t ∈ all, s.path = t.path → s = t := by
    decide
  exact hall s s.mem_all t t.mem_all h

theorem eq_of_sameName {name : String} (hs : SameName name s.variableName) (ht : SameName name t.variableName) :
    s = t :=
  eq_of_path (Option.some.inj ((path?_of_sameName hs).symm.trans (path?_of_sameName ht)))

theorem not_sameName_of_isOption {name : String} (h : IsOption name) : ¬ SameName name s.variableName := by
  intro hs
  obtain ⟨word, hpath, -⟩ := path?_option h
  cases (path?_of_sameName hs).symm.trans hpath

def given? (s : Setting) (environment : List (String × String)) : Option String :=
  (environment.find? fun entry => SameName entry.1 s.variableName).map (·.2)

theorem given?_concat_self (hs : SameName entry.1 s.variableName) (hnone : s.given? environment = none) :
    s.given? (environment ++ [entry]) = some entry.2 := by
  have hfind : environment.find? (fun entry => SameName entry.1 s.variableName) = none := Option.map_eq_none_iff.1 hnone
  rw [given?, List.find?_append, hfind, Option.none_or, List.find?_cons_of_pos (by simpa using hs), Option.map_some]

theorem given?_concat_other (hs : ¬ SameName entry.1 s.variableName) :
    s.given? (environment ++ [entry]) = s.given? environment := by
  rw [given?, List.find?_append, List.find?_cons_of_neg (by simpa using hs), List.find?_nil, Option.or_none, given?]

end Setting

/-- An environment has at most one variable for each setting; all others are those of options, and those that
are not meant for this program. -/
structure Orderly (environment : List (String × String)) : Prop where
  known : ∀ entry ∈ environment,
    (∃ s : Setting, SameName entry.1 s.variableName) ∨ IsOption entry.1 ∨ path? entry.1 = none
  once : environment.Pairwise fun a b => ∀ s : Setting, SameName a.1 s.variableName → ¬ SameName b.1 s.variableName

theorem Orderly.front (h : Orderly (environment ++ [entry])) : Orderly environment where
  known other hother := h.known other (List.mem_append_left _ hother)
  once := (List.pairwise_append.1 h.once).1

theorem Orderly.given?_eq_none {s : Setting} (h : Orderly (environment ++ [entry]))
    (hs : SameName entry.1 s.variableName) : s.given? environment = none := by
  rw [Setting.given?, Option.map_eq_none_iff, List.find?_eq_none]
  intro other hother hsame
  exact (List.pairwise_append.1 h.once).2.2 other hother entry List.mem_cons_self s (of_decide_eq_true hsame) hs

theorem merge_nest (source : Source) (ms : List (String × Value)) (v : Value) (name : String) (rest : List String) :
    (Value.map source ms).merge (nest v (name :: rest)) =
      .map .environment (Value.insert name (Value.overlay (ms.lookup name) (nest v rest)) ms) := by
  rw [nest, Value.merge, Value.mergeMembers, Value.mergeMembers]
  cases ms.lookup name <;> rfl

theorem read_concat (environment : List (String × String)) (entry : String × String) :
    read (environment ++ [entry]) =
      match path? entry.1 with
      | some path => (read environment).merge (nest (value entry.2) path)
      | none => read environment := by
  cases hpath : path? entry.1 <;>
    simp only [Environment.read, List.foldl_append, List.foldl_cons, List.foldl_nil, hpath]

/-- What the environment has for a section: nothing at all, or a map of what it has for the settings. -/
inductive SectionLayer (environment : List (String × String)) (p : Section) : Option Value → Prop where
  | absent (hnone : ∀ s : Setting, s.home = p → s.given? environment = none) : SectionLayer environment p none
  | given (fields : List (String × Value)) (hordered : Value.Ordered fields)
      (hfields : ∀ s : Setting, s.home = p → fields.lookup s.field = (s.given? environment).map value)
      (hsome : ∃ s : Setting, s.home = p ∧ (s.given? environment).isSome) :
      SectionLayer environment p (some (.map .environment fields))

theorem SectionLayer.concat_other {p : Section} {found : Option Value} (h : SectionLayer environment p found)
    (hother : ∀ s : Setting, s.home = p → ¬ SameName entry.1 s.variableName) :
    SectionLayer (environment ++ [entry]) p found := by
  have hsame (s : Setting) (hs : s.home = p) : s.given? (environment ++ [entry]) = s.given? environment :=
    Setting.given?_concat_other (hother s hs)
  cases h with
  | absent hnone => exact .absent fun s hs => (hsame s hs).trans (hnone s hs)
  | given fields hordered hfields hsome =>
      refine .given fields hordered (fun s hs => (hsame s hs).symm ▸ hfields s hs) ?_
      obtain ⟨s, hs, hsome⟩ := hsome
      exact ⟨s, hs, (hsame s hs).symm ▸ hsome⟩

theorem SectionLayer.concat_self {s : Setting} {found : Option Value} (h : SectionLayer environment s.home found)
    (hs : SameName entry.1 s.variableName) (hnone : s.given? environment = none) :
    SectionLayer (environment ++ [entry]) s.home (some (Value.overlay found (nest (value entry.2) [s.field]))) := by
  have hself := Setting.given?_concat_self hs hnone
  have hfield (fields : List (String × Value)) (hfields : ∀ t : Setting, t.home = s.home → t ≠ s →
      fields.lookup t.field = (t.given? environment).map value) (t : Setting) (ht : t.home = s.home) :
      (Value.insert s.field (value entry.2) fields).lookup t.field = (t.given? (environment ++ [entry])).map value := by
    rw [Value.lookup_insert]
    by_cases heq : t = s
    · rw [heq, if_pos rfl, hself, Option.map_some]
    · have hname : t.field ≠ s.field := fun hname =>
        heq (Setting.eq_of_path (by rw [Setting.path, Setting.path, ht, hname]))
      rw [if_neg hname, hfields t ht heq,
        Setting.given?_concat_other fun hsame => heq (Setting.eq_of_sameName hsame hs)]
  have hsome : ∃ t : Setting, t.home = s.home ∧ (t.given? (environment ++ [entry])).isSome :=
    ⟨s, rfl, hself ▸ rfl⟩
  cases h with
  | absent hall =>
      refine .given _ (List.pairwise_singleton _ _) (hfield [] fun t ht _ => ?_) hsome
      rw [hall t ht]
      rfl
  | given fields hordered hfields =>
      rw [Value.overlay, merge_nest, hfields s rfl, hnone]
      exact .given _ (Value.ordered_insert _ _ hordered) (hfield fields fun t ht _ => hfields t ht) hsome

theorem read_layers (h : Orderly environment) : ∃ ms, read environment = .map .environment ms ∧ Value.Ordered ms ∧
    ∀ p : Section, SectionLayer environment p (ms.lookup p.name) := by
  induction environment using List.reverseRecOn with
  | nil => exact ⟨[], rfl, List.Pairwise.nil, fun p => .absent fun s _ => rfl⟩
  | append_singleton environment entry ih =>
      obtain ⟨ms, hread, hordered, hlayers⟩ := ih h.front
      rw [read_concat, hread]
      rcases h.known entry (List.mem_append_right _ List.mem_cons_self) with ⟨s, hs⟩ | hoption | hnone
      · rw [Setting.path?_of_sameName hs]
        refine ⟨_, merge_nest _ _ _ _ _, Value.ordered_insert _ _ hordered, fun p => ?_⟩
        rw [Value.lookup_insert]
        by_cases hp : p = s.home
        · rw [hp, if_pos rfl]
          exact (hlayers s.home).concat_self hs (h.given?_eq_none hs)
        · rw [if_neg fun hname => hp (Section.eq_of_name hname)]
          refine (hlayers p).concat_other fun t ht hsame => ?_
          exact hp (ht.symm.trans (congrArg Setting.home (Setting.eq_of_sameName hsame hs)))
      · obtain ⟨word, hpath, hword⟩ := path?_option hoption
        rw [hpath]
        refine ⟨_, merge_nest _ _ _ _ _, Value.ordered_insert _ _ hordered, fun p => ?_⟩
        rw [Value.lookup_insert, if_neg (hword p)]
        exact (hlayers p).concat_other fun t _ => Setting.not_sameName_of_isOption hoption
      · rw [hnone]
        refine ⟨ms, rfl, hordered, fun p => (hlayers p).concat_other fun t _ hsame => ?_⟩
        cases hnone.symm.trans (Setting.path?_of_sameName hsame)

end Config
end PairedTls
