import PairedTls.Proofs.ConfigLayers
import PairedTls.Proofs.DurationValue

namespace PairedTls.Config

open Environment Value

variable {environment before after : List (String × String)} {s t : Setting} {v : Value}
  {base upper : List (String × Value)}

namespace Environment

theorem neat_readValue? {fuel : Nat} {cs rest : List Char} {v : Value} (h : readValue? fuel cs = some (v, rest)) :
    v.Neat := by
  cases fuel with
  | zero =>
    rw [readValue?] at h
    cases h
  | succ fuel =>
      rw [readValue?] at h
      dsimp only at h
      split at h
      · cases h
        exact neat_scalar _ _
      · cases h
        exact neat_scalar _ _
      · split at h
        · obtain ⟨⟨members, after⟩, -, h⟩ := Option.map_eq_some_iff.1 h
          cases h
          exact neat_ofMembers _ _
        · obtain ⟨⟨items, after⟩, -, h⟩ := Option.map_eq_some_iff.1 h
          cases h
          exact neat_list _ _
        · obtain ⟨⟨text, after⟩, -, h⟩ := Option.bind_eq_some_iff.1 h
          cases h
          exact neat_scalar _ _
        · split at h
          · cases h
            exact neat_scalar _ _
          · cases h
        · cases h
          exact neat_scalar _ _

theorem neat_value (text : String) : (value text).Neat := by
  rw [value]
  split
  · next h => exact neat_readValue? h
  · exact neat_scalar _ _

theorem neat_nest {v : Value} (h : v.Neat) (path : List String) : (nest v path).Neat := by
  cases path with
  | nil => exact h
  | cons name path => exact neat_map (List.pairwise_singleton _ _)

end Environment

theorem read_sections (environment : List (String × String)) :
    ∃ ms, read environment = .map .environment ms ∧ Ordered ms ∧ ∀ k w, ms.lookup k = some w → w.Neat ∧
      ((∀ entry ∈ environment, path? entry.1 = some [k] → ∃ source new, value entry.2 = .map source new) →
        ∃ source fields, w = .map source fields) := by
  induction environment using List.reverseRecOn with
  | nil => exact ⟨[], rfl, List.Pairwise.nil, nofun⟩
  | append_singleton environment entry ih =>
      obtain ⟨ms, hread, hordered, hsections⟩ := ih
      have hfront {k : String} {w : Value} (hw : ms.lookup k = some w) : w.Neat ∧
          ((∀ other ∈ environment ++ [entry], path? other.1 = some [k] →
            ∃ source new, value other.2 = .map source new) →
            ∃ source fields, w = .map source fields) :=
        ⟨(hsections k w hw).1, fun h =>
          (hsections k w hw).2 fun other hother => h other (List.mem_append_left _ hother)⟩
      rw [read_concat, hread]
      cases hpath : path? entry.1 with
      | none => exact ⟨ms, rfl, hordered, fun k w hw => hfront hw⟩
      | some path =>
          cases path with
          | nil => exact absurd hpath (path?_ne_nil entry.1)
          | cons name rest =>
              refine ⟨_, merge_nest _ _ _ _ _, ordered_insert _ _ hordered, fun k w hw => ?_⟩
              rw [lookup_insert] at hw
              split_ifs at hw with hk
              · subst hk
                cases hw
                refine ⟨neat_overlay (fun w hw => (hfront hw).1) (neat_nest (neat_value _) rest), fun hmaps => ?_⟩
                obtain ⟨source, new, hnew⟩ : ∃ source new, nest (value entry.2) rest = .map source new := by
                  cases rest with
                  | nil => exact hmaps entry (List.mem_append_right _ List.mem_cons_self) hpath
                  | cons name rest => exact ⟨_, _, rfl⟩
                rw [hnew]
                obtain ⟨fields, hfields⟩ := overlay_map (ms.lookup k) source new
                exact ⟨source, fields, hfields⟩
              · exact hfront hw

/-- A variable that has nothing for a setting: it is for another section, or what it has for this one is a map of
other settings. -/
def Silent (s : Setting) (entry : String × String) : Prop :=
  ∀ rest, path? entry.1 = some (s.home.name :: rest) →
    ∃ source new, nest (value entry.2) rest = .map source new ∧ new.lookup s.field = none

/-- Two layers that are the same but for one setting, for which the second one has a value of its own. -/
structure Beside (s : Setting) (v : Value) (base upper : List (String × Value)) : Prop where
  ordered : Ordered base
  ordered_upper : Ordered upper
  others : ∀ k, k ≠ s.home.name → upper.lookup k = base.lookup k
  under : ∀ w, base.lookup s.home.name = some w → ∃ source fields, w = .map source fields ∧ Ordered fields
  own : ∃ source fields, upper.lookup s.home.name = some (.map source fields) ∧ Ordered fields ∧
    (∃ earlier, fields.lookup s.field = some (overlay earlier v)) ∧
    ∀ k, k ≠ s.field → fields.lookup k = (base.lookup s.home.name).bind (·.member? k)

namespace Beside

theorem neat_under (h : Beside s v base upper) (w : Value) (hw : base.lookup s.home.name = some w) : w.Neat := by
  obtain ⟨_, _, rfl, hfields⟩ := h.under w hw
  exact neat_map hfields

theorem merge_silent (h : Beside s v base upper) {name : String} {later : Value} (hneat : later.Neat)
    (hsilent : name = s.home.name → ∃ source new, later = .map source new ∧ new.lookup s.field = none) :
    Beside s v (insert name (overlay (base.lookup name) later) base)
      (insert name (overlay (upper.lookup name) later) upper) := by
  have hordered := ordered_insert name (overlay (base.lookup name) later) h.ordered
  have hordered_upper := ordered_insert name (overlay (upper.lookup name) later) h.ordered_upper
  have hothers (k : String) (hk : k ≠ s.home.name) :
      (insert name (overlay (upper.lookup name) later) upper).lookup k =
        (insert name (overlay (base.lookup name) later) base).lookup k := by
    rw [lookup_insert, lookup_insert]
    split_ifs with hname
    · rw [← hname, h.others k hk]
    · exact h.others k hk
  -- In the section of the setting the layers are merged member by member, in any other one they are the same.
  by_cases hname : name = s.home.name
  · obtain ⟨source, new, rfl, hfield⟩ := hsilent hname
    subst hname
    have hnew : Ordered new := hneat source new rfl
    obtain ⟨inner, fields, hown, hfields, ⟨earlier, hvalue⟩, hrest⟩ := h.own
    refine ⟨hordered, hordered_upper, hothers, fun w hw => ?_, ?_⟩
    · rw [lookup_insert, if_pos rfl] at hw
      cases hw
      obtain ⟨ms, hms, hordered, -⟩ := overlay_fields h.neat_under source hnew
      exact ⟨source, ms, hms, hordered⟩
    · have hneat_own (w : Value) (hw : some (map inner fields) = some w) : w.Neat :=
        Option.some.inj hw ▸ neat_map hfields
      obtain ⟨ms, hms, hordered, hlookup⟩ := overlay_fields hneat_own source hnew
      refine ⟨source, ms, ?_, hordered, ⟨earlier, ?_⟩, fun k hk => ?_⟩
      · rw [lookup_insert, if_pos rfl, hown, hms]
      · rw [hlookup, hfield]
        exact hvalue
      · have hbelow := member?_overlay (base.lookup s.home.name) source k hnew
        rw [← hrest k hk] at hbelow
        rw [lookup_insert, if_pos rfl]
        exact (hlookup k).trans hbelow.symm
  · have hkeep (layer : List (String × Value)) :
        (insert name (overlay (layer.lookup name) later) layer).lookup s.home.name = layer.lookup s.home.name := by
      rw [lookup_insert, if_neg (Ne.symm hname)]
    refine ⟨hordered, hordered_upper, hothers, ?_, ?_⟩
    · rw [hkeep]
      exact h.under
    · rw [hkeep, hkeep]
      exact h.own

theorem put_own (ms : List (String × Value)) (s : Setting) (v : Value)
    (hneat : ∀ w, ms.lookup s.home.name = some w → w.Neat) :
    ∃ source fields,
      (insert s.home.name (overlay (ms.lookup s.home.name) (nest v [s.field])) ms).lookup s.home.name =
        some (.map source fields) ∧ Ordered fields ∧
      (∃ earlier, fields.lookup s.field = some (overlay earlier v)) ∧
      ∀ k, k ≠ s.field → fields.lookup k = (ms.lookup s.home.name).bind (·.member? k) := by
  have hsingle : Ordered [(s.field, v)] := List.pairwise_singleton _ _
  obtain ⟨fields, hfields, hordered, hlookup⟩ := overlay_fields hneat .environment hsingle
  refine ⟨.environment, fields, ?_, hordered, ⟨(ms.lookup s.home.name).bind (·.member? s.field), ?_⟩, fun k hk => ?_⟩
  · rw [lookup_insert, if_pos rfl]
    exact congrArg some hfields
  · rw [hlookup, lookup_cons, if_pos rfl, Option.elim_some]
  · rw [hlookup, lookup_cons, if_neg hk, List.lookup_nil, Option.elim_none]

theorem of_unset {ms : List (String × Value)} (hordered : Ordered ms)
    (hunder : ∀ w, ms.lookup s.home.name = some w → ∃ source fields, w = .map source fields ∧ Ordered fields) :
    Beside s v ms (insert s.home.name (overlay (ms.lookup s.home.name) (nest v [s.field])) ms) where
  ordered := hordered
  ordered_upper := ordered_insert _ _ hordered
  others k hk := by rw [lookup_insert, if_neg hk]
  under := hunder
  own := put_own ms s v fun w hw => by
    obtain ⟨_, _, rfl, hfields⟩ := hunder w hw
    exact neat_map hfields

theorem of_set {ms : List (String × Value)} (w : Value) (hordered : Ordered ms)
    (hneat : ∀ w, ms.lookup s.home.name = some w → w.Neat) :
    Beside s v (insert s.home.name (overlay (ms.lookup s.home.name) (nest w [s.field])) ms)
      (insert s.home.name (overlay (ms.lookup s.home.name) (nest v [s.field])) ms) := by
  obtain ⟨source, fields, hlookup, hfields, -, hrest⟩ := put_own ms s w hneat
  obtain ⟨source', fields', hlookup', hfields', hvalue, hrest'⟩ := put_own ms s v hneat
  refine ⟨ordered_insert _ _ hordered, ordered_insert _ _ hordered, fun k hk => ?_, fun u hu => ?_,
    source', fields', hlookup', hfields', hvalue, fun k hk => ?_⟩
  · rw [lookup_insert, lookup_insert, if_neg hk, if_neg hk]
  · rw [hlookup] at hu
    cases hu
    exact ⟨source, fields, rfl, hfields⟩
  · rw [hlookup, hrest' k hk]
    exact (hrest k hk).symm

theorem read_after {front front' : List (String × String)} (h : Beside s v base upper)
    (hbase : read front = .map .environment base) (hupper : read front' = .map .environment upper)
    (hafter : ∀ entry ∈ after, Silent s entry) :
    ∃ base' upper', read (front ++ after) = .map .environment base' ∧
      read (front' ++ after) = .map .environment upper' ∧ Beside s v base' upper' := by
  induction after using List.reverseRecOn with
  | nil => exact ⟨base, upper, by rwa [List.append_nil], by rwa [List.append_nil], h⟩
  | append_singleton after entry ih =>
      obtain ⟨base', upper', hbase', hupper', h'⟩ := ih fun other hother => hafter other (List.mem_append_left _ hother)
      rw [← List.append_assoc, ← List.append_assoc, read_concat, read_concat, hbase', hupper']
      cases hpath : path? entry.1 with
      | none => exact ⟨base', upper', rfl, rfl, h'⟩
      | some names =>
          cases names with
          | nil => exact absurd hpath (path?_ne_nil entry.1)
          | cons name rest =>
              refine ⟨_, _, merge_nest _ _ _ _ _, merge_nest _ _ _ _ _,
                h'.merge_silent (neat_nest (neat_value _) rest) ?_⟩
              rintro rfl
              exact hafter entry (List.mem_append_right _ List.mem_cons_self) rest hpath

variable {file : Value} {c : Config}

theorem member?_other (h : Beside s v base upper) (file : Value) (p : Section) (hp : p ≠ s.home) :
    (file.merge (.map .environment upper)).member? p.name = (file.merge (.map .environment base)).member? p.name := by
  have hname : p.name ≠ s.home.name := fun hname => hp (Section.eq_of_name hname)
  rw [member?_merge _ _ _ h.ordered, member?_merge _ _ _ h.ordered_upper, h.others _ hname]

theorem settles (h : Beside s v base upper)
    (hconfig : Decoder.config .ignored (file.merge (.map .environment base)) = .ok c) (ht : t ≠ s) :
    ∃ a, t.settle (t.inFile? (file.merge (.map .environment upper))) = .ok a := by
  have hsettle : t.settle (t.inFile? (file.merge (.map .environment base))) = .ok (t.get c) := by
    obtain ⟨merged, hmerged⟩ := merge_map file .environment base
    rw [hmerged] at hconfig ⊢
    exact Decoder.config_settles hconfig t
  rw [Setting.inFile?] at hsettle ⊢
  by_cases hhome : t.home = s.home
  · obtain ⟨source, fields, hown, hfields, -, hrest⟩ := h.own
    have hfield : t.field ≠ s.field := fun hfield =>
      ht (Setting.eq_of_path (by rw [Setting.path, Setting.path, hhome, hfield]))
    have hupper := member?_merge file .environment s.home.name h.ordered_upper
    have hbase := member?_merge file .environment s.home.name h.ordered
    rw [hown, Option.elim_some] at hupper
    rw [hhome, hupper, Option.bind_some, t.within?_over hfields, hrest _ hfield]
    rw [hhome, hbase] at hsettle
    cases hlookup : base.lookup s.home.name with
    | some w =>
        obtain ⟨source', fields', rfl, hordered⟩ := h.under w hlookup
        rw [hlookup, Option.elim_some, Option.bind_some, t.within?_over hordered] at hsettle
        exact ⟨_, hsettle⟩
    | none =>
        rw [hlookup, Option.elim_none] at hsettle
        cases hfile : file.member? s.home.name with
        | none => exact ⟨_, rfl⟩
        | some w =>
            rw [hfile] at hsettle
            -- What a list of the file had for it is gone, and it is as usual.
            cases w with
            | map => exact ⟨_, hsettle⟩
            | list | scalar => exact ⟨_, rfl⟩
  · rw [h.member?_other file t.home hhome]
    exact ⟨_, hsettle⟩

theorem sectioned (h : Beside s v base upper)
    (hconfig : Decoder.config .ignored (file.merge (.map .environment base)) = .ok c) {merged : List (String × Value)}
    (hmerged : file.merge (.map .environment upper) = .map .environment merged) : Sectioned merged := by
  intro p source x hlookup
  have hmember : (file.merge (.map .environment upper)).member? p.name = some (.scalar source x) := by
    rw [hmerged]
    exact hlookup
  by_cases hp : p = s.home
  · subst hp
    obtain ⟨inner, fields, hown, -⟩ := h.own
    rw [member?_merge _ _ _ h.ordered_upper, hown, Option.elim_some] at hmember
    obtain ⟨ms, hms⟩ := overlay_map (file.member? s.home.name) inner fields
    rw [hms] at hmember
    cases hmember
  · rw [h.member?_other file p hp] at hmember
    obtain ⟨merged', hmerged'⟩ := merge_map file .environment base
    rw [hmerged'] at hconfig hmember
    exact Decoder.sectioned_of_config hconfig p source x hmember

theorem own_merged (h : Beside s v base upper) (file : Value) :
    ∃ source fields w, (file.merge (.map .environment upper)).member? s.home.name = some (.map source fields) ∧
      fields.lookup s.field = some w ∧ s.decode w = s.decode v := by
  obtain ⟨inner, fields, hown, hfields, ⟨earlier, hvalue⟩, -⟩ := h.own
  obtain ⟨ms, hms⟩ := overlay_map (file.member? s.home.name) inner fields
  have hmember := member?_merge file .environment s.home.name h.ordered_upper
  have hlookup := member?_overlay (file.member? s.home.name) inner s.field hfields
  rw [hown, Option.elim_some, hms] at hmember
  rw [hms, hvalue, Option.elim_some] at hlookup
  exact ⟨inner, ms, _, hmember, hlookup, (s.decode_overlay _ _).trans (s.decode_overlay _ _)⟩

theorem exists_settled (h : Beside s v base upper)
    (hconfig : Decoder.config .ignored (file.merge (.map .environment base)) = .ok c) (a : s.Kind) :
    ∃ c', s.get c' = a ∧ ∀ t, t ≠ s → t.settle (t.inFile? (file.merge (.map .environment upper))) = .ok (t.get c') := by
  have hall (t : Setting) :
      ∃ b, t ≠ s → t.settle (t.inFile? (file.merge (.map .environment upper))) = .ok b := by
    by_cases ht : t = s
    · exact ⟨t.get Config.default, fun hne => absurd ht hne⟩
    · exact (h.settles hconfig ht).imp fun b hb _ => hb
  choose f hf using hall
  obtain ⟨c', hc'⟩ := Setting.exists_config (Function.update f s a)
  refine ⟨c', (hc' s).trans (Function.update_self ..), fun t ht => ?_⟩
  rw [hc' t, Function.update_of_ne ht]
  exact hf t ht

theorem config_of_ok (h : Beside s v base upper)
    (hconfig : Decoder.config .ignored (file.merge (.map .environment base)) = .ok c) {a : s.Kind}
    (hv : s.decode v = .ok a) :
    ∃ c', Decoder.config .ignored (file.merge (.map .environment upper)) = .ok c' ∧ s.get c' = a := by
  obtain ⟨source, fields, w, hsection, hfield, hw⟩ := h.own_merged file
  have hown : s.settle (s.inFile? (file.merge (.map .environment upper))) = .ok a := by
    rw [Setting.inFile?, hsection, Option.bind_some, Setting.within?, hfield]
    exact hw.trans hv
  obtain ⟨c', rfl, hrest⟩ := h.exists_settled hconfig a
  obtain ⟨merged, hmerged⟩ := merge_map file .environment upper
  have hform := h.sectioned hconfig hmerged
  rw [hmerged] at hrest hown ⊢
  refine ⟨c', Decoder.config_of_settles hform fun t => ?_, rfl⟩
  by_cases ht : t = s
  · exact ht ▸ hown
  · exact hrest t ht

theorem config_of_error (h : Beside s v base upper)
    (hconfig : Decoder.config .ignored (file.merge (.map .environment base)) = .ok c) {fault : FieldFault}
    (hv : s.decode v = .error fault) :
    Decoder.config .ignored (file.merge (.map .environment upper)) =
      .error { fault with path := s.path ++ fault.path } := by
  obtain ⟨source, fields, w, hsection, hfield, hw⟩ := h.own_merged file
  obtain ⟨c', -, hrest⟩ := h.exists_settled hconfig (s.get Config.default)
  obtain ⟨merged, hmerged⟩ := merge_map file .environment upper
  have hform := h.sectioned hconfig hmerged
  rw [hmerged] at hrest hsection ⊢
  exact Decoder.config_of_fault hform hsection hfield (hw.trans hv) hrest

end Beside

variable {files : Files} {path : Option String} {name text : String}

/-- All the rest of a configuration is valid, the variable `name` between the other ones set aside: it can be
loaded without it, or with some text for it. A variable in front that has the section as a whole has it as a map,
for anything else would be hidden by the variable. -/
inductive RestValid (files : Files) (path : Option String) (s : Setting) (before after : List (String × String))
    (name : String) : Prop where
  | unset (c : Config) (hload : load files (before ++ after) path = .ok c)
      (hmaps : ∀ entry ∈ before, path? entry.1 = some [s.home.name] → ∃ source new, value entry.2 = .map source new)
  | set (text : String) (c : Config) (hload : load files (before ++ (name, text) :: after) path = .ok c)

theorem read_put (before : List (String × String)) (hname : SameName name s.variableName) (text : String)
    {ms : List (String × Value)} (hread : read before = .map .environment ms) :
    read (before ++ [(name, text)]) =
      .map .environment (insert s.home.name (overlay (ms.lookup s.home.name) (nest (value text) [s.field])) ms) := by
  rw [read_concat, Setting.path?_of_sameName hname, hread]
  exact merge_nest _ _ _ _ _

theorem RestValid.exists_beside (h : RestValid files path s before after name) (hname : SameName name s.variableName)
    (text : String) :
    ∃ c front base upper, load files (front ++ after) path = .ok c ∧ read front = .map .environment base ∧
      read (before ++ [(name, text)]) = .map .environment upper ∧ Beside s (value text) base upper := by
  obtain ⟨ms, hread, hordered, hsections⟩ := read_sections before
  have hneat (w : Value) (hw : ms.lookup s.home.name = some w) : w.Neat := (hsections _ w hw).1
  have hput := read_put before hname text hread
  cases h with
  | unset c hload hmaps =>
      refine ⟨c, before, ms, _, hload, hread, hput, .of_unset hordered fun w hw => ?_⟩
      obtain ⟨source, fields, rfl⟩ := (hsections _ w hw).2 hmaps
      exact ⟨source, fields, rfl, hneat _ hw source fields rfl⟩
  | set other c hload =>
      refine ⟨c, before ++ [(name, other)], _, _, ?_, read_put before hname other hread, hput, .of_set _ hordered hneat⟩
      rwa [List.append_assoc, List.singleton_append]

theorem load_variable (hname : SameName name s.variableName) (hafter : ∀ entry ∈ after, Silent s entry)
    (hrest : RestValid files path s before after name) (text : String) :
    (∀ a, s.decode (value text) = .ok a →
      ∃ c, load files (before ++ (name, text) :: after) path = .ok c ∧ s.get c = a) ∧
    ∀ fault, s.decode (value text) = .error fault →
      load files (before ++ (name, text) :: after) path =
        .error (.field { fault with path := s.path ++ fault.path }) := by
  obtain ⟨c, front, base, upper, hload, hbase, hupper, hbeside⟩ := hrest.exists_beside hname text
  obtain ⟨base', upper', hbase', hupper', hbeside'⟩ := hbeside.read_after hbase hupper hafter
  rw [List.append_assoc, List.singleton_append] at hupper'
  obtain ⟨file, hfile, hconfig⟩ := load_eq_ok hload
  rw [hbase'] at hconfig
  have hthis (r : Except FieldFault Config)
      (hr : Decoder.config .ignored (file.merge (.map .environment upper')) = r) :
      load files (before ++ (name, text) :: after) path = r.mapError .field := by
    rw [load_eq, hupper']
    exact bind_of_ok hfile (congrArg _ hr)
  constructor
  · intro a ha
    obtain ⟨c', hc', hget⟩ := hbeside'.config_of_ok hconfig ha
    exact ⟨c', hthis _ hc', hget⟩
  · intro fault hfault
    exact hthis _ (hbeside'.config_of_error hconfig hfault)

theorem Orderly.silent {entry : String × String} (h : Orderly (before ++ entry :: after))
    (hs : SameName entry.1 s.variableName) : ∀ other ∈ after, Silent s other := by
  intro other hother rest hpath
  have hmem : other ∈ before ++ entry :: after := List.mem_append_right _ (List.mem_cons_of_mem _ hother)
  rcases h.known other hmem with ⟨t, ht⟩ | hoption | hnone
  · have hlist : t.path = s.home.name :: rest := Option.some.inj ((Setting.path?_of_sameName ht).symm.trans hpath)
    obtain ⟨hhome, rfl⟩ := List.cons.inj hlist
    refine ⟨.environment, [(t.field, value other.2)], rfl, ?_⟩
    have hfield : s.field ≠ t.field := by
      intro hfield
      obtain rfl : s = t := Setting.eq_of_path (by rw [Setting.path, Setting.path, hfield, hhome])
      have honce := (List.pairwise_cons.1 (List.pairwise_append.1 h.once).2.1).1
      exact honce other hother s hs ht
    rw [lookup_cons, if_neg hfield, List.lookup_nil]
  · obtain ⟨word, hword, hne⟩ := path?_option hoption
    cases hword.symm.trans hpath
    exact absurd rfl (hne s.home)
  · cases hnone.symm.trans hpath

inductive TimeLimit where
  | handshake
  | request
  deriving DecidableEq, Repr

namespace TimeLimit

def setting : TimeLimit → Setting
  | .handshake => .handshakeTimeout
  | .request => .requestTimeout

def get : TimeLimit → Config → Duration
  | .handshake, c => c.server.handshakeTimeout
  | .request, c => c.server.requestTimeout

end TimeLimit

open Duration

/-- A variable sets a time limit to what its text spells if the text has a unit. A bare number of seconds, fit for
a duration though it is, has become a number on the way, and is refused. -/
theorem timeLimit_by_variable {limit : TimeLimit} (hname : SameName name limit.setting.variableName)
    (hafter : ∀ entry ∈ after, Silent limit.setting entry)
    (hrest : RestValid files path limit.setting before after name) {source : Source} {d : Duration}
    (haccepted : Decoder.duration (.scalar source (.text text)) = .ok d) :
    (∃ w : Spelling, w.text = text) ∧ ∀ w : Spelling, w.text = text →
      if w.unit = .unsaid then
        load files (before ++ (name, text) :: after) path =
          .error (.field ⟨.wrongType (.scalar (.unsigned w.number.value)) "a string", limit.setting.path, .environment⟩)
      else ∃ c, load files (before ++ (name, text) :: after) path = .ok c ∧ limit.get c = d := by
  have hparse : parse text = .ok d := by
    rwa [Decoder.duration_text, mapError_eq_ok] at haccepted
  obtain ⟨w, hw, -⟩ := parse_eq_ok_iff.1 hparse
  refine ⟨⟨w, hw⟩, fun w hw => ?_⟩
  subst hw
  have hvalue := value_of_spelling (Spelling.value_lt_of_parse hparse)
  have hload := load_variable hname hafter hrest w.text
  rw [hvalue] at hload
  split_ifs with hunit
  · rw [if_pos hunit] at hload
    have hload := hload.2 ⟨.wrongType (.scalar (.unsigned w.number.value)) "a string", [], .environment⟩
      (by cases limit <;> rfl)
    rwa [List.append_nil] at hload
  · rw [if_neg hunit] at hload
    have hduration : Decoder.duration (.scalar .environment (.text w.text)) = .ok d := by
      rw [Decoder.duration_text, hparse]
      rfl
    cases limit with
    | handshake => exact hload.1 d hduration
    | request => exact hload.1 d hduration

def twoMinutes : Spelling :=
  ⟨⟨false, ['2'], nofun, List.forall_mem_singleton.2 rfl⟩, .minutes⟩

def bareSeven : Spelling :=
  ⟨⟨false, ['7'], nofun, List.forall_mem_singleton.2 rfl⟩, .unsaid⟩

theorem timeLimit_by_variable_layered :
    let loadWith (text : String) := load layered.1
      ([("WOLF_TLS_SERVER__PORT", "2")] ++ ("wolf_tls_server__handshake_timeout", text) :: layered.2.drop 2)
      (some "wolf.yaml")
    (∃ c, loadWith "4s" = .ok c) ∧
      Decoder.duration (.scalar .direct (.text "2m")) = .ok (.ofSecs 120 (by decide)) ∧
      (∃ c, loadWith "2m" = .ok c ∧ TimeLimit.handshake.get c = .ofSecs 120 (by decide)) ∧
      Decoder.duration (.scalar .direct (.text "7")) = .ok (.ofSecs 7 (by decide)) ∧
      loadWith "7" = .error (.field
        ⟨.wrongType (.scalar (.unsigned 7)) "a string", ["server", "handshake_timeout"], .environment⟩) := by
  intro loadWith
  have hload : loadWith "4s" = .ok { settled with server.port := 2 } := by
    decide +kernel
  have hname : SameName "wolf_tls_server__handshake_timeout" TimeLimit.handshake.setting.variableName := by
    decide
  have horderly : Orderly ([("WOLF_TLS_SERVER__PORT", "2")] ++
      ("wolf_tls_server__handshake_timeout", "4s") :: layered.2.drop 2) := orderly_layered
  have hafter := horderly.silent hname
  have hrest : RestValid layered.1 (some "wolf.yaml") TimeLimit.handshake.setting [("WOLF_TLS_SERVER__PORT", "2")]
      (layered.2.drop 2) "wolf_tls_server__handshake_timeout" := .set "4s" _ hload
  have hminutes : Decoder.duration (.scalar .direct (.text "2m")) = .ok (.ofSecs 120 (by decide)) := by
    decide
  have hbare : Decoder.duration (.scalar .direct (.text "7")) = .ok (.ofSecs 7 (by decide)) := by
    decide
  refine ⟨⟨_, hload⟩, hminutes, ?_, hbare, ?_⟩
  · exact (timeLimit_by_variable hname hafter hrest hminutes).2 twoMinutes (by decide)
  · exact (timeLimit_by_variable hname hafter hrest hbare).2 bareSeven (by decide)

end PairedTls.Config
