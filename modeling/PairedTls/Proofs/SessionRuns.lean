import Mathlib.Data.List.Induction
import PairedTls.Proofs.Sequences
import PairedTls.Proofs.SessionScopes

namespace PairedTls

inductive StoreCall
  | put (key value : Bytes)
  | get (key : Bytes)
  | take (key : Bytes)
  | canCache
  deriving DecidableEq, Repr

/-- A put is answered with yes whatever becomes of the value. -/
inductive StoreAnswer
  | yes (b : Bool)
  | session (found : Option Bytes)
  deriving DecidableEq, Repr

namespace StoreCall

def rename (f : Bytes → Bytes) : StoreCall → StoreCall
  | .put key value => .put (f key) value
  | .get key => .get (f key)
  | .take key => .take (f key)
  | .canCache => .canCache

/-- What a call makes of the value under a key, in a store that never lacks room. -/
def effect (key : Bytes) (old : Option Bytes) : StoreCall → Option Bytes
  | .put other value => if other = key then some value else old
  | .take other => if other = key then none else old
  | .get _ | .canCache => old

def Leaves (key : Bytes) (call : StoreCall) : Prop :=
  (∀ value, call ≠ .put key value) ∧ call ≠ .take key

end StoreCall

namespace SessionCache

def keys (c : SessionCache) : List Bytes :=
  c.entries.map Prod.fst

def serve (c : SessionCache) : StoreCall → StoreAnswer × SessionCache
  | .put key value => (.yes true, c.put key value)
  | .get key => (.session (c.get? key), c)
  | .take key => (.session (c.take key).1, (c.take key).2)
  | .canCache => (.yes c.canCache, c)

/-- The key that a call pushes out: it was held or is put, and is not held afterwards. -/
def pushedOut? (c : SessionCache) : StoreCall → Option Bytes
  | .put key value => (c.keys ++ [key]).find? fun k => k ∉ (c.put key value).keys
  | .get _ | .take _ | .canCache => none

variable {c : SessionCache} {key other value : Bytes}

def rename (f : Bytes → Bytes) (c : SessionCache) : SessionCache :=
  { c with entries := c.entries.map (Prod.map f id) }

section Rename

variable {f : Bytes → Bytes}

theorem keys_rename (f : Bytes → Bytes) (c : SessionCache) : (c.rename f).keys = c.keys.map f := by
  simp only [keys, rename, List.map_map]
  rfl

theorem replace_rename (hf : Function.Injective f) (key value : Bytes) (entries : List (Bytes × Bytes)) :
    replace (f key) value (entries.map (Prod.map f id)) = (replace key value entries).map (Prod.map f id) := by
  induction entries with
  | nil => rfl
  | cons entry entries ih =>
      obtain ⟨k, v⟩ := entry
      rw [List.map_cons, Prod.map_apply, replace, replace]
      by_cases hk : k = key
      · rw [if_pos hk, if_pos (congrArg f hk)]
        rfl
      · rw [if_neg hk, if_neg (hf.ne hk), ih]
        rfl

theorem erase_rename (hf : Function.Injective f) (key : Bytes) (entries : List (Bytes × Bytes)) :
    erase (f key) (entries.map (Prod.map f id)) = (erase key entries).map (Prod.map f id) := by
  rw [erase, erase, List.filter_map]
  congr 1
  refine List.filter_congr fun entry _ => ?_
  simp [bne, hf.eq_iff]

theorem get?_rename (hf : Function.Injective f) (c : SessionCache) (key : Bytes) :
    (c.rename f).get? (f key) = c.get? key :=
  lookup_map hf key c.entries

theorem put_rename (hf : Function.Injective f) (c : SessionCache) (key value : Bytes) :
    (c.rename f).put (f key) value = (c.put key value).rename f := by
  rw [put, put, get?_rename hf]
  split
  · rw [rename, rename, replace_rename hf]
  · have happend : (c.rename f).entries ++ [(f key, value)] = (c.entries ++ [(key, value)]).map (Prod.map f id) := by
      simp [rename]
    simp only [happend, List.length_map]
    rw [rename, rename, ← List.map_tail]
    split <;> rfl

/-- Nothing that a cache does depends on what its keys are. -/
theorem serve_rename (hf : Function.Injective f) (c : SessionCache) (call : StoreCall) :
    (c.rename f).serve (call.rename f) = ((c.serve call).1, (c.serve call).2.rename f) := by
  cases call with
  | put key value => rw [StoreCall.rename, serve, serve, put_rename hf]
  | get key => rw [StoreCall.rename, serve, serve, get?_rename hf]
  | take key =>
      rw [StoreCall.rename, serve, serve, take, take, get?_rename hf]
      simp only [rename, erase_rename hf]
  | canCache => rfl

theorem pushedOut?_rename (hf : Function.Injective f) (c : SessionCache) (call : StoreCall) :
    (c.rename f).pushedOut? (call.rename f) = (c.pushedOut? call).map f := by
  cases call with
  | put key value =>
      have happend : (c.rename f).keys ++ [f key] = (c.keys ++ [key]).map f := by
        rw [keys_rename, List.map_append, List.map_singleton]
      have hlost (k : Bytes) : f k ∉ ((c.rename f).put (f key) value).keys ↔ k ∉ (c.put key value).keys := by
        rw [put_rename hf, keys_rename, List.mem_map_of_injective hf]
      simp only [StoreCall.rename, pushedOut?, happend, List.find?_map, Function.comp_def, hlost]
  | get key | take key | canCache => rfl

end Rename

theorem notMem_keys_iff : key ∉ c.keys ↔ c.get? key = none :=
  lookup_eq_none.symm

theorem mem_keys_iff : key ∈ c.keys ↔ (c.get? key).isSome = true := by
  rw [← not_iff_not, notMem_keys_iff, Option.not_isSome_iff_eq_none]

theorem keys_replace (key value : Bytes) (entries : List (Bytes × Bytes)) :
    (replace key value entries).map Prod.fst = entries.map Prod.fst := by
  induction entries with
  | nil => rfl
  | cons entry entries ih =>
      obtain ⟨k, v⟩ := entry
      rw [replace]
      split
      · rfl
      · rw [List.map_cons, List.map_cons, ih]

theorem keys_concat (c : SessionCache) (key value : Bytes) :
    (c.entries ++ [(key, value)]).map Prod.fst = c.keys ++ [key] := by
  rw [List.map_append, keys, List.map_singleton]

theorem nodup_concat (hc : c.keys.Nodup) (hnew : key ∉ c.keys) : (c.keys ++ [key]).Nodup :=
  List.concat_eq_append ▸ hc.concat hnew

theorem entries_put_held (hold : key ∈ c.keys) (value : Bytes) :
    (c.put key value).entries = replace key value c.entries := by
  rw [put, if_pos (mem_keys_iff.1 hold)]

theorem entries_put_new (hnew : key ∉ c.keys) (value : Bytes) :
    (c.put key value).entries =
      if c.capacity < (c.entries ++ [(key, value)]).length then (c.entries ++ [(key, value)]).tail
      else c.entries ++ [(key, value)] := by
  rw [put, if_neg (mt mem_keys_iff.2 hnew)]

theorem pushedOut?_eq_none (h : ∀ k ∈ c.keys ++ [key], k ∈ (c.put key value).keys) :
    c.pushedOut? (.put key value) = none :=
  List.find?_eq_none.2 fun k hk => by simpa using h k hk

theorem pushedOut?_eq_head (hall : (c.keys ++ [key]).Nodup) (h : (c.put key value).keys = (c.keys ++ [key]).tail) :
    c.pushedOut? (.put key value) = (c.keys ++ [key]).head? := by
  rw [pushedOut?, h]
  cases hqueue : c.keys ++ [key] with
  | nil => rfl
  | cons first rest =>
      rw [hqueue] at hall
      exact List.find?_cons_of_pos (decide_eq_true (List.nodup_cons.1 hall).1)

theorem put_cases (hc : c.keys.Nodup) (key value : Bytes) :
    key ∈ c.keys ∧ c.pushedOut? (.put key value) = none ∧
        (c.put key value).entries = replace key value c.entries ∨
      key ∉ c.keys ∧ c.pushedOut? (.put key value) = none ∧
        (c.put key value).entries = c.entries ++ [(key, value)] ∨
      key ∉ c.keys ∧ c.pushedOut? (.put key value) = (c.keys ++ [key]).head? ∧
        (c.put key value).entries = (c.entries ++ [(key, value)]).tail := by
  by_cases hold : key ∈ c.keys
  · have hput := entries_put_held hold value
    refine .inl ⟨hold, pushedOut?_eq_none ?_, hput⟩
    rw [keys.eq_1 (c.put key value), hput, keys_replace, List.forall_mem_append, List.forall_mem_singleton]
    exact ⟨fun k hk => hk, hold⟩
  · have hput := entries_put_new hold value
    right
    by_cases hfull : c.capacity < (c.entries ++ [(key, value)]).length
    · rw [if_pos hfull] at hput
      refine .inr ⟨hold, pushedOut?_eq_head (nodup_concat hc hold) ?_, hput⟩
      rw [keys, hput, List.map_tail, keys_concat]
    · rw [if_neg hfull] at hput
      refine .inl ⟨hold, pushedOut?_eq_none fun k hk => ?_, hput⟩
      rwa [keys, hput, keys_concat]

/-- A put takes no key from the queue but the one that it pushes out, which is the first, and adds none but a new one,
which is the last. -/
theorem keys_put (hc : c.keys.Nodup) (key value : Bytes) :
    c.keys ++ (if key ∈ c.keys then [] else [key]) =
      (c.pushedOut? (.put key value)).toList ++ (c.put key value).keys := by
  obtain ⟨hkey, hout, hentries⟩ | ⟨hkey, hout, hentries⟩ | ⟨hkey, hout, hentries⟩ := put_cases hc key value
  · rw [if_pos hkey, hout, keys, keys, hentries, keys_replace, List.append_nil]
    rfl
  · rw [if_neg hkey, hout, keys, keys, hentries, keys_concat]
    rfl
  · rw [if_neg hkey, hout, keys.eq_1 (c.put key value), hentries, List.map_tail, keys_concat]
    cases c.keys ++ [key] <;> rfl

theorem nodup_put (hc : c.keys.Nodup) (key value : Bytes) : (c.put key value).keys.Nodup := by
  have hall : (c.keys ++ if key ∈ c.keys then [] else [key]).Nodup := by
    split
    · rwa [List.append_nil]
    · next hnew => exact nodup_concat hc hnew
  rw [keys_put hc key value] at hall
  exact hall.of_append_right

theorem nodup_serve (hc : c.keys.Nodup) (call : StoreCall) : (c.serve call).2.keys.Nodup := by
  cases call with
  | put key value => exact nodup_put hc key value
  | take key => exact hc.sublist (List.filter_sublist.map Prod.fst)
  | get key | canCache => exact hc

theorem lookup_replace_other {entries : List (Bytes × Bytes)} (h : key ≠ other) :
    (replace key value entries).lookup other = entries.lookup other := by
  induction entries with
  | nil => rfl
  | cons entry entries ih =>
      obtain ⟨k, v⟩ := entry
      rw [replace]
      split
      · next hk => rw [lookup_cons, lookup_cons, if_neg (hk ▸ Ne.symm h), if_neg (hk ▸ Ne.symm h)]
      · rw [lookup_cons, lookup_cons, ih]

theorem lookup_concat (hnew : key ∉ c.keys) (value other : Bytes) :
    (c.entries ++ [(key, value)]).lookup other = if key = other then some value else c.get? other := by
  rw [List.lookup_append, List.lookup_singleton]
  by_cases hkey : key = other
  · have hnone : c.entries.lookup other = none := notMem_keys_iff.1 (hkey ▸ hnew)
    simp [hkey, hnone]
  · simp [hkey, Ne.symm hkey, get?]

theorem get?_put_eq (hc : c.keys.Nodup) (key value other : Bytes) :
    (c.put key value).get? other =
      if c.pushedOut? (.put key value) = some other then none
      else if key = other then some value else c.get? other := by
  obtain ⟨hkey, hout, hentries⟩ | ⟨hkey, hout, hentries⟩ | ⟨hkey, hout, hentries⟩ := put_cases hc key value
  · rw [hout, if_neg nofun, get?, hentries]
    split
    · next hother => exact hother ▸ lookup_replace (mem_keys_iff.1 hkey)
    · next hother => exact lookup_replace_other hother
  · rw [hout, if_neg nofun, get?, hentries, lookup_concat hkey]
  · have hall : ((c.entries ++ [(key, value)]).map Prod.fst).Nodup := keys_concat c key value ▸ nodup_concat hc hkey
    rw [hout, get?, hentries, lookup_tail hall, keys_concat, lookup_concat hkey]

/-- A cache is a store that never lacks room, but for what it pushes out. -/
theorem get?_serve (hc : c.keys.Nodup) (call : StoreCall) (key : Bytes) :
    (c.serve call).2.get? key =
      if c.pushedOut? call = some key then none else call.effect key (c.get? key) := by
  cases call with
  | put other value => exact get?_put_eq hc other value key
  | take other =>
      rw [pushedOut?, if_neg nofun]
      rw [StoreCall.effect, serve, take, get?, erase, lookup_filter]
      simp only [eq_comm, get?]
  | get other | canCache =>
      rw [pushedOut?, if_neg nofun]
      rfl

end SessionCache

namespace StoreCall

variable {key value : Bytes} {old : Option Bytes} {call : StoreCall}

theorem effect_rename {f : Bytes → Bytes} (hf : Function.Injective f) (key : Bytes) (old : Option Bytes)
    (call : StoreCall) : (call.rename f).effect (f key) old = call.effect key old := by
  cases call with
  | put | take => simp only [rename, effect, hf.eq_iff]
  | get | canCache => rfl

theorem effect_eq_some : call.effect key old = some value ↔
    call = .put key value ∨ old = some value ∧ call.Leaves key := by
  rw [Leaves]
  cases call with
  | put other v =>
      rw [effect]
      split
      · next hkey => simp [hkey]
      · next hkey => simp [hkey]
  | take other =>
      rw [effect]
      split
      · next hkey => simp [hkey]
      · next hkey => simp [hkey]
  | get | canCache => simp [effect]

end StoreCall

/-- A store over a cache, to which it gives names of its own for its callers' keys. -/
structure SessionStore where
  name : Bytes → Bytes
  injective : Function.Injective name
  serve : SessionCache → StoreCall → StoreAnswer × SessionCache
  serve_eq : ∀ c call, serve c call = c.serve (call.rename name)

def SessionStore.bare : SessionStore where
  name := id
  injective := Function.injective_id
  serve := SessionCache.serve
  serve_eq := fun c call => by cases call <;> rfl

namespace ScopedStore

def serve (s : ScopedStore) (c : SessionCache) : StoreCall → StoreAnswer × SessionCache
  | .put key value => (.yes true, s.put c key value)
  | .get key => (.session (s.get? c key), c)
  | .take key => (.session (s.take c key).1, (s.take c key).2)
  | .canCache => (.yes (s.canCache c), c)

def store (s : ScopedStore) : SessionStore where
  name := s.context.qualify
  injective := fun _ _ => (SessionContext.qualify_inj s.context).1
  serve := s.serve
  serve_eq := fun c call => by cases call <;> rfl

end ScopedStore

namespace SessionStore

variable (a : SessionStore)

def after (c : SessionCache) (calls : List StoreCall) : SessionCache :=
  calls.foldl (fun c call => (a.serve c call).2) c

def answers (c : SessionCache) : List StoreCall → List StoreAnswer
  | [] => []
  | call :: calls => (a.serve c call).1 :: answers (a.serve c call).2 calls

def evictions (c : SessionCache) : List StoreCall → List Bytes
  | [] => []
  | call :: calls => (c.pushedOut? (call.rename a.name)).toList ++ evictions (a.serve c call).2 calls

/-- The value was put under the key, which since then was neither put again nor taken nor pushed out. -/
def Latest (c : SessionCache) (calls : List StoreCall) (key value : Bytes) : Prop :=
  ∃ earlier later, calls = earlier ++ .put key value :: later ∧ (∀ call ∈ later, call.Leaves key) ∧
    a.name key ∉ a.evictions (a.after c earlier) (.put key value :: later)

variable {a} {c : SessionCache} {calls more : List StoreCall} {key value : Bytes}

theorem serve_rename (c : SessionCache) (call : StoreCall) :
    a.serve (c.rename a.name) call = ((bare.serve c call).1, (bare.serve c call).2.rename a.name) := by
  rw [a.serve_eq, SessionCache.serve_rename a.injective]
  rfl

theorem after_rename (c : SessionCache) (calls : List StoreCall) :
    a.after (c.rename a.name) calls = (bare.after c calls).rename a.name := by
  induction calls generalizing c with
  | nil => rfl
  | cons call calls ih =>
      rw [after, after, List.foldl_cons, List.foldl_cons, serve_rename]
      exact ih _

theorem answers_rename (c : SessionCache) (calls : List StoreCall) :
    a.answers (c.rename a.name) calls = bare.answers c calls := by
  induction calls generalizing c with
  | nil => rfl
  | cons call calls ih => rw [answers, answers, serve_rename, ih]

theorem evictions_rename (c : SessionCache) (calls : List StoreCall) :
    a.evictions (c.rename a.name) calls = (bare.evictions c calls).map a.name := by
  induction calls generalizing c with
  | nil => rfl
  | cons call calls ih =>
      have hbare : call.rename bare.name = call := by cases call <;> rfl
      rw [evictions, evictions, serve_rename, SessionCache.pushedOut?_rename a.injective, ih, List.map_append, hbare]
      cases c.pushedOut? call <;> rfl

theorem after_append (c : SessionCache) (calls more : List StoreCall) :
    a.after c (calls ++ more) = a.after (a.after c calls) more :=
  List.foldl_append

theorem evictions_append (c : SessionCache) (calls more : List StoreCall) :
    a.evictions c (calls ++ more) = a.evictions c calls ++ a.evictions (a.after c calls) more := by
  induction calls generalizing c with
  | nil => rfl
  | cons call calls ih =>
      rw [List.cons_append, evictions, evictions, ih, List.append_assoc]
      rfl

theorem evictions_single (c : SessionCache) (call : StoreCall) :
    a.evictions c [call] = (c.pushedOut? (call.rename a.name)).toList :=
  List.append_nil _

theorem nodup_after (hc : c.keys.Nodup) (calls : List StoreCall) : (a.after c calls).keys.Nodup := by
  induction calls generalizing c with
  | nil => exact hc
  | cons call calls ih =>
      have hserve := SessionCache.nodup_serve hc (call.rename a.name)
      rw [← a.serve_eq] at hserve
      exact ih hserve

theorem get?_serve (hc : c.keys.Nodup) (call : StoreCall) (key : Bytes) :
    (a.serve c call).2.get? (a.name key) =
      if c.pushedOut? (call.rename a.name) = some (a.name key) then none
      else call.effect key (c.get? (a.name key)) := by
  rw [a.serve_eq, SessionCache.get?_serve hc, StoreCall.effect_rename a.injective]

/-- One more call makes the value the latest one or leaves it so, and does not push the key out. -/
theorem latest_concat {call : StoreCall} :
    a.Latest c (calls ++ [call]) key value ↔
      (a.after c calls).pushedOut? (call.rename a.name) ≠ some (a.name key) ∧
        (call = .put key value ∨ a.Latest c calls key value ∧ call.Leaves key) := by
  have hout (d : SessionCache) : a.name key ∉ a.evictions d [call] ↔
      d.pushedOut? (call.rename a.name) ≠ some (a.name key) := by
    rw [evictions_single, Option.mem_toList]
  constructor
  · rintro ⟨earlier, later, hsplit, hleaves, hkept⟩
    obtain ⟨rfl, rfl, rfl⟩ | ⟨before, rfl, rfl⟩ := concat_eq_split hsplit
    · exact ⟨(hout _).1 hkept, .inl rfl⟩
    · rw [List.forall_mem_append, List.forall_mem_singleton] at hleaves
      rw [← List.cons_append, evictions_append, List.mem_append, not_or, ← after_append] at hkept
      exact ⟨(hout _).1 hkept.2, .inr ⟨⟨earlier, before, rfl, hleaves.1, hkept.1⟩, hleaves.2⟩⟩
  · rintro ⟨hkept, rfl | ⟨⟨earlier, later, rfl, hleaves, hbefore⟩, hleave⟩⟩
    · exact ⟨calls, [], rfl, List.forall_mem_nil _, (hout _).2 hkept⟩
    · refine ⟨earlier, later ++ [call], by simp, ?_, ?_⟩
      · exact List.forall_mem_append.2 ⟨hleaves, List.forall_mem_singleton.2 hleave⟩
      · rw [← List.cons_append, evictions_append, List.mem_append, not_or, ← after_append]
        exact ⟨hbefore, (hout _).2 hkept⟩

theorem get?_after (capacity : Nat) (calls : List StoreCall) (key value : Bytes) :
    (a.after (.empty capacity) calls).get? (a.name key) = some value ↔ a.Latest (.empty capacity) calls key value := by
  have hempty : (SessionCache.empty capacity).keys.Nodup := List.nodup_nil
  induction calls using List.reverseRecOn with
  | nil =>
      constructor
      · intro h
        cases h
      · rintro ⟨earlier, later, hsplit, -⟩
        simp at hsplit
  | append_singleton calls call ih =>
      have hcalls : _ ↔ a.Latest (.empty capacity) calls key value := ih
      rw [after_append, latest_concat, ← hcalls, ← StoreCall.effect_eq_some]
      change (a.serve (a.after _ calls) call).2.get? _ = _ ↔ _
      rw [get?_serve (nodup_after hempty calls)]
      split
      · next hout => simp [hout]
      · next hout => simp [hout]

/-- Between a take and an answer there is a put of that answer. -/
theorem put_between {earlier between : List StoreCall} {c : SessionCache}
    (h : a.Latest c (earlier ++ .take key :: between) key value) : .put key value ∈ between := by
  obtain ⟨front, later, hsplit, hleaves, -⟩ := h
  rcases List.append_eq_append_iff.1 hsplit with ⟨middle, rfl, hrest⟩ | ⟨middle, rfl, hrest⟩
  · rcases List.cons_eq_append_iff.1 hrest with ⟨rfl, hput⟩ | ⟨middle, rfl, rfl⟩
    · cases hput
    · exact List.mem_append_right _ List.mem_cons_self
  · rcases List.cons_eq_append_iff.1 hrest with ⟨rfl, htake⟩ | ⟨middle, rfl, rfl⟩
    · cases htake
    · exact absurd rfl (hleaves (.take key) (List.mem_append_right _ List.mem_cons_self)).2

end SessionStore

namespace ScopedStore

open SessionStore (bare)

/-- Whatever is asked of a store, it answers as the bare cache would, and the cache pushes out the same keys in the same
order. So a key leads to its latest value until that is taken or pushed out, and no value can be had after a take but
one that was put there since. -/
theorem serve_as_bare (s : ScopedStore) (capacity : Nat) (calls : List StoreCall) :
    s.store.answers (.empty capacity) calls = bare.answers (.empty capacity) calls ∧
    s.store.evictions (.empty capacity) calls =
      (bare.evictions (.empty capacity) calls).map s.context.qualify ∧
    (s.store.after (.empty capacity) calls).keys =
      (bare.after (.empty capacity) calls).keys.map s.context.qualify ∧
    (∀ key value, s.get? (s.store.after (.empty capacity) calls) key = some value ↔
      s.store.Latest (.empty capacity) calls key value) ∧
    ∀ earlier between key value, calls = earlier ++ .take key :: between →
      (s.take (s.store.after (.empty capacity) calls) key).1 = some value → .put key value ∈ between := by
  -- The store is the bare cache under other names for its keys, and an empty cache has none to rename.
  have hempty : (SessionCache.empty capacity).rename s.store.name = .empty capacity := rfl
  have hanswers := SessionStore.answers_rename (a := s.store) (.empty capacity) calls
  have hevictions := SessionStore.evictions_rename (a := s.store) (.empty capacity) calls
  have hafter := SessionStore.after_rename (a := s.store) (.empty capacity) calls
  rw [hempty] at hanswers hevictions hafter
  have hlatest (key value : Bytes) : s.get? (s.store.after (.empty capacity) calls) key = some value ↔
      s.store.Latest (.empty capacity) calls key value := SessionStore.get?_after (a := s.store) capacity calls key value
  refine ⟨hanswers, hevictions, ?_, hlatest, ?_⟩
  · rw [hafter]
    exact SessionCache.keys_rename s.context.qualify (bare.after (.empty capacity) calls)
  · rintro earlier between key value rfl htake
    exact SessionStore.put_between ((hlatest key value).1 htake)

theorem serve_as_bare_oneRoom :
    let s : ScopedStore := ⟨.ofListener "0.0.0.0" 47984⟩
    let calls := [StoreCall.put [1] [7], .take [1], .put [1] [8]]
    (s.take (s.store.after (.empty 1) calls) [1]).1 = some [8] ∧ StoreCall.put [1] [8] ∈ [StoreCall.put [1] [8]] ∧
      s.store.Latest (.empty 1) calls [1] [8] ∧
      s.store.evictions (.empty 1) (calls ++ [.put [2] [9]]) = [s.context.qualify [1]] := by
  intro s calls
  have htake : (s.take (s.store.after (.empty 1) calls) [1]).1 = some [8] := by decide +kernel
  obtain ⟨-, -, -, hlatest, hbetween⟩ := serve_as_bare s 1 calls
  obtain ⟨-, hevictions, -⟩ := serve_as_bare s 1 (calls ++ [.put [2] [9]])
  refine ⟨htake, hbetween [.put [1] [7]] [.put [1] [8]] [1] [8] rfl htake, (hlatest [1] [8]).1 htake, ?_⟩
  rw [hevictions]
  rfl

end ScopedStore
end PairedTls
