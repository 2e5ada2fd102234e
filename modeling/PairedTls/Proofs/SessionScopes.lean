import Mathlib.Data.List.Basic
import PairedTls.Session

namespace PairedTls

namespace SessionContext

variable {a b : SessionContext} {k k' : Bytes}

def Unrelated (a b : SessionContext) : Prop :=
  ¬ a.bytes <+: b.bytes ∧ ¬ b.bytes <+: a.bytes

theorem qualify_ne (h : Unrelated a b) (k k' : Bytes) : a.qualify k ≠ b.qualify k' := by
  intro heq
  have ha : a.bytes <+: b.qualify k' := ⟨k, heq⟩
  rcases List.prefix_or_prefix_of_prefix ha (List.prefix_append b.bytes k') with hab | hba
  · exact h.1 hab
  · exact h.2 hba

theorem qualify_inj (a : SessionContext) : a.qualify k = a.qualify k' ↔ k = k' :=
  List.append_cancel_left_eq a.bytes k k' ▸ Iff.rfl

theorem eq_of_qualify_eq (heq : a.qualify k = b.qualify k') (hlen : k.length = k'.length) : a = b := by
  have hbytes : a.bytes = b.bytes := (List.append_inj' heq hlen).1
  cases a
  cases b
  exact congrArg mk hbytes

def portDigits (port : UInt16) : Bytes :=
  port.toNat.repr.toList.map fun c => UInt8.ofNat c.toNat

theorem isDigit_of_mem_repr {n : Nat} {c : Char} (hc : c ∈ n.repr.toList) : c.isDigit = true := by
  rw [Nat.toList_repr] at hc
  exact Nat.isDigit_of_mem_toDigits (by decide) (by decide) hc

theorem toNat_of_isDigit {c : Char} (hc : c.isDigit = true) : 48 ≤ c.toNat ∧ c.toNat ≤ 57 := by
  simpa [Char.isDigit, Char.le_def, UInt32.le_iff_toNat_le] using hc

theorem encode_repr (port : UInt16) : Utf8.encode port.toNat.repr.toList = portDigits port := by
  rw [Utf8.encode, portDigits, List.map_eq_flatMap]
  refine List.flatMap_congr fun c hc => ?_
  have hle := (toNat_of_isDigit (isDigit_of_mem_repr hc)).2
  exact if_pos (by change c.toNat ≤ 127; omega)

theorem colon_notMem_portDigits (port : UInt16) : (58 : UInt8) ∉ portDigits port := by
  intro hmem
  obtain ⟨c, hc, heq⟩ := List.mem_map.1 hmem
  have hdigit := toNat_of_isDigit (isDigit_of_mem_repr hc)
  have hnat := congrArg UInt8.toNat heq
  simp only [UInt8.toNat_ofNat', UInt8.reduceToNat] at hnat
  omega

theorem portDigits_inj {p q : UInt16} (h : portDigits p = portDigits q) : p = q := by
  have hback (port : UInt16) :
      (portDigits port).map (fun b => Char.ofNat b.toNat) = port.toNat.repr.toList := by
    rw [portDigits, List.map_map]
    refine (List.map_congr_left fun c hc => ?_).trans (List.map_id _)
    have hdigit := toNat_of_isDigit (isDigit_of_mem_repr hc)
    simp only [Function.comp_apply, UInt8.toNat_ofNat', id_eq]
    rw [Nat.mod_eq_of_lt (by omega), Char.ofNat_toNat]
  have hlist : Nat.toDigits 10 p.toNat = Nat.toDigits 10 q.toNat := by
    rw [← Nat.toList_repr, ← Nat.toList_repr, ← hback p, ← hback q, h]
  rw [← UInt16.toNat_inj, ← Nat.ofDigitChars_ten_toDigits (n := p.toNat), hlist, Nat.ofDigitChars_ten_toDigits]

theorem length_portDigits_le (port : UInt16) : (portDigits port).length ≤ 5 := by
  rw [portDigits, List.length_map, Nat.toList_repr,
    Nat.length_toDigits_le_iff (by decide) (by decide)]
  have hlt := port.toNat_lt
  omega

theorem bytes_ofListener (address : String) (port : UInt16) :
    (ofListener address port).bytes = portDigits port ++
      58 :: (Utf8.encode address.toList.reverse).take (maxLength - (portDigits port).length - 1) := by
  have hlen := length_portDigits_le port
  have hsplit : Utf8.encode (port.toNat.repr.toList ++ ':' :: address.toList.reverse) =
      portDigits port ++ 58 :: Utf8.encode address.toList.reverse := by
    rw [← encode_repr]
    simp only [Utf8.encode, List.flatMap_append, List.flatMap_cons]
    rfl
  obtain ⟨n, hn⟩ : ∃ n, maxLength - (portDigits port).length = n + 1 :=
    ⟨maxLength - (portDigits port).length - 1, by rw [maxLength]; omega⟩
  rw [ofListener, hsplit, List.take_append, List.take_of_length_le (by rw [maxLength]; omega), hn,
    List.take_succ_cons, Nat.add_sub_cancel]

theorem port_unique {address address' : String} {p q : UInt16}
    (h : (ofListener address p).bytes <+: (ofListener address' q).bytes) : p = q := by
  obtain ⟨rest, hrest⟩ := h
  rw [bytes_ofListener, bytes_ofListener, List.append_assoc, List.cons_append] at hrest
  exact portDigits_inj (Bytes.front_unique (colon_notMem_portDigits p) (colon_notMem_portDigits q) hrest)

theorem unrelated_of_ports {p q : UInt16} (hne : p ≠ q) (address address' : String) :
    Unrelated (ofListener address p) (ofListener address' q) :=
  ⟨fun h => hne (port_unique h), fun h => hne (port_unique h).symm⟩

end SessionContext

namespace SessionCache

variable {c : SessionCache} {key value k v : Bytes}

theorem mem_of_get? (h : c.get? key = some value) : (key, value) ∈ c.entries := by
  obtain ⟨before, after, hsplit, -⟩ := List.lookup_eq_some_iff.1 h
  exact hsplit ▸ List.mem_append_right before List.mem_cons_self

theorem mem_replace {entries : List (Bytes × Bytes)} (h : (k, v) ∈ replace key value entries) :
    (k, v) ∈ entries ∨ (k, v) = (key, value) := by
  induction entries with
  | nil => exact absurd h List.not_mem_nil
  | cons entry rest ih =>
      rw [replace] at h
      split at h
      next hkey =>
        rcases List.mem_cons.1 h with hhead | htail
        · exact .inr (hkey ▸ hhead)
        · exact .inl (List.mem_cons_of_mem _ htail)
      next =>
        rcases List.mem_cons.1 h with hhead | htail
        · exact .inl (List.mem_cons.2 (.inl hhead))
        · exact (ih htail).imp_left (List.mem_cons_of_mem _)

theorem mem_put (h : (k, v) ∈ (c.put key value).entries) :
    (k, v) ∈ c.entries ∨ (k, v) = (key, value) := by
  rw [put] at h
  split at h
  next => exact mem_replace h
  next =>
    have happ : (k, v) ∈ c.entries ++ [(key, value)] := by
      dsimp only at h
      split at h
      · exact List.mem_of_mem_tail h
      · exact h
    simpa using happ

theorem lookup_replace {entries : List (Bytes × Bytes)} (h : (entries.lookup key).isSome) :
    (replace key value entries).lookup key = some value := by
  induction entries with
  | nil => exact absurd h (by simp)
  | cons entry rest ih =>
      obtain ⟨k, v⟩ := entry
      rw [replace]
      split
      next hkey => simp [hkey]
      next hkey =>
        have hbeq : (key == k) = false := beq_eq_false_iff_ne.2 (Ne.symm hkey)
        simp only [List.lookup_cons, hbeq] at h ⊢
        exact ih h

theorem capacity_put : (c.put key value).capacity = c.capacity := by
  rw [put]
  split <;> rfl

theorem get?_put (hroom : c.capacity ≠ 0) : (c.put key value).get? key = some value := by
  rw [put]
  split
  next hold => exact lookup_replace hold
  next hnew =>
    have hnone : c.entries.lookup key = none := Option.not_isSome_iff_eq_none.1 hnew
    have hlast (entries : List (Bytes × Bytes)) (h : entries.lookup key = none) :
        (entries ++ [(key, value)]).lookup key = some value := by
      simp [List.lookup_append, h]
    dsimp only [get?]
    split
    next hfull =>
      cases hentries : c.entries with
      | nil => simp only [hentries, List.nil_append, List.length_singleton] at hfull; omega
      | cons entry rest =>
          rw [hentries] at hnone
          rw [List.cons_append, List.tail_cons]
          refine hlast rest ?_
          rw [List.lookup_cons] at hnone
          split at hnone
          · exact absurd hnone (by simp)
          · exact hnone
    next => exact hlast c.entries hnone

end SessionCache

inductive SessionCall
  | put (key value : Bytes)
  | get (key : Bytes)
  | take (key : Bytes)
  deriving DecidableEq, Repr

def SessionCall.key : SessionCall → Bytes
  | .put key _ | .get key | .take key => key

def ScopedStore.call (s : ScopedStore) (c : SessionCache) : SessionCall → Option Bytes × SessionCache
  | .put key value => (none, s.put c key value)
  | .get key => (s.get? c key, c)
  | .take key => s.take c key

structure Endpoint where
  address : String
  port : UInt16
  deriving DecidableEq, Repr

namespace Endpoint

def store (e : Endpoint) : ScopedStore :=
  ⟨.ofListener e.address e.port⟩

variable {ι : Type} (ends : ι → Endpoint)

/-- The cache that several listeners share, after their calls in the order in which they came. -/
def after (c : SessionCache) (calls : List (ι × SessionCall)) : SessionCache :=
  calls.foldl (fun c entry => ((ends entry.1).store.call c entry.2).2) c

def answer (capacity : Nat) (calls : List (ι × SessionCall)) (i : ι) (call : SessionCall) : Option Bytes :=
  ((ends i).store.call (after ends (.empty capacity) calls) call).1

def key (i : ι) (call : SessionCall) : Bytes :=
  (ends i).store.context.qualify call.key

/-- Two listeners never meet under one key: their ports differ, or neither context starts the other, or
the contexts differ and their keys are of one length. -/
def Apart (calls : List (ι × SessionCall)) (i j : ι) (call : SessionCall) : Prop :=
  (ends i).port ≠ (ends j).port ∨
    (ends i).store.context.Unrelated (ends j).store.context ∨
    (ends i).store.context ≠ (ends j).store.context ∧
      ∀ other, (j, other) ∈ calls → other.key.length = call.key.length

variable {ends} {i : ι} {c : SessionCache} {k v : Bytes}

theorem mem_call {call : SessionCall} (h : (k, v) ∈ ((ends i).store.call c call).2.entries) :
    (k, v) ∈ c.entries ∨ ∃ short, call = .put short v ∧ k = key ends i call := by
  cases call with
  | put short value =>
      rcases SessionCache.mem_put h with hold | hnew
      · exact .inl hold
      · obtain ⟨rfl, rfl⟩ := Prod.mk.inj hnew
        exact .inr ⟨short, rfl, rfl⟩
  | get short => exact .inl h
  | take short => exact .inl (List.mem_filter.1 h).1

/-- Nothing gets into the cache but what some listener put there. -/
theorem mem_after {calls : List (ι × SessionCall)} (h : (k, v) ∈ (after ends c calls).entries) :
    (k, v) ∈ c.entries ∨ ∃ j short, (j, .put short v) ∈ calls ∧ k = key ends j (.put short v) := by
  induction calls generalizing c with
  | nil => exact .inl h
  | cons entry calls ih =>
      rcases ih h with hstep | ⟨j, short, hmem, hkey⟩
      · rcases mem_call hstep with hold | ⟨short, hput, hkey⟩
        · exact .inl hold
        · exact .inr ⟨entry.1, short, hput ▸ List.mem_cons_self, hput ▸ hkey⟩
      · exact .inr ⟨j, short, List.mem_cons_of_mem entry hmem, hkey⟩

theorem put_of_answer {capacity : Nat} {calls : List (ι × SessionCall)} {call : SessionCall}
    (h : answer ends capacity calls i call = some v) :
    ∃ j short, (j, .put short v) ∈ calls ∧ key ends i call = key ends j (.put short v) := by
  have hmem : (key ends i call, v) ∈ (after ends (.empty capacity) calls).entries := by
    cases call with
    | put short value => exact absurd h (by simp [answer, ScopedStore.call])
    | get short => exact SessionCache.mem_of_get? h
    | take short => exact SessionCache.mem_of_get? h
  exact (mem_after hmem).resolve_left List.not_mem_nil

theorem capacity_call (call : SessionCall) : ((ends i).store.call c call).2.capacity = c.capacity := by
  cases call with
  | put short value => exact SessionCache.capacity_put
  | get short => rfl
  | take short => rfl

theorem capacity_after (calls : List (ι × SessionCall)) : (after ends c calls).capacity = c.capacity := by
  induction calls generalizing c with
  | nil => rfl
  | cons entry calls ih => exact ih.trans (capacity_call entry.2)

theorem key_ne {calls : List (ι × SessionCall)} {call other : SessionCall} {j : ι}
    (hapart : Apart ends calls i j call) (hmem : (j, other) ∈ calls) : key ends i call ≠ key ends j other := by
  rcases hapart with hport | hunrelated | ⟨hcontext, hlength⟩
  · exact SessionContext.qualify_ne (SessionContext.unrelated_of_ports hport _ _) _ _
  · exact SessionContext.qualify_ne hunrelated _ _
  · exact fun heq => hcontext (SessionContext.eq_of_qualify_eq heq (hlength other hmem).symm)

/-- A listener that stays apart from the others is answered with nothing but what it put under the same
key itself. Two listeners of one context share: each is answered with what the other has just put. -/
theorem answers_by_context (ends : ι → Endpoint) (capacity : Nat) (calls : List (ι × SessionCall)) (i : ι) :
    (∀ call v, (∀ j, j ≠ i → Apart ends calls i j call) → answer ends capacity calls i call = some v →
      (i, .put call.key v) ∈ calls) ∧
    ∀ j k v, (ends j).store.context = (ends i).store.context → capacity ≠ 0 →
      answer ends capacity (calls ++ [(i, .put k v)]) j (.get k) = some v ∧
      answer ends capacity (calls ++ [(i, .put k v)]) j (.take k) = some v := by
  constructor
  · intro call v hapart hanswer
    obtain ⟨j, short, hmem, hkey⟩ := put_of_answer hanswer
    by_cases hj : j = i
    · subst hj
      rwa [(SessionContext.qualify_inj _).1 hkey]
    · exact absurd hkey (key_ne (hapart j hj) hmem)
  · intro j k v hcontext hroom
    have hafter : after ends (.empty capacity) (calls ++ [(i, .put k v)]) =
        (after ends (.empty capacity) calls).put ((ends j).store.context.qualify k) v := by
      rw [after, List.foldl_append, hcontext]
      rfl
    have hfound : ((after ends (.empty capacity) (calls ++ [(i, .put k v)])).get?
        ((ends j).store.context.qualify k)) = some v := by
      rw [hafter]
      exact SessionCache.get?_put (by rwa [capacity_after])
    exact ⟨hfound, hfound⟩

def onTwoPorts : Bool → Endpoint
  | false => ⟨"0.0.0.0", 47984⟩
  | true => ⟨"0.0.0.0", 47990⟩

def onTwoPrefixes : Bool → Endpoint
  | false => ⟨"fd00:1234:5678:9abc:def0:1234:5678:9abc", 47984⟩
  | true => ⟨"fd01:1234:5678:9abc:def0:1234:5678:9abc", 47984⟩

theorem onTwoPrefixes_context :
    (onTwoPrefixes true).store.context = (onTwoPrefixes false).store.context := by
  decide +kernel

theorem answers_by_context_twoPorts :
    (false, .put [1] [2]) ∈ [(true, SessionCall.put [1] [3]), (false, .put [1] [2])] ∧
    answer onTwoPrefixes 16 [(false, .put [1] [2])] true (.get [1]) = some [2] :=
  ⟨(answers_by_context onTwoPorts 16 [(true, .put [1] [3]), (false, .put [1] [2])] false).1 (.get [1]) [2]
      (fun j hj => .inl (by cases j <;> revert hj <;> decide)) (by decide +kernel),
    ((answers_by_context onTwoPrefixes 16 [] false).2 true [1] [2] onTwoPrefixes_context (by decide)).1⟩

theorem cut_addresses_share :
    onTwoPrefixes false ≠ onTwoPrefixes true ∧
    (∀ k v, (true, .put k v) ∉ [(false, SessionCall.put [115, 105, 100] [115, 116, 97, 116, 101])]) ∧
    answer onTwoPrefixes 16 [(false, .put [115, 105, 100] [115, 116, 97, 116, 101])] true
      (.get [115, 105, 100]) = some [115, 116, 97, 116, 101] := by
  refine ⟨by decide, fun k v => by simp, ?_⟩
  decide +kernel

end Endpoint
end PairedTls
