import Mathlib.Data.List.Nodup

namespace PairedTls

section Entries

variable {α β : Type} [BEq α] [LawfulBEq α] [DecidableEq α]

theorem lookup_cons (k key : α) (value : β) (entries : List (α × β)) :
    ((key, value) :: entries).lookup k = if k = key then some value else entries.lookup k := by
  by_cases hk : k = key
  · subst hk
    rw [List.lookup_cons_self, if_pos rfl]
  · rw [List.lookup_cons, beq_false_of_ne hk, if_neg hk]

theorem lookup_filter (k key : α) (entries : List (α × β)) :
    (entries.filter (·.1 != key)).lookup k = if k = key then none else entries.lookup k := by
  induction entries with
  | nil => simp
  | cons entry entries ih =>
      obtain ⟨other, value⟩ := entry
      rw [lookup_cons]
      by_cases hother : other = key
      · rw [List.filter_cons_of_neg (by simp [hother]), ih, hother]
        split <;> rfl
      · rw [List.filter_cons_of_pos (by simp [hother]), lookup_cons, ih]
        by_cases hk : k = other
        · rw [if_pos hk, if_pos hk, if_neg (hk ▸ hother)]
        · rw [if_neg hk, if_neg hk]

theorem lookup_map {f : α → α} (hf : Function.Injective f) (k : α) (entries : List (α × β)) :
    (entries.map (Prod.map f id)).lookup (f k) = entries.lookup k := by
  induction entries with
  | nil => rfl
  | cons entry entries ih =>
      obtain ⟨key, value⟩ := entry
      rw [List.map_cons, Prod.map_apply, lookup_cons, lookup_cons, ih]
      simp only [hf.eq_iff, id]

theorem lookup_eq_none {k : α} {entries : List (α × β)} :
    entries.lookup k = none ↔ k ∉ entries.map Prod.fst := by
  induction entries with
  | nil => simp
  | cons entry entries ih =>
      obtain ⟨key, value⟩ := entry
      rw [lookup_cons, List.map_cons, List.mem_cons, not_or, ← ih]
      by_cases hk : k = key <;> simp [hk]

theorem lookup_tail {entries : List (α × β)} (h : (entries.map Prod.fst).Nodup) (k : α) :
    entries.tail.lookup k = if (entries.map Prod.fst).head? = some k then none else entries.lookup k := by
  cases entries with
  | nil => simp
  | cons entry entries =>
      obtain ⟨key, value⟩ := entry
      simp only [List.tail_cons, List.map_cons, List.head?_cons, lookup_cons, Option.some.injEq]
      by_cases hkey : key = k
      · rw [if_pos hkey, lookup_eq_none]
        exact hkey ▸ (List.nodup_cons.1 h).1
      · rw [if_neg hkey, if_neg (Ne.symm hkey)]

end Entries

theorem concat_eq_split {α : Type} {xs front rest : List α} {x y : α} (h : xs ++ [x] = front ++ y :: rest) :
    front = xs ∧ y = x ∧ rest = [] ∨ ∃ before, rest = before ++ [x] ∧ xs = front ++ y :: before := by
  rcases List.eq_nil_or_concat' rest with rfl | ⟨before, last, rfl⟩
  · obtain ⟨hfront, hlast⟩ := List.append_inj' h rfl
    exact .inl ⟨hfront.symm, (List.singleton_inj.1 hlast).symm, rfl⟩
  · rw [← List.cons_append, ← List.append_assoc] at h
    obtain ⟨hxs, hlast⟩ := List.append_inj' h rfl
    exact .inr ⟨before, by rw [List.singleton_inj.1 hlast], hxs⟩

end PairedTls
