import Mathlib.Data.List.Basic
import PairedTls.Config.Value
import PairedTls.Proofs.Sequences

namespace PairedTls.Config.Value

variable {k name : String} {v w : Value} {old new ms : List (String × Value)}

def Ordered (ms : List (String × Value)) : Prop :=
  ms.Pairwise fun a b => a.1 < b.1

theorem lookup_insert (k name : String) (v : Value) (ms : List (String × Value)) :
    (insert name v ms).lookup k = if k = name then some v else ms.lookup k := by
  induction ms with
  | nil => exact lookup_cons k name v []
  | cons entry ms ih =>
      obtain ⟨other, w⟩ := entry
      have hcons := lookup_cons k other w ms
      by_cases heq : name = other
      · subst heq
        rw [insert, if_pos rfl, lookup_cons, hcons]
        split_ifs <;> rfl
      · by_cases hlt : name < other
        · rw [insert, if_neg heq, if_pos hlt, lookup_cons]
        · rw [insert, if_neg heq, if_neg hlt, lookup_cons, ih, hcons]
          split_ifs with ho hn
          · exact absurd (hn.symm.trans ho) heq
          all_goals rfl

theorem mem_insert {entry : String × Value} (h : entry ∈ insert name v ms) : entry.1 = name ∨ entry ∈ ms := by
  induction ms with
  | nil => exact .inl (congrArg Prod.fst (List.mem_singleton.1 h))
  | cons first ms ih =>
      obtain ⟨other, w⟩ := first
      rw [insert] at h
      split_ifs at h
      · exact (List.mem_cons.1 h).imp (congrArg Prod.fst) (List.mem_cons_of_mem _)
      · exact (List.mem_cons.1 h).imp_left (congrArg Prod.fst)
      · rcases List.mem_cons.1 h with rfl | h
        · exact .inr List.mem_cons_self
        · exact (ih h).imp_right (List.mem_cons_of_mem _)

theorem ordered_insert (name : String) (v : Value) (h : Ordered ms) : Ordered (insert name v ms) := by
  induction ms with
  | nil => exact List.pairwise_singleton _ _
  | cons first ms ih =>
      obtain ⟨other, w⟩ := first
      obtain ⟨hfirst, hrest⟩ := List.pairwise_cons.1 h
      rw [insert]
      split_ifs with heq hlt
      · subst heq
        exact List.pairwise_cons.2 ⟨hfirst, hrest⟩
      · refine List.pairwise_cons.2 ⟨fun entry hentry => ?_, h⟩
        rcases List.mem_cons.1 hentry with rfl | hentry
        · exact hlt
        · exact String.lt_trans hlt (hfirst entry hentry)
      · have hgt : other < name :=
          String.not_le.1 fun hle => heq (String.le_antisymm hle (String.not_lt.1 hlt))
        refine List.pairwise_cons.2 ⟨fun entry hentry => ?_, ih hrest⟩
        rcases mem_insert hentry with hname | hentry
        · exact hname ▸ hgt
        · exact hfirst entry hentry

/-- What is left of a value when another one comes over it. -/
def overlay (earlier : Option Value) (later : Value) : Value :=
  match earlier with
  | some w => w.merge later
  | none => later

theorem lookup_mergeMembers (k : String) (h : Ordered new) :
    (mergeMembers old new).lookup k = (new.lookup k).elim (old.lookup k) fun v => some (overlay (old.lookup k) v) := by
  induction new generalizing old with
  | nil => rw [mergeMembers, List.lookup_nil, Option.elim_none]
  | cons first new ih =>
      obtain ⟨name, v⟩ := first
      obtain ⟨hfirst, hrest⟩ := List.pairwise_cons.1 h
      have hstep : mergeMembers old ((name, v) :: new) =
          mergeMembers (insert name (overlay (old.lookup name) v) old) new := by
        rw [mergeMembers]
        cases old.lookup name <;> rfl
      rw [hstep, ih hrest, lookup_insert, lookup_cons]
      split_ifs with hk
      · subst hk
        -- The name that comes first does not come again.
        have hnone : new.lookup k = none :=
          List.lookup_eq_none_iff.2 fun entry hentry =>
            bne_iff_ne.2 (String.ne_of_lt (hfirst entry hentry))
        rw [hnone, Option.elim_none, Option.elim_some]
      · rfl

def member? (v : Value) (k : String) : Option Value :=
  match v with
  | .map _ ms => ms.lookup k
  | _ => none

theorem merge_map (w : Value) (source : Source) (new : List (String × Value)) :
    ∃ ms, w.merge (.map source new) = .map source ms := by
  cases w with
  | map _ old => exact ⟨mergeMembers old new, by rw [merge]⟩
  | scalar | list => exact ⟨new, by rw [merge]; nofun⟩

theorem member?_merge (w : Value) (source : Source) (k : String) (h : Ordered new) :
    (w.merge (.map source new)).member? k =
      (new.lookup k).elim (w.member? k) fun v => some (overlay (w.member? k) v) := by
  cases w with
  | map _ old =>
      rw [merge]
      exact lookup_mergeMembers k h
  | scalar | list =>
      rw [merge]
      · cases hk : new.lookup k <;> exact hk
      · nofun

theorem merge_of_not_map (w : Value) (h : ∀ source ms, v ≠ .map source ms) : w.merge v = v := by
  cases v with
  | map source ms => exact absurd rfl (h source ms)
  | scalar | list => rw [merge]; exact h

def Neat (v : Value) : Prop :=
  ∀ source ms, v = .map source ms → Ordered ms

theorem neat_scalar (source : Source) (x : Scalar) : (scalar source x).Neat :=
  fun _ _ h => by cases h

theorem neat_list (source : Source) (items : List Value) : (list source items).Neat :=
  fun _ _ h => by cases h

theorem neat_map {source : Source} (h : Ordered ms) : (map source ms).Neat := by
  rintro _ _ ⟨⟩
  exact h

theorem ordered_mergeMembers (h : Ordered old) : Ordered (mergeMembers old new) := by
  induction new generalizing old with
  | nil => rwa [mergeMembers]
  | cons entry new ih =>
      rw [mergeMembers]
      exact ih (ordered_insert _ _ h)

theorem neat_overlay {earlier : Option Value} {later : Value} (hearlier : ∀ w, earlier = some w → w.Neat)
    (hlater : later.Neat) : (overlay earlier later).Neat := by
  cases earlier with
  | none => exact hlater
  | some w =>
      by_cases hmap : ∃ source ms, later = .map source ms
      · obtain ⟨source, new, rfl⟩ := hmap
        cases w with
        | map _ old =>
            rw [overlay, merge]
            exact neat_map (ordered_mergeMembers (hearlier _ rfl _ _ rfl))
        | scalar | list =>
            rw [overlay, merge]
            · exact hlater
            · nofun
      · rw [overlay, merge_of_not_map w fun source ms hv => hmap ⟨source, ms, hv⟩]
        exact hlater

theorem overlay_map (earlier : Option Value) (source : Source) (new : List (String × Value)) :
    ∃ ms, overlay earlier (.map source new) = .map source ms := by
  cases earlier with
  | none => exact ⟨new, rfl⟩
  | some w => exact merge_map w source new

theorem member?_overlay (earlier : Option Value) (source : Source) (k : String) (h : Ordered new) :
    (overlay earlier (.map source new)).member? k =
      (new.lookup k).elim (earlier.bind (·.member? k)) fun v =>
        some (overlay (earlier.bind (·.member? k)) v) := by
  cases earlier with
  | none =>
      change new.lookup k = _
      cases new.lookup k <;> rfl
  | some w => exact member?_merge w source k h

theorem overlay_fields {earlier : Option Value} (hearlier : ∀ w, earlier = some w → w.Neat) (source : Source)
    (h : Ordered new) :
    ∃ ms, overlay earlier (.map source new) = .map source ms ∧ Ordered ms ∧
      ∀ k, ms.lookup k = (new.lookup k).elim (earlier.bind (·.member? k)) fun v =>
        some (overlay (earlier.bind (·.member? k)) v) := by
  obtain ⟨ms, hms⟩ := overlay_map earlier source new
  refine ⟨ms, hms, neat_overlay hearlier (neat_map h) source ms hms, fun k => ?_⟩
  have hmember := member?_overlay earlier source k h
  rwa [hms] at hmember

theorem neat_ofMembers (source : Source) (members : List (String × Value)) : (ofMembers source members).Neat := by
  have hfold (sorted : List (String × Value)) (h : Ordered sorted) :
      Ordered (members.foldl (fun sorted entry => insert entry.1 entry.2 sorted) sorted) := by
    induction members generalizing sorted with
    | nil => exact h
    | cons entry members ih => exact ih _ (ordered_insert _ _ h)
  exact neat_map (hfold [] List.Pairwise.nil)

end PairedTls.Config.Value
