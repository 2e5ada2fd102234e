import Mathlib.Data.Finset.Card
import PairedTls.Proofs.MadeCertificate
import PairedTls.Proofs.Sequences
import PairedTls.Trust

namespace PairedTls.PairedClients

open Act

variable {p q : PairedClients} {c c' : Certificate} {w : World} {paths : List String}

def encodings (p : PairedClients) : Finset Bytes :=
  (p.certs.map Certificate.der).toFinset

theorem isTrusted_iff : p.isTrusted c = true ↔ c ∈ p.certs := by
  simp [isTrusted]

theorem mem_encodings {der : Bytes} : der ∈ p.encodings ↔ ⟨der⟩ ∈ p.certs := by
  rw [encodings, List.mem_toFinset, List.mem_map]
  constructor
  · rintro ⟨c, hc, rfl⟩
    exact hc
  · exact fun h => ⟨_, h, rfl⟩

theorem evaluate_trusted_iff : p.evaluate (some c) = .trusted ↔ p.isTrusted c = true := by
  rw [evaluate]
  split <;> simp_all

theorem mem_pair : c' ∈ (p.pair c).2.certs ↔ c' = c ∨ c' ∈ p.certs := by
  by_cases h : c ∈ p.certs
  · have hsame : (p.pair c).2 = p := by simp [pair, isTrusted, h]
    rw [hsame]
    exact (or_iff_right_of_imp fun hc => hc ▸ h).symm
  · simp [pair, isTrusted, h]

theorem mem_unpair : c' ∈ (p.unpair c).2.certs ↔ c' ≠ c ∧ c' ∈ p.certs := by
  simp [unpair, and_comm]

theorem encodings_pair : (p.pair c).2.encodings = insert c.der p.encodings := by
  ext der
  rw [Finset.mem_insert, mem_encodings, mem_encodings, mem_pair, Certificate.mk.injEq]

theorem encodings_unpair : (p.unpair c).2.encodings = p.encodings.erase c.der := by
  ext der
  rw [Finset.mem_erase, mem_encodings, mem_encodings, mem_unpair, ne_eq, Certificate.mk.injEq]

theorem pair_changes_iff : (p.pair c).1 = true ↔ (p.pair c).2.encodings ≠ p.encodings := by
  have hnew : (p.pair c).1 = true ↔ c ∉ p.certs := by
    rw [pair, ← isTrusted_iff]
    split <;> simp_all
  rw [hnew, encodings_pair, ne_eq, Finset.insert_eq_self, mem_encodings]

theorem unpair_changes_iff : (p.unpair c).1 = true ↔ (p.unpair c).2.encodings ≠ p.encodings := by
  have hthere : (p.unpair c).1 = true ↔ c ∈ p.certs := isTrusted_iff
  rw [hthere, encodings_unpair, ne_eq, Finset.erase_eq_self, not_not, mem_encodings]

theorem nodup_pair (h : p.certs.Nodup) : (p.pair c).2.certs.Nodup := by
  rw [pair]
  split
  · exact h
  · next hnew => exact List.nodup_cons.2 ⟨fun hc => hnew (isTrusted_iff.2 hc), h⟩

theorem nodup_unpair (h : p.certs.Nodup) : (p.unpair c).2.certs.Nodup :=
  h.filter _

theorem size_eq_card (h : p.certs.Nodup) : p.size = p.encodings.card := by
  have hinj : Function.Injective Certificate.der := fun a b hab => by cases a; cases b; exact congrArg _ hab
  rw [encodings, List.toFinset_card_of_nodup (h.map hinj), List.length_map, size]

theorem isEmpty_iff : p.isEmpty = true ↔ p.encodings = ∅ := by
  rw [isEmpty, List.isEmpty_iff, encodings, List.toFinset_eq_empty_iff, List.map_eq_nil_iff]

inductive Call where
  | pair (c : Certificate)
  | unpair (c : Certificate)
  | isTrusted (c : Certificate)
  | evaluate (peer : Option Certificate)
  | size
  | isEmpty
  deriving DecidableEq

def call (p : PairedClients) : Call → PairedClients
  | .pair c => (p.pair c).2
  | .unpair c => (p.unpair c).2
  | _ => p

def after (p : PairedClients) (calls : List Call) : PairedClients :=
  calls.foldl call p

/-- The certificate was there at the start or was paired, and was not unpaired since. -/
def Standing (atStart : Prop) (calls : List Call) (c : Certificate) : Prop :=
  (atStart ∧ .unpair c ∉ calls) ∨ ∃ before since, calls = before ++ .pair c :: since ∧ .unpair c ∉ since

theorem standing_nil {atStart : Prop} : Standing atStart [] c ↔ atStart := by
  simp [Standing]

theorem standing_concat {atStart : Prop} {calls : List Call} {last : Call} :
    Standing atStart (calls ++ [last]) c ↔ last = .pair c ∨ last ≠ .unpair c ∧ Standing atStart calls c := by
  constructor
  · rintro (⟨hstart, hnever⟩ | ⟨before, since, hsplit, hnever⟩)
    · rw [List.mem_append, not_or, List.mem_singleton] at hnever
      exact .inr ⟨Ne.symm hnever.2, .inl ⟨hstart, hnever.1⟩⟩
    · rcases concat_eq_split hsplit with ⟨-, hlast, -⟩ | ⟨since, rfl, rfl⟩
      · exact .inl hlast.symm
      · rw [List.mem_append, not_or, List.mem_singleton] at hnever
        exact .inr ⟨Ne.symm hnever.2, .inr ⟨before, since, rfl, hnever.1⟩⟩
  · rintro (rfl | ⟨hlast, ⟨hstart, hnever⟩ | ⟨before, since, rfl, hnever⟩⟩)
    · exact .inr ⟨calls, [], rfl, List.not_mem_nil⟩
    · refine .inl ⟨hstart, ?_⟩
      rw [List.mem_append, not_or, List.mem_singleton]
      exact ⟨hnever, Ne.symm hlast⟩
    · refine .inr ⟨before, since ++ [last], by simp, ?_⟩
      rw [List.mem_append, not_or, List.mem_singleton]
      exact ⟨hnever, Ne.symm hlast⟩

theorem mem_call {last : Call} : c ∈ (p.call last).certs ↔ last = .pair c ∨ last ≠ .unpair c ∧ c ∈ p.certs := by
  cases last with
  | pair c' => simp [call, mem_pair, eq_comm]
  | unpair c' => simp [call, mem_unpair, eq_comm]
  | isTrusted _ | evaluate _ | size | isEmpty => simp [call]

theorem nodup_call {last : Call} (h : p.certs.Nodup) : (p.call last).certs.Nodup := by
  cases last with
  | pair c => exact nodup_pair h
  | unpair c => exact nodup_unpair h
  | isTrusted _ | evaluate _ | size | isEmpty => exact h

theorem after_concat (calls : List Call) (last : Call) : p.after (calls ++ [last]) = (p.after calls).call last := by
  simp [after]

theorem mem_after (calls : List Call) : c ∈ (p.after calls).certs ↔ Standing (c ∈ p.certs) calls c := by
  induction calls using List.reverseRecOn with
  | nil => exact standing_nil.symm
  | append_singleton calls last ih => rw [after_concat, mem_call, standing_concat, ih]

theorem nodup_after (h : p.certs.Nodup) (calls : List Call) : (p.after calls).certs.Nodup := by
  induction calls using List.reverseRecOn with
  | nil => exact h
  | append_singleton calls last ih =>
      rw [after_concat]
      exact nodup_call ih

def read (w : World) (path : String) : Except IdentityError Certificate :=
  (exec (Certificate.ofFile path) w).1

theorem read_eq (path : String) : read w path = Certificate.readFile w.files path :=
  (Certificate.exec_ofFile path w).1

/-- All files up to one at which loading stops. -/
def StopsAt (w : World) (paths : List String) (e : IdentityError) : Prop :=
  ∃ front path rest, paths = front ++ path :: rest ∧ (∀ other ∈ front, ∃ c, read w other = .ok c) ∧
    read w path = .error e

theorem StopsAt.cons {path : String} {e : IdentityError} (hc : read w path = .ok c) (h : StopsAt w paths e) :
    StopsAt w (path :: paths) e := by
  obtain ⟨front, stop, rest, rfl, hfront, hstop⟩ := h
  refine ⟨path :: front, stop, rest, rfl, ?_, hstop⟩
  intro other hother
  rcases List.mem_cons.1 hother with rfl | hother
  · exact ⟨c, hc⟩
  · exact hfront other hother

/-- The files of a path list are read one after the other, as they were at the start. -/
theorem loadAll_spec (paths : List String) (p : PairedClients) (w : World) :
    match (exec (loadAll p paths) w).1 with
    | .error e => StopsAt w paths e
    | .ok q =>
      (∀ path ∈ paths, ∃ c, read w path = .ok c) ∧
        (∀ c, c ∈ q.certs ↔ c ∈ p.certs ∨ ∃ path ∈ paths, read w path = .ok c) ∧ (p.certs.Nodup → q.certs.Nodup) := by
  induction paths generalizing p w with
  | nil => simp [loadAll]
  | cons path rest ih =>
      obtain ⟨_, log, hlog⟩ := Certificate.exec_ofFile path w
      rw [loadAll, exec_bind]
      cases hexec : exec (Certificate.ofFile path) w with
      | mk result w' =>
          have hread : read w path = result := congrArg Prod.fst hexec
          rw [hexec] at hlog
          obtain rfl : w' = { w with log := log } := hlog
          -- Reading a file adds to the log and nothing else, so the later files are as they were at the start.
          have hsame : ∀ other, read { w with log := log } other = read w other := by
            intro other
            rw [read_eq, read_eq]
          cases result with
          | error e => exact ⟨[], path, rest, rfl, by simp, hread⟩
          | ok c =>
              have hrest := ih (p.pair c).2 { w with log := log }
              simp only [hsame, StopsAt] at hrest ⊢
              cases hloaded : (exec (loadAll (p.pair c).2 rest) { w with log := log }).1 with
              | error e =>
                  rw [hloaded] at hrest
                  exact StopsAt.cons hread hrest
              | ok q =>
                  rw [hloaded] at hrest
                  obtain ⟨hall, hmem, hnodup⟩ := hrest
                  refine ⟨?_, ?_, fun h => hnodup (nodup_pair h)⟩
                  · simpa [hread] using hall
                  · intro c'
                    rw [hmem, mem_pair]
                    simp [hread, or_assoc, or_left_comm, eq_comm]

theorem loadFiles_result (paths : List String) (w : World) :
    (exec (loadFiles paths) w).1 = (exec (loadAll empty paths) w).1 := by
  rw [loadFiles, exec_bind]
  rcases exec (loadAll empty paths) w with ⟨⟨e⟩ | ⟨q⟩, w'⟩ <;> rfl

theorem loadFiles_spec (paths : List String) (w : World) :
    match (exec (loadFiles paths) w).1 with
    | .error e => StopsAt w paths e
    | .ok q =>
      (∀ path ∈ paths, ∃ c, read w path = .ok c) ∧ (∀ c, c ∈ q.certs ↔ ∃ path ∈ paths, read w path = .ok c) ∧
        q.certs.Nodup := by
  have hall := loadAll_spec paths empty w
  rw [loadFiles_result]
  cases hloaded : (exec (loadAll empty paths) w).1 with
  | error e =>
      rw [hloaded] at hall
      exact hall
  | ok q =>
      rw [hloaded] at hall
      simpa [empty] using hall

theorem loadFiles_ok_iff :
    (∃ q, (exec (loadFiles paths) w).1 = .ok q) ↔ ∀ path ∈ paths, ∃ c, read w path = .ok c := by
  have hspec := loadFiles_spec paths w
  cases hloaded : (exec (loadFiles paths) w).1 with
  | ok q =>
      rw [hloaded] at hspec
      exact ⟨fun _ => hspec.1, fun _ => ⟨q, rfl⟩⟩
  | error e =>
      rw [hloaded] at hspec
      obtain ⟨front, path, rest, rfl, _, hstop⟩ := hspec
      constructor
      · rintro ⟨q, hq⟩
        cases hq
      · intro hall
        obtain ⟨c, hc⟩ := hall path (by simp)
        rw [hstop] at hc
        cases hc

theorem mem_encodings_loaded (h : (exec (loadFiles paths) w).1 = .ok p) {der : Bytes} :
    der ∈ p.encodings ↔ ∃ path ∈ paths, read w path = .ok ⟨der⟩ := by
  have hspec := loadFiles_spec paths w
  rw [h] at hspec
  rw [mem_encodings]
  exact hspec.2.1 ⟨der⟩

theorem encodings_loaded_congr {others : List String} (h : (exec (loadFiles paths) w).1 = .ok p)
    (hsame : ∀ path, path ∈ others ↔ path ∈ paths) :
    ∃ q, (exec (loadFiles others) w).1 = .ok q ∧ q.encodings = p.encodings := by
  have hall := loadFiles_ok_iff.1 ⟨p, h⟩
  obtain ⟨q, hq⟩ := loadFiles_ok_iff.2 fun path hpath => hall path ((hsame path).1 hpath)
  refine ⟨q, hq, ?_⟩
  ext der
  simp only [mem_encodings_loaded h, mem_encodings_loaded hq, hsame]

/-- Loading succeeds if and only if each file holds a certificate, and yields the set of these certificates; else the
error is that of the first file that holds none. From there on, and from the empty set, the set is that of the
certificates that were loaded or paired and not unpaired since, through any calls; a change is reported as one exactly
if it is one; and the size is the number of byte strings that are trusted. -/
theorem loaded_then_called (paths : List String) (w : World) :
    ((∃ p, (exec (loadFiles paths) w).1 = .ok p) ↔
        ∀ path ∈ paths, ∃ c, (exec (Certificate.ofFile path) w).1 = .ok c) ∧
      (∀ e, (exec (loadFiles paths) w).1 = .error e →
        ∃ front path rest, paths = front ++ path :: rest ∧
          (∀ other ∈ front, ∃ c, (exec (Certificate.ofFile other) w).1 = .ok c) ∧
          (exec (Certificate.ofFile path) w).1 = .error e) ∧
      (∀ p, (exec (loadFiles paths) w).1 = .ok p →
        (∀ der, der ∈ p.encodings ↔ ∃ path ∈ paths, (exec (Certificate.ofFile path) w).1 = .ok ⟨der⟩) ∧
          ∀ others, (∀ path, path ∈ others ↔ path ∈ paths) →
            ∃ q, (exec (loadFiles others) w).1 = .ok q ∧ q.encodings = p.encodings) ∧
      ∀ p, (exec (loadFiles paths) w).1 = .ok p ∨ p = empty → ∀ calls,
        let q := p.after calls
        (∀ c, (q.isTrusted c = true ↔ Standing (c.der ∈ p.encodings) calls c) ∧
          (q.evaluate (some c) = .trusted ↔ Standing (c.der ∈ p.encodings) calls c) ∧
          ((q.pair c).1 = true ↔ (q.pair c).2.encodings ≠ q.encodings) ∧
          ((q.unpair c).1 = true ↔ (q.unpair c).2.encodings ≠ q.encodings)) ∧
        (∀ der, der ∈ q.encodings ↔ q.isTrusted ⟨der⟩ = true) ∧ q.size = q.encodings.card ∧
          (q.isEmpty = true ↔ q.encodings = ∅) := by
  refine ⟨loadFiles_ok_iff, ?_, ?_, ?_⟩
  · intro e he
    have hspec := loadFiles_spec paths w
    rw [he] at hspec
    exact hspec
  · exact fun p hp => ⟨fun der => mem_encodings_loaded hp, fun others => encodings_loaded_congr hp⟩
  · intro p hp calls q
    have hnodup : p.certs.Nodup := by
      rcases hp with hp | rfl
      · have hspec := loadFiles_spec paths w
        rw [hp] at hspec
        exact hspec.2.2
      · exact List.nodup_nil
    have htrusted : ∀ c, q.isTrusted c = true ↔ Standing (c.der ∈ p.encodings) calls c := by
      intro c
      rw [isTrusted_iff, mem_encodings]
      exact mem_after calls
    refine ⟨?_, ?_, size_eq_card (nodup_after hnodup calls), isEmpty_iff⟩
    · exact fun c => ⟨htrusted c, evaluate_trusted_iff.trans (htrusted c), pair_changes_iff, unpair_changes_iff⟩
    · exact fun der => mem_encodings.trans isTrusted_iff.symm

end PairedTls.PairedClients
