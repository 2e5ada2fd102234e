import Mathlib.Data.List.Basic
import PairedTls.Files
import PairedTls.Proofs.Sequences

namespace PairedTls.Files

variable {fs : Files} {place : Place}

theorem get?_set (h : fs.get? place ≠ some .directory) (node : Node) (q : Place) :
    (fs.set place node).get? q = if q = place then some node else fs.get? q := by
  have houtside : inside fs.workingDir place = false := by
    by_contra hinside
    apply h
    rw [get?, if_pos (by simpa using hinside)]
  by_cases hq : q = place
  · subst hq
    simp [get?, set, houtside]
  · rw [if_neg hq]
    have hbeq : (q == place) = false := by simpa using hq
    simp only [get?, set, List.lookup_cons, hbeq, lookup_filter, if_neg hq]

theorem walk_set (h : fs.get? place ≠ some .directory) (content : Bytes) (q : Place) (ns : List String) (here : Place) :
    (fs.set place (.file content)).walk here ns = .ok q ↔ fs.walk here ns = .ok q := by
  induction ns generalizing here with
  | nil => rfl
  | cons name rest ih =>
      simp only [walk, get?_set h]
      by_cases hhere : here = place
      · subst hhere
        cases hnode : fs.get? here with
        | none => simp
        | some node =>
            cases node with
            | directory => exact absurd hnode h
            | file old => simp
            | locked => simp
      · rw [if_neg hhere]
        cases fs.get? here with
        | none => rfl
        | some node =>
            cases node with
            | directory => simp only; split_ifs <;> first | rfl | exact ih _
            | file old => rfl
            | locked => rfl

theorem resolve_set (h : fs.get? place ≠ some .directory) (content : Bytes) (path : String) (q : Place) :
    (fs.set place (.file content)).resolve path = .ok q ↔ fs.resolve path = .ok q := by
  simp only [resolve]
  split_ifs
  · rfl
  · rfl
  · exact walk_set h content q _ _
  · exact walk_set h content q _ _

theorem read_eq_ok {path : String} {content : Bytes} :
    fs.read path = .ok content ↔ ∃ p, fs.resolve path = .ok p ∧ fs.get? p = some (.file content) := by
  cases hresolve : fs.resolve path with
  | error fault => simp [read, find, hresolve, bind, Except.bind]
  | ok p =>
      cases hnode : fs.get? p with
      | none => simp [read, find, hresolve, hnode, bind, Except.bind]
      | some node => cases node <;> simp [read, find, hresolve, hnode, bind, Except.bind]

theorem present_of_read {path : String} {content : Bytes} (h : fs.read path = .ok content) :
    fs.present path = true := by
  obtain ⟨p, hresolve, hnode⟩ := read_eq_ok.1 h
  simp [present, find, hresolve, hnode, bind, Except.bind]

theorem target_ok {path : String} (h : fs.target path = .ok place) :
    fs.resolve path = .ok place ∧ fs.get? place ≠ some .directory := by
  cases hresolve : fs.resolve path with
  | error fault => simp [target, hresolve, bind, Except.bind] at h
  | ok p =>
      simp only [target, hresolve, bind, Except.bind] at h
      cases hnode : fs.get? p with
      | none =>
          simp only [hnode] at h
          split_ifs at h
          obtain rfl := Except.ok.inj h
          exact ⟨rfl, by simp [hnode]⟩
      | some node =>
          cases node with
          | directory => simp [hnode] at h
          | locked => simp [hnode] at h
          | file old =>
              simp only [hnode] at h
              obtain rfl := Except.ok.inj h
              exact ⟨rfl, by simp [hnode]⟩

theorem read_set_self {path : String} (h : fs.target path = .ok place) (content : Bytes) :
    (fs.set place (.file content)).read path = .ok content := by
  obtain ⟨hresolve, hnode⟩ := target_ok h
  apply read_eq_ok.2
  refine ⟨place, (resolve_set hnode content path place).2 hresolve, ?_⟩
  rw [get?_set hnode, if_pos rfl]

theorem read_set_other {other : String} (h : fs.get? place ≠ some .directory) (hother : fs.resolve other ≠ .ok place)
    (content bytes : Bytes) : (fs.set place (.file content)).read other = .ok bytes ↔ fs.read other = .ok bytes := by
  simp only [read_eq_ok, resolve_set h, get?_set h]
  apply exists_congr
  intro p
  apply and_congr_right
  intro hp
  have hne : p ≠ place := by
    rintro rfl
    exact hother hp
  rw [if_neg hne]

/-- How much of a text a write has left on disk. The last byte of a PEM text, a line break, may be missing from a
whole one. -/
inductive Written where
  | untouched
  | cut
  | whole
  deriving DecidableEq, Repr

def written (fs : Files) (path : String) (content : Bytes) (fault : Option WriteFault) : Written :=
  match fs.target path with
  | .error _ => .untouched
  | .ok _ =>
    match fault with
    | some (.atOpen _) => .untouched
    | some (.afterBytes n _) => if n + 1 < content.length then .cut else .whole
    | none => .whole

def content? (fs : Files) (path : String) : Option Bytes :=
  (fs.read path).toOption

theorem content?_eq_some {path : String} {content : Bytes} :
    fs.content? path = some content ↔ fs.read path = .ok content := by
  rw [content?]
  cases fs.read path <;> simp [Except.toOption]

theorem content?_write (fs : Files) (path : String) (content : Bytes) (fault : Option WriteFault) :
    match fs.written path content fault with
    | .untouched => (fs.write path content fault).1 = fs
    | .cut => ∃ n, n + 1 < content.length ∧ (fs.write path content fault).1.content? path = some (content.take n)
    | .whole =>
      ∃ n, content.length ≤ n + 1 ∧ (fs.write path content fault).1.content? path = some (content.take n) := by
  unfold written write
  cases htarget : fs.target path with
  | error e => rfl
  | ok place =>
      have hread : ∀ n, (fs.set place (.file (content.take n))).content? path = some (content.take n) :=
        fun n => content?_eq_some.2 (read_set_self htarget (content.take n))
      cases fault with
      | none => exact ⟨content.length, by omega, by simpa using hread content.length⟩
      | some fault =>
          cases fault with
          | atOpen e => rfl
          | afterBytes n e =>
              by_cases hn : n + 1 < content.length
              · simp only [if_pos hn]
                exact ⟨n, hn, hread n⟩
              · simp only [if_neg hn]
                exact ⟨n, by omega, hread n⟩

/-- Two paths that lead to different places, as far as they lead anywhere. -/
def Apart (fs : Files) (path other : String) : Prop :=
  ∀ p, fs.resolve path = .ok p → fs.resolve other ≠ .ok p

theorem Apart.symm {path other : String} (h : fs.Apart path other) : fs.Apart other path :=
  fun p hother hpath => h p hpath hother

theorem write_cases (fs : Files) (path : String) (content : Bytes) (fault : Option WriteFault) :
    (fs.write path content fault).1 = fs ∨
      ∃ place part, fs.target path = .ok place ∧ (fs.write path content fault).1 = fs.set place (.file part) := by
  rw [write]
  cases htarget : fs.target path with
  | error e => exact .inl rfl
  | ok place =>
      cases fault with
      | none => exact .inr ⟨place, content, rfl, rfl⟩
      | some fault =>
          cases fault with
          | atOpen e => exact .inl rfl
          | afterBytes n e => exact .inr ⟨place, content.take n, rfl, rfl⟩

/-- Writing neither joins two paths nor parts them. -/
theorem apart_write {path a b : String} {content : Bytes} {fault : Option WriteFault} :
    (fs.write path content fault).1.Apart a b ↔ fs.Apart a b := by
  rcases write_cases fs path content fault with h | ⟨place, part, htarget, h⟩
  · rw [h]
  · have hnode := (target_ok htarget).2
    rw [h]
    simp only [Apart, ne_eq, resolve_set hnode]

theorem found_write_other {path other : String} (h : fs.Apart path other) (content : Bytes)
    (fault : Option WriteFault) (P : Option Node → Prop) :
    (∃ p, (fs.write path content fault).1.resolve other = .ok p ∧ P ((fs.write path content fault).1.get? p)) ↔
      ∃ p, fs.resolve other = .ok p ∧ P (fs.get? p) := by
  rcases write_cases fs path content fault with hwrite | ⟨place, part, htarget, hwrite⟩
  · rw [hwrite]
  · obtain ⟨hresolve, hnode⟩ := target_ok htarget
    rw [hwrite]
    simp only [resolve_set hnode, get?_set hnode]
    apply exists_congr
    intro p
    apply and_congr_right
    intro hother
    have hne : p ≠ place := by
      rintro rfl
      exact h p hresolve hother
    rw [if_neg hne]

theorem content?_write_other {path other : String} (h : fs.Apart path other) (content : Bytes)
    (fault : Option WriteFault) :
    (fs.write path content fault).1.content? other = fs.content? other := by
  apply Option.ext
  intro bytes
  rw [content?_eq_some, content?_eq_some, read_eq_ok, read_eq_ok]
  exact found_write_other h content fault (· = some (.file bytes))

def node? (fs : Files) (path : String) : Option Node :=
  (fs.find path).toOption

theorem node?_eq_some {path : String} {node : Node} :
    fs.node? path = some node ↔ ∃ p, fs.resolve path = .ok p ∧ fs.get? p = some node := by
  rw [node?, find]
  cases hresolve : fs.resolve path with
  | error fault => simp [bind, Except.bind, Except.toOption]
  | ok p =>
      cases hnode : fs.get? p <;> simp [hnode, bind, Except.bind, Except.toOption]

theorem node?_write_other {path other : String} (h : fs.Apart path other) (content : Bytes)
    (fault : Option WriteFault) : (fs.write path content fault).1.node? other = fs.node? other := by
  apply Option.ext
  intro node
  rw [node?_eq_some, node?_eq_some]
  exact found_write_other h content fault (· = some node)

/-- A file of this path can be created or replaced. -/
def Writable (fs : Files) (path : String) : Prop :=
  ∃ place, fs.target path = .ok place

theorem writable_iff {path : String} :
    fs.Writable path ↔ ∃ p, fs.resolve path = .ok p ∧
      match fs.get? p with
      | some (.file _) => True
      | some _ => False
      | none => path.endsWith "/" = false := by
  rw [Writable, target]
  cases hresolve : fs.resolve path with
  | error fault => simp [bind, Except.bind]
  | ok p =>
      cases hnode : fs.get? p with
      | none => cases path.endsWith "/" <;> simp [hnode, bind, Except.bind]
      | some node => cases node <;> simp [hnode, bind, Except.bind]

theorem writable_write_other {path other : String} (h : fs.Apart path other) (content : Bytes)
    (fault : Option WriteFault) : (fs.write path content fault).1.Writable other ↔ fs.Writable other := by
  rw [writable_iff, writable_iff]
  exact found_write_other h content fault fun node? =>
    match node? with
    | some (.file _) => True
    | some _ => False
    | none => other.endsWith "/" = false

end PairedTls.Files
