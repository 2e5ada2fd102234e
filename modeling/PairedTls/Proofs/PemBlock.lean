import PairedTls.Pem.Section
import PairedTls.Proofs.Base64

namespace PairedTls.Pem

theorem flatten_chunks {α : Type} (n : Nat) (xs : List α) : (chunks n xs).flatten = xs := by
  fun_induction chunks n xs with
  | case1 => rfl
  | case2 x rest ih => rw [List.flatten_cons, ih, List.cons_append, List.take_append_drop]

theorem ne_nil_of_mem_chunks {α : Type} {n : Nat} {xs ys : List α} (h : ys ∈ chunks n xs) : ys ≠ [] := by
  fun_induction chunks n xs with
  | case1 => simp at h
  | case2 x rest ih =>
      rcases List.mem_cons.1 h with rfl | h
      · simp
      · exact ih h

theorem mem_bodyLines {der line : Bytes} (hline : line ∈ bodyLines der) {b : UInt8} (hb : b ∈ line) :
    Base64.inAlphabet b = true := by
  have h : b ∈ Base64.encode der := by
    rw [← flatten_chunks (lineWidth - 1) (Base64.encode der)]
    exact List.mem_flatten.2 ⟨line, hline, hb⟩
  exact Base64.mem_encode h

/-- A body line starts with a digit, so it is never taken for a mark. -/
theorem bodyLines_head {der line : Bytes} (hline : line ∈ bodyLines der) :
    ∃ b rest, line = b :: rest ∧ b ≠ 45 := by
  cases line with
  | nil => exact absurd rfl (ne_nil_of_mem_chunks hline)
  | cons b rest =>
      exact ⟨b, rest, rfl, (Base64.inAlphabet_spec (mem_bodyLines hline List.mem_cons_self)).1⟩

theorem filter_blank_flatten {e : Bytes} (he : ∀ b ∈ e, Base64.blank b = true) (ls : List Bytes) :
    (ls.map (· ++ e)).flatten.filter (!Base64.blank ·) = ls.flatten.filter (!Base64.blank ·) := by
  have hnone : e.filter (!Base64.blank ·) = [] := List.filter_eq_nil_iff.2 fun b hb => by simp [he b hb]
  induction ls with
  | nil => rfl
  | cons l ls ih => simp [hnone, ih]

theorem decodeLoose?_bodyLines {e : Bytes} (he : ∀ b ∈ e, Base64.blank b = true) (der : Bytes) :
    Base64.decodeLoose? ((bodyLines der).map (· ++ e)).flatten = some der := by
  rw [← Base64.decodeLoose?_filter, filter_blank_flatten he, Base64.decodeLoose?_filter, bodyLines, flatten_chunks,
    Base64.decodeLoose?_encode]

/-- Nothing, or a text that a line break ends. -/
def Closed (text : Bytes) : Prop :=
  ∀ b, text.getLast? = some b → lineBreak b = true

theorem lines_cons {b : UInt8} (hb : lineBreak b = false) {rest l : Bytes} {ls : List Bytes}
    (h : lines rest = l :: ls) : lines (b :: rest) = (b :: l) :: ls := by
  simp [lines, hb, h]

theorem lines_ne_nil (b : UInt8) (rest : Bytes) : lines (b :: rest) ≠ [] := by
  rw [lines]
  split
  · simp
  · split <;> simp

theorem lines_append {a : Bytes} (ha : Closed a) (b : Bytes) : lines (a ++ b) = lines a ++ lines b := by
  induction a with
  | nil => rfl
  | cons x a ih =>
      cases a with
      | nil => simp [lines, ha x rfl]
      | cons y a =>
          have hc := ih fun z hz => ha z (by simpa using hz)
          cases hx : lineBreak x with
          | true => simp only [List.cons_append, lines, hx, if_true] at hc ⊢; rw [hc]
          | false =>
              obtain ⟨l, ls, hl⟩ := List.exists_cons_of_ne_nil (lines_ne_nil y a)
              rw [hl] at hc
              rw [List.cons_append, lines_cons hx hc, lines_cons hx hl]
              rfl

theorem lines_ended {l : Bytes} (hl : ∀ b ∈ l, lineBreak b = false) {e : UInt8} (he : lineBreak e = true) :
    lines (l ++ [e]) = [l ++ [e]] := by
  induction l with
  | nil => simp [lines, he]
  | cons b l ih =>
      have h := ih fun x hx => hl x (List.mem_cons_of_mem b hx)
      exact lines_cons (hl b List.mem_cons_self) h

theorem lines_start {l : Bytes} (hne : l ≠ []) (hl : ∀ b ∈ l, lineBreak b = false) (rest : Bytes) :
    ∃ e ls, lines (l ++ rest) = (l ++ e) :: ls := by
  induction l with
  | nil => exact absurd rfl hne
  | cons b l ih =>
      have hb := hl b List.mem_cons_self
      cases l with
      | nil =>
          cases hrest : lines rest with
          | nil => exact ⟨[], [], by simp [lines, hb, hrest]⟩
          | cons m ls => exact ⟨m, ls, lines_cons hb hrest⟩
      | cons c l =>
          obtain ⟨e, ls, hls⟩ := ih (List.cons_ne_nil c l) fun x hx => hl x (List.mem_cons_of_mem b hx)
          exact ⟨e, ls, lines_cons hb hls⟩

theorem closed_nil : Closed [] := by
  intro b hb
  cases hb

theorem closed_line (l : Bytes) : Closed (l ++ [newline]) := by
  intro b hb
  simp only [List.getLast?_append, List.getLast?_singleton, Option.some_or, Option.some.injEq] at hb
  subst hb
  rfl

theorem closed_append {a b : Bytes} (ha : Closed a) (hb : Closed b) : Closed (a ++ b) := by
  intro x hx
  cases b with
  | nil => exact ha x (by simpa using hx)
  | cons y b => exact hb x (by simpa [List.getLast?_append] using hx)

theorem closed_cons {b : UInt8} {text : Bytes} (hne : text ≠ []) (h : Closed text) : Closed (b :: text) := by
  obtain ⟨c, more, rfl⟩ := List.exists_cons_of_ne_nil hne
  intro x hx
  exact h x (by simpa using hx)

theorem closed_of_append {a b : Bytes} (h : Closed (a ++ b)) : Closed b := by
  intro x hx
  exact h x (by rw [List.getLast?_append, hx]; rfl)

theorem lines_flatMap {ls : List Bytes} (hls : ∀ l ∈ ls, ∀ b ∈ l, lineBreak b = false) :
    lines (ls.flatMap (· ++ [newline])) = ls.map (· ++ [newline]) := by
  induction ls with
  | nil => rfl
  | cons l ls ih =>
      rw [List.flatMap_cons, lines_append (closed_line l), lines_ended (hls l List.mem_cons_self) rfl,
        ih fun m hm => hls m (List.mem_cons_of_mem l hm)]
      rfl

theorem closed_flatMap (ls : List Bytes) : Closed (ls.flatMap (· ++ [newline])) := by
  induction ls with
  | nil => intro b hb; simp at hb
  | cons l ls ih => rw [List.flatMap_cons]; exact closed_append (closed_line l) ih

/-- A label that can stand on a mark: no line break in it, and neither a dash nor a blank at its end. -/
def LabelOk (label : Bytes) : Prop :=
  (∀ b ∈ label, lineBreak b = false) ∧ ∃ b, label.getLast? = some b ∧ b ≠ 45 ∧ b ≠ 32

theorem unbroken_of_all {text : Bytes} (h : text.all (!lineBreak ·) = true) : ∀ b ∈ text, lineBreak b = false := by
  intro b hb
  simpa using List.all_eq_true.1 h b hb

theorem blockLines_unbroken {label : Bytes} (hlabel : LabelOk label) (der : Bytes) :
    ∀ l ∈ blockLines label der, ∀ b ∈ l, lineBreak b = false := by
  have hdashes : dashes.all (!lineBreak ·) = true := rfl
  have hmark : ∀ mark : Bytes, mark.all (!lineBreak ·) = true → ∀ b ∈ mark ++ label ++ dashes, lineBreak b = false := by
    intro mark hmark b hb
    simp only [List.mem_append] at hb
    rcases hb with (hb | hb) | hb
    · exact unbroken_of_all hmark b hb
    · exact hlabel.1 b hb
    · exact unbroken_of_all hdashes b hb
  intro l hl
  simp only [blockLines, List.cons_append, List.mem_cons, List.mem_append, List.not_mem_nil, or_false] at hl
  rcases hl with rfl | hl | rfl
  · exact hmark beginMark rfl
  · intro b hb
    have h := Base64.inAlphabet_spec (mem_bodyLines hl hb)
    simp [lineBreak, h.2.1, h.2.2.1]
  · exact hmark endMark rfl

theorem lines_block {label : Bytes} (hlabel : LabelOk label) (der : Bytes) :
    lines (block label der) = (blockLines label der).map (· ++ [newline]) :=
  lines_flatMap (blockLines_unbroken hlabel der)

theorem closed_block (label der : Bytes) : Closed (block label der) :=
  closed_flatMap _

end PairedTls.Pem
