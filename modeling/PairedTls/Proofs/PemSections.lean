import PairedTls.Proofs.PemBlock

namespace PairedTls.Pem

/-- How lines are shown to the reader: `e` is what is left of the break that ends a line. -/
structure View (f : Bytes → Bytes) (e : Bytes) : Prop where
  line : ∀ l, (∀ b ∈ l, lineBreak b = false) → f (l ++ [newline]) = l ++ e
  ending : ∀ b ∈ e, lineBreak b = true
  mark : ∀ text, ∀ l ∈ lines text, beginMark <+: f l → beginMark <+: l

theorem mem_lines {text line : Bytes} (h : line ∈ lines text) :
    line ≠ [] ∧ ∃ l e, line = l ++ e ∧ (∀ b ∈ l, lineBreak b = false) ∧
      (e = [] ∨ ∃ b, e = [b] ∧ lineBreak b = true) := by
  induction text generalizing line with
  | nil => simp [lines] at h
  | cons b rest ih =>
      cases hb : lineBreak b with
      | true =>
          rw [lines, if_pos hb] at h
          rcases List.mem_cons.1 h with rfl | h
          · exact ⟨by simp, [], [b], rfl, by simp, .inr ⟨b, rfl, hb⟩⟩
          · exact ih h
      | false =>
          cases hl : lines rest with
          | nil =>
              simp only [lines, hb, Bool.false_eq_true, if_false, hl, List.mem_singleton] at h
              exact ⟨by simp [h], [b], [], by simp [h], by simpa using hb, .inl rfl⟩
          | cons m ls =>
              rw [lines_cons hb hl] at h
              rcases List.mem_cons.1 h with rfl | h
              · obtain ⟨-, l, e, rfl, hunbroken, he⟩ := ih (by simp [hl] : m ∈ lines rest)
                exact ⟨by simp, b :: l, e, rfl, by simpa using ⟨hb, hunbroken⟩, he⟩
              · exact ih (by simp [hl, h])

theorem closed_front {text line : Bytes} {front back : List Bytes} (h : lines text = front ++ line :: back) :
    Closed front.flatten := by
  induction text generalizing front with
  | nil => exact absurd h (by simp [lines])
  | cons b rest ih =>
      cases front with
      | nil => exact closed_nil
      | cons l front =>
          cases hb : lineBreak b with
          | true =>
              rw [lines, if_pos hb, List.cons_append] at h
              obtain ⟨rfl, hrest⟩ := List.cons.inj h
              refine closed_append ?_ (ih hrest)
              intro x hx
              rwa [← Option.some.inj hx]
          | false =>
              cases hrest : lines rest with
              | nil =>
                  simp only [lines, hb, Bool.false_eq_true, if_false, hrest, List.cons_append] at h
                  have htail := (List.cons.inj h).2
                  exact absurd htail.symm (by simp)
              | cons m ls =>
                  rw [lines_cons hb hrest, List.cons_append] at h
                  obtain ⟨rfl, htail⟩ := List.cons.inj h
                  have hne : m ≠ [] := (mem_lines (by rw [hrest]; exact List.mem_cons_self)).1
                  have hfront : Closed (m :: front).flatten := ih (by rw [hrest, htail]; rfl)
                  exact closed_cons (List.append_ne_nil_of_left_ne_nil hne _) hfront

theorem closed_middle {text line : Bytes} {front middle back : List Bytes}
    (h : lines text = front ++ (middle ++ line :: back)) : Closed middle.flatten := by
  rw [← List.append_assoc] at h
  have hclosed := closed_front h
  rw [List.flatten_append] at hclosed
  exact closed_of_append hclosed

theorem fileView : View id [newline] where
  line _ _ := rfl
  ending := by simp [lineBreak, newline]
  mark _ _ _ h := h

theorem withoutBreak_append {l e : Bytes} (hl : ∀ b ∈ l, lineBreak b = false) (he : ∀ b ∈ e, lineBreak b = true) :
    withoutBreak (l ++ e) = l := by
  have h₁ : l.filter (!lineBreak ·) = l := List.filter_eq_self.2 fun b hb => by simp [hl b hb]
  have h₂ : e.filter (!lineBreak ·) = [] := List.filter_eq_nil_iff.2 fun b hb => by simp [he b hb]
  rw [withoutBreak, List.filter_append, h₁, h₂, List.append_nil]

theorem textView : View withoutBreak [] where
  line l hl := by rw [withoutBreak_append hl (by simp [lineBreak, newline]), List.append_nil]
  ending := by simp
  mark text line hline h := by
    obtain ⟨-, l, e, rfl, hl, he⟩ := mem_lines hline
    have hbreak : ∀ b ∈ e, lineBreak b = true := by
      rcases he with rfl | ⟨b, rfl, hb⟩ <;> simp [*]
    rw [withoutBreak_append hl hbreak] at h
    exact h.trans (List.prefix_append l e)

theorem trailingDashes_blanks {e : Bytes} (he : ∀ b ∈ e, b = 32 ∨ lineBreak b = true) (n : Nat)
    (before rest : Bytes) : trailingDashes n before (e ++ rest) = trailingDashes n before rest := by
  induction e with
  | nil => rfl
  | cons b e ih =>
      have hb := he b List.mem_cons_self
      have hne : b ≠ 45 := by rintro rfl; rcases hb with hb | hb <;> cases hb
      rw [List.cons_append, trailingDashes, if_neg hne, if_pos hb]
      exact ih fun x hx => he x (List.mem_cons_of_mem b hx)

theorem trailingDashes_stop {b : UInt8} (hdash : b ≠ 45) (hblank : b ≠ 32) (hbreak : lineBreak b = false)
    (n : Nat) (before rest : Bytes) : trailingDashes n before (b :: rest) = (n, before) := by
  rw [trailingDashes, if_neg hdash, if_neg (by simp [hblank, hbreak])]

theorem dashes_eq : dashes = 45 :: 45 :: [45, 45, 45] := by decide

theorem openingLabel?_beginLine {label e : Bytes} (hlabel : LabelOk label)
    (he : ∀ b ∈ e, b = 32 ∨ lineBreak b = true) : openingLabel? (beginLine label ++ e) = some label := by
  obtain ⟨hunbroken, last, hlast, hdash, hblank⟩ := hlabel
  obtain ⟨front, rfl⟩ := List.getLast?_eq_some_iff.1 hlast
  have hbreak := hunbroken last (by simp)
  have hreverse : (beginLine (front ++ [last]) ++ e).reverse =
      e.reverse ++ 45 :: 45 :: 45 :: 45 :: 45 :: last :: (front.reverse ++ beginMark.reverse) := by
    simp [beginLine, dashes_eq]
  have hcount : ∀ before, trailingDashes 0 before (beginLine (front ++ [last]) ++ e).reverse =
      (5, last :: (front.reverse ++ beginMark.reverse)) := by
    intro before
    rw [hreverse, trailingDashes_blanks (by simpa using he)]
    simp only [trailingDashes, if_true]
    exact trailingDashes_stop hdash hblank hbreak _ _ _
  simp only [openingLabel?, hcount, if_true]
  simp

/-- What the count takes off a reversed line: dashes and blanks, up to the foremost of the dashes. -/
theorem trailingDashes_spec {n count : Nat} {before rest front : Bytes}
    (h : trailingDashes n before rest = (count, front)) :
    ∃ tail more, rest = tail ++ more ∧ (∀ b ∈ tail, b = 45 ∨ b = 32 ∨ lineBreak b = true) ∧
      n + tail.count 45 = count ∧ (tail.count 45 = 0 ∧ front = before ∨ tail.getLast? = some 45 ∧ front = more) := by
  induction rest generalizing n before with
  | nil =>
      obtain ⟨rfl, rfl⟩ := Prod.mk.inj h
      exact ⟨[], [], rfl, List.forall_mem_nil _, rfl, .inl ⟨rfl, rfl⟩⟩
  | cons b rest ih =>
      rw [trailingDashes] at h
      split_ifs at h with hdash hblank
      · subst hdash
        obtain ⟨tail, more, rfl, htail, hcount, hfront⟩ := ih h
        rcases hfront with ⟨hnone, rfl⟩ | ⟨hlast, rfl⟩
        · refine ⟨[45], tail ++ more, rfl, List.forall_mem_singleton.2 (.inl rfl), ?_, .inr ⟨rfl, rfl⟩⟩
          rw [hnone] at hcount
          exact hcount
        · refine ⟨45 :: tail, _, rfl, List.forall_mem_cons.2 ⟨.inl rfl, htail⟩, ?_, .inr ⟨?_, rfl⟩⟩
          · rw [List.count_cons_self]
            omega
          · rw [List.getLast?_cons, hlast]
            rfl
      · obtain ⟨tail, more, rfl, htail, hcount, hfront⟩ := ih h
        have hsame : (b :: tail).count 45 = tail.count 45 := List.count_cons_of_ne hdash
        refine ⟨b :: tail, more, rfl, List.forall_mem_cons.2 ⟨.inr hblank, htail⟩, by rwa [hsame], ?_⟩
        rcases hfront with ⟨hnone, rfl⟩ | ⟨hlast, rfl⟩
        · exact .inl ⟨by rwa [hsame], rfl⟩
        · exact .inr ⟨by rw [List.getLast?_cons, hlast]; rfl, rfl⟩
      · obtain ⟨rfl, rfl⟩ := Prod.mk.inj h
        exact ⟨[], b :: rest, rfl, List.forall_mem_nil _, rfl, .inl ⟨rfl, rfl⟩⟩

theorem openingLabel?_eq_some {line label : Bytes} (hmark : beginMark <+: line) (hne : label ≠ [])
    (h : openingLabel? line = some label) :
    ∃ tail, line = beginMark ++ (label ++ 45 :: tail) ∧ (∀ b ∈ tail, b = 45 ∨ b = 32 ∨ lineBreak b = true) ∧
      tail.count 45 = 4 := by
  cases htrail : trailingDashes 0 line.reverse line.reverse with
  | mk count front =>
      simp only [openingLabel?, htrail] at h
      obtain ⟨rfl, h⟩ := Option.ite_none_right_eq_some.1 h
      obtain ⟨tail, more, hreverse, htail, hcount, hfront⟩ := trailingDashes_spec htrail
      obtain ⟨hlast, rfl⟩ := hfront.resolve_left fun hnone => by omega
      obtain ⟨init, rfl⟩ := List.getLast?_eq_some_iff.1 hlast
      have hline : line = front.reverse ++ 45 :: init.reverse := by
        rw [← List.reverse_reverse line, hreverse]
        simp
      have hlabel : front.reverse.drop beginMark.length = label := Option.some.inj h
      have hlength : beginMark.length ≤ front.reverse.length := by
        by_contra hshort
        rw [List.drop_of_length_le (by omega)] at hlabel
        exact hne hlabel.symm
      have htake : front.reverse.take beginMark.length = beginMark := by
        rw [List.prefix_iff_eq_take, hline, List.take_append_of_le_length hlength] at hmark
        exact hmark.symm
      have hsplit : front.reverse = beginMark ++ label := by
        rw [← List.take_append_drop beginMark.length front.reverse, htake, hlabel]
      refine ⟨init.reverse, ?_, fun b hb => htail b (List.mem_append_left _ (List.mem_reverse.1 hb)), ?_⟩
      · rw [hline, hsplit, List.append_assoc]
      · rw [List.count_reverse]
        rw [List.count_append, List.count_singleton_self] at hcount
        omega

theorem beginMark_prefix (label e : Bytes) : beginMark.isPrefixOf (beginLine label ++ e) = true := by
  simp [beginLine, List.append_assoc, List.isPrefixOf_iff_prefix]

theorem items_beginLine {label e : Bytes} (hlabel : LabelOk label) (he : ∀ b ∈ e, b = 32 ∨ lineBreak b = true)
    (rest : List Bytes) :
    items none ((beginLine label ++ e) :: rest) = items (some ⟨label, []⟩) rest := by
  simp [items, beginMark_prefix, openingLabel?_beginLine hlabel he]

theorem isPrefixOf_of_head {b c : UInt8} (h : b ≠ c) (mark rest : Bytes) :
    (b :: mark).isPrefixOf (c :: rest) = false := by
  simp [List.isPrefixOf, h]

theorem items_inside {label : Bytes} {ls : List Bytes}
    (hls : ∀ l ∈ ls, ¬beginMark <+: l ∧ ¬endLine label <+: l) (collected : Bytes) (rest : List Bytes) :
    items (some ⟨label, collected⟩) (ls ++ rest) = items (some ⟨label, collected ++ ls.flatten⟩) rest := by
  induction ls generalizing collected with
  | nil => rw [List.nil_append, List.flatten_nil, List.append_nil]
  | cons l ls ih =>
      obtain ⟨hbegin, hend⟩ := hls l List.mem_cons_self
      rw [← List.isPrefixOf_iff_prefix] at hbegin hend
      rw [List.cons_append, items, if_neg hbegin]
      simp only [if_neg hend]
      rw [ih fun m hm => hls m (List.mem_cons_of_mem l hm), List.flatten_cons, List.append_assoc]

theorem items_bodyLines (der e : Bytes) (label : Bytes) (rest : List Bytes) :
    items (some ⟨label, []⟩) ((bodyLines der).map (· ++ e) ++ rest) =
      items (some ⟨label, ((bodyLines der).map (· ++ e)).flatten⟩) rest := by
  refine items_inside ?_ [] rest
  intro line hline
  obtain ⟨l, hl, rfl⟩ := List.mem_map.1 hline
  obtain ⟨b, more, rfl, hb⟩ := bodyLines_head hl
  rw [List.cons_append, ← List.isPrefixOf_iff_prefix, ← List.isPrefixOf_iff_prefix, Bool.not_eq_true,
    Bool.not_eq_true]
  exact ⟨isPrefixOf_of_head (Ne.symm hb) _ _, isPrefixOf_of_head (Ne.symm hb) _ _⟩

theorem items_endLine {label collected der e : Bytes} {kind : Kind} (hkind : kindOf? label = some kind)
    (hder : Base64.decodeLoose? collected = some der) (rest : List Bytes) :
    items (some ⟨label, collected⟩) ((endLine label ++ e) :: rest) = .ok (kind, der) :: items none rest := by
  have hbegin : beginMark.isPrefixOf (endLine label ++ e) = false := rfl
  have hend : (endLine label).isPrefixOf (endLine label ++ e) = true := by simp [List.isPrefixOf_iff_prefix]
  rw [items, if_neg (by simp [hbegin]), if_pos hend]
  simp [hkind, hder]

theorem items_badBody {label collected e : Bytes} {kind : Kind} (hkind : kindOf? label = some kind)
    (hbody : Base64.decodeLoose? collected = none) (rest : List Bytes) :
    items (some ⟨label, collected⟩) ((endLine label ++ e) :: rest) = [.error .badBase64] := by
  have hbegin : beginMark.isPrefixOf (endLine label ++ e) = false := rfl
  have hend : (endLine label).isPrefixOf (endLine label ++ e) = true := by simp [List.isPrefixOf_iff_prefix]
  rw [items, if_neg (by simp [hbegin]), if_pos hend]
  simp [hkind, hbody]

theorem blank_of_lineBreak {b : UInt8} (h : lineBreak b = true) : Base64.blank b = true := by
  simp only [lineBreak, Bool.or_eq_true, beq_iff_eq] at h
  rcases h with rfl | rfl <;> rfl

theorem items_blockLines {label e : Bytes} {kind : Kind} (hlabel : LabelOk label) (hkind : kindOf? label = some kind)
    (he : ∀ b ∈ e, lineBreak b = true) (der : Bytes) (rest : List Bytes) :
    items none ((blockLines label der).map (· ++ e) ++ rest) = .ok (kind, der) :: items none rest := by
  have hder := decodeLoose?_bodyLines (fun b hb => blank_of_lineBreak (he b hb)) der
  simp only [blockLines, List.cons_append, List.map_cons, List.map_append, List.map_nil, List.append_assoc,
    List.nil_append]
  rw [items_beginLine hlabel fun b hb => .inr (he b hb), items_bodyLines, items_endLine hkind hder]

theorem items_plainLines {f : Bytes → Bytes} {ls : List Bytes} (hls : ∀ l ∈ ls, ¬beginMark <+: f l)
    (rest : List Bytes) : items none (ls.map f ++ rest) = items none rest := by
  induction ls with
  | nil => rfl
  | cons l ls ih =>
      have hl := hls l List.mem_cons_self
      rw [← List.isPrefixOf_iff_prefix] at hl
      rw [List.map_cons, List.cons_append, items, if_neg hl]
      exact ih fun m hm => hls m (List.mem_cons_of_mem l hm)

theorem items_unopened {ls : List Bytes} (hls : ∀ l ∈ ls, ¬beginMark <+: l) : items none ls = [] := by
  have h := items_plainLines (f := id) hls []
  rwa [List.map_id, List.append_nil] at h

end PairedTls.Pem
