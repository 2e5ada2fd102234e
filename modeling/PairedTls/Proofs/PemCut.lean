import PairedTls.Identity.ServerKey
import PairedTls.Proofs.PemDocument

namespace PairedTls.Pem

def dashCount (text : Bytes) : Nat :=
  text.count 45

theorem dashCount_append (a b : Bytes) : dashCount (a ++ b) = dashCount a + dashCount b :=
  List.count_append

theorem dashCount_cons_le (b : UInt8) (text : Bytes) : dashCount text ≤ dashCount (b :: text) := by
  rw [dashCount, dashCount, List.count_cons]
  omega

theorem dashCount_eq_zero {text : Bytes} (h : ∀ b ∈ text, b ≠ 45) : dashCount text = 0 :=
  List.count_eq_zero.2 fun hmem => h 45 hmem rfl

namespace Envelope

theorem dashCount_splitAt {mark : Bytes} {todo seen bs before after : Bytes} (htodo : dashCount todo ≤ dashCount mark)
    (h : splitAt mark todo seen bs = some (before, after)) : dashCount todo + dashCount after ≤ dashCount bs := by
  induction bs generalizing todo seen with
  | nil => cases h
  | cons b rest ih =>
      have hrest := dashCount_cons_le b rest
      cases todo with
      | nil => cases h
      | cons m more =>
          -- Where a byte does not fit, the whole mark is still to be found.
          have hreset : splitAt mark mark (b :: seen) rest = some (before, after) →
              dashCount (m :: more) + dashCount after ≤ dashCount (b :: rest) := by
            intro h
            have hsame := ih (Nat.le_refl _) h
            omega
          cases more with
          | nil =>
              rw [splitAt] at h
              split_ifs at h with hb
              · obtain ⟨_, rfl⟩ := Prod.mk.inj (Option.some.inj h)
                have hcons : dashCount (b :: rest) = dashCount [b] + dashCount rest := dashCount_append [b] rest
                rw [hcons, hb]
              · exact hreset h
          | cons next more =>
              rw [splitAt] at h
              · split_ifs at h with hb
                · have hmore := ih ((dashCount_cons_le m _).trans htodo) h
                  have hcons : dashCount (b :: rest) = dashCount [b] + dashCount rest := dashCount_append [b] rest
                  have htodo' : dashCount (m :: next :: more) = dashCount [m] + dashCount (next :: more) :=
                    dashCount_append [m] _
                  rw [hcons, htodo', hb]
                  omega
                · exact hreset h
              · exact List.cons_ne_nil _ _

theorem dashCount_splitOn {mark bs before after : Bytes} (h : splitOn mark bs = some (before, after)) :
    dashCount mark + dashCount after ≤ dashCount bs :=
  dashCount_splitAt (Nat.le_refl _) h

theorem dashCount_dropWhile (bs : Bytes) : dashCount (bs.dropWhile blank) ≤ dashCount bs :=
  (List.dropWhile_sublist blank).count_le 45

theorem dashCount_capture {text : Bytes} {c : Captured} (h : capture text = some c) : 20 ≤ dashCount text := by
  obtain ⟨⟨_, afterBegin⟩, hbegin, h⟩ := Option.bind_eq_some_iff.1 h
  obtain ⟨⟨_, afterOpening⟩, hopening, h⟩ := Option.bind_eq_some_iff.1 h
  obtain ⟨⟨_, afterBody⟩, hbody, h⟩ := Option.bind_eq_some_iff.1 h
  obtain ⟨⟨_, afterClosing⟩, hclosing, _⟩ := Option.bind_eq_some_iff.1 h
  have hmarks : dashCount beginMark = 5 ∧ dashCount dashes = 5 ∧ dashCount endMark = 5 := by decide
  have h₁ := dashCount_splitOn hbegin
  have h₂ := dashCount_splitOn hopening
  have h₃ := dashCount_splitOn hbody
  have h₄ := dashCount_splitOn hclosing
  have hblank := dashCount_dropWhile afterOpening
  omega

theorem dashCount_read {text der : Bytes} (h : read text = .ok der) : 20 ≤ dashCount text := by
  cases hcapture : capture text with
  | none => rw [read, hcapture] at h; cases h
  | some c => exact dashCount_capture hcapture

end Envelope

theorem trailingDashes_le {b : UInt8} (hdash : b ≠ 45) (hblank : b ≠ 32) (hbreak : lineBreak b = false)
    (front back : Bytes) (n : Nat) (before : Bytes) :
    (trailingDashes n before (front ++ b :: back)).1 ≤ n + dashCount front := by
  induction front generalizing n before with
  | nil => rw [List.nil_append, trailingDashes_stop hdash hblank hbreak]; exact Nat.le_add_right _ _
  | cons x front ih =>
      rw [List.cons_append, trailingDashes]
      split_ifs with hx hskip
      · have hcount : dashCount (x :: front) = dashCount front + 1 := by rw [hx]; exact List.count_cons_self
        have h := ih (n + 1) (front ++ b :: back)
        omega
      · exact (ih n before).trans (Nat.add_le_add_left (dashCount_cons_le x front) n)
      · exact Nat.le_add_right _ _

theorem dashCount_opening {line label : Bytes} (hmark : beginMark <+: line) (h : openingLabel? line = some label) :
    10 ≤ dashCount line := by
  obtain ⟨rest, rfl⟩ := hmark
  have hreverse : (beginMark ++ rest).reverse =
      (rest.reverse ++ [32]) ++ 78 :: [73, 71, 69, 66, 45, 45, 45, 45, 45] := by
    rw [List.reverse_append, List.append_assoc]
    rfl
  have hle := trailingDashes_le (by decide : (78 : UInt8) ≠ 45) (by decide) (by decide) (rest.reverse ++ [32])
    [73, 71, 69, 66, 45, 45, 45, 45, 45] 0 (beginMark ++ rest).reverse
  have hcount : (trailingDashes 0 (beginMark ++ rest).reverse (beginMark ++ rest).reverse).1 = 5 := by
    by_contra hne
    rw [openingLabel?] at h
    simp only [if_neg hne] at h
    cases h
  rw [← hreverse, hcount, dashCount_append] at hle
  have hrest : dashCount rest.reverse = dashCount rest := List.count_reverse
  have hblank : dashCount [32] = 0 := rfl
  have hbegin : dashCount beginMark = 5 := by decide
  rw [dashCount_append]
  omega

theorem dashCount_endLine {line label : Bytes} (h : endLine label <+: line) : 10 ≤ dashCount line := by
  obtain ⟨rest, rfl⟩ := h
  have hmarks : dashCount endMark = 5 ∧ dashCount dashes = 5 := by decide
  rw [endLine, dashCount_append, dashCount_append, dashCount_append]
  omega

theorem openingLabel?_of_item {s : Option Open} {line : Bytes} {rest : List Bytes} {item : Kind × Bytes}
    (hbegin : beginMark.isPrefixOf line = true) (h : .ok item ∈ items s (line :: rest)) :
    ∃ label collected, openingLabel? line = some label ∧ .ok item ∈ items (some ⟨label, collected⟩) rest := by
  cases hlabel : openingLabel? line with
  | none => cases s <;> simp [items, hbegin, hlabel] at h
  | some label =>
      cases s with
      | none =>
          simp only [items, hbegin, hlabel, if_true] at h
          exact ⟨label, _, rfl, h⟩
      | some o =>
          simp only [items, hbegin, hlabel, if_true] at h
          exact ⟨label, _, rfl, h⟩

/-- An item takes an opening and an ending line; the opening may have been read already. -/
theorem dashCount_items {s : Option Open} {ls : List Bytes} {item : Kind × Bytes} (h : .ok item ∈ items s ls) :
    (if s.isSome then 10 else 20) ≤ dashCount ls.flatten := by
  induction ls generalizing s with
  | nil => cases s <;> simp [items] at h
  | cons line rest ih =>
      rw [List.flatten_cons, dashCount_append]
      by_cases hbegin : beginMark.isPrefixOf line = true
      · obtain ⟨label, collected, hlabel, hitem⟩ := openingLabel?_of_item hbegin h
        have hline := dashCount_opening (List.isPrefixOf_iff_prefix.1 hbegin) hlabel
        have hrest := ih hitem
        simp only [Option.isSome_some, if_true] at hrest
        split_ifs <;> omega
      · cases s with
        | none =>
            rw [items, if_neg hbegin] at h
            have hrest := ih h
            simp only [Option.isSome_none, Bool.false_eq_true, if_false] at hrest ⊢
            omega
        | some o =>
            rw [items, if_neg hbegin] at h
            simp only [Option.isSome_some, if_true]
            split_ifs at h with hend
            · have hline := dashCount_endLine (List.isPrefixOf_iff_prefix.1 hend)
              omega
            · have hrest := ih h
              simp only [Option.isSome_some, if_true] at hrest
              omega

theorem ok_mem_of_first {α : Type} {keep : Kind → Bytes → Option α} {found : List (Except Fault (Kind × Bytes))} {a : α}
    (h : first keep found = .ok a) : ∃ item, .ok item ∈ found := by
  cases found with
  | nil => cases h
  | cons x found =>
      cases x with
      | error e => cases h
      | ok item => exact ⟨item, List.mem_cons_self⟩

theorem flatten_lines (text : Bytes) : (lines text).flatten = text := by
  induction text with
  | nil => rfl
  | cons b rest ih =>
      cases hb : lineBreak b with
      | true => rw [lines, if_pos hb, List.flatten_cons, ih]; rfl
      | false =>
          cases hrest : lines rest with
          | nil =>
              rw [hrest] at ih
              simp only [lines, hb, Bool.false_eq_true, if_false, ← ih]
              rfl
          | cons l ls =>
              rw [lines_cons hb hrest, List.flatten_cons, List.cons_append, ← List.flatten_cons, ← hrest, ih]

theorem infix_of_mem_lines {text line : Bytes} (h : line ∈ lines text) : line <:+: text := by
  obtain ⟨front, back, hsplit⟩ := List.append_of_mem h
  refine ⟨front.flatten, back.flatten, ?_⟩
  rw [← flatten_lines text, hsplit, List.flatten_append, List.flatten_cons, List.append_assoc]

theorem dashCount_itemsOfText {α : Type} {keep : Kind → Bytes → Option α} {text : Bytes} {a : α}
    (h : first keep (itemsOfText text) = .ok a) : 20 ≤ dashCount text := by
  obtain ⟨item, hitem⟩ := ok_mem_of_first h
  have hcount := dashCount_items hitem
  have hflatten : ((lines text).map withoutBreak).flatten = text.filter (!lineBreak ·) := by
    have hmap : ((lines text).map withoutBreak).flatten = (lines text).flatten.filter (!lineBreak ·) :=
      List.filter_flatten.symm
    rw [hmap, flatten_lines]
  rw [hflatten] at hcount
  exact hcount.trans (List.filter_sublist.count_le 45)

def bodyText (der : Bytes) : Bytes :=
  (bodyLines der).flatMap (· ++ [newline])

def openBlock (label der : Bytes) : Bytes :=
  beginLine label ++ newline :: (bodyText der ++ endLine label)

theorem block_eq (label der : Bytes) : block label der = openBlock label der ++ [newline] := by
  simp [block, blockLines, openBlock, bodyText, List.flatMap_append]

theorem mem_bodyText {der : Bytes} {b : UInt8} (hb : b ∈ bodyText der) : Base64.inAlphabet b = true ∨ b = newline := by
  obtain ⟨line, hline, hb⟩ := List.mem_flatMap.1 hb
  rcases List.mem_append.1 hb with hb | hb
  · exact .inl (mem_bodyLines hline hb)
  · exact .inr (List.mem_singleton.1 hb)

theorem dashCount_bodyText (der : Bytes) : dashCount (bodyText der) = 0 := by
  apply dashCount_eq_zero
  intro b hb
  rcases mem_bodyText hb with hb | rfl
  · exact (Base64.inAlphabet_spec hb).1
  · decide

theorem dashCount_openBlock {label : Bytes} (hlabel : ∀ b ∈ label, b ≠ 45) (der : Bytes) :
    dashCount (openBlock label der) = 20 := by
  have hmarks : dashCount beginMark = 5 ∧ dashCount dashes = 5 ∧ dashCount endMark = 5 ∧ dashCount [newline] = 0 := by
    decide
  have hbody := dashCount_bodyText der
  have hnone := dashCount_eq_zero hlabel
  have hline : dashCount (newline :: (bodyText der ++ endLine label)) =
      dashCount [newline] + dashCount (bodyText der ++ endLine label) := dashCount_append [newline] _
  rw [openBlock, dashCount_append, hline]
  simp only [beginLine, endLine, dashCount_append]
  omega

theorem dashCount_cut {label : Bytes} (hlabel : ∀ b ∈ label, b ≠ 45) (der : Bytes) {n : Nat}
    (hn : n + 1 < (block label der).length) : dashCount ((block label der).take n) < 20 := by
  obtain ⟨front, hfront⟩ : ∃ front, openBlock label der = front ++ [45] :=
    ⟨beginLine label ++ newline :: (bodyText der ++ (endMark ++ label ++ [45, 45, 45, 45])), by
      simp [openBlock, endLine, dashes_eq]⟩
  have hcount := dashCount_openBlock hlabel der
  have hlast : dashCount [45] = 1 := rfl
  rw [hfront, dashCount_append, hlast] at hcount
  rw [block_eq, hfront, List.append_assoc] at hn ⊢
  simp only [List.length_append, List.length_cons, List.length_nil] at hn
  rw [List.take_append_of_le_length (by omega)]
  have htake : dashCount (front.take n) ≤ dashCount front := (List.take_sublist n front).count_le 45
  omega

theorem take_block (label der : Bytes) {n : Nat} (hn : (block label der).length ≤ n + 1) :
    (block label der).take n = openBlock label der ∨ (block label der).take n = block label der := by
  rw [block_eq, List.length_append, List.length_singleton] at *
  rcases Nat.lt_or_ge n ((openBlock label der).length + 1) with hlt | hge
  · left
    obtain rfl : n = (openBlock label der).length := by omega
    exact List.take_left
  · right
    apply List.take_of_length_le
    rw [List.length_append, List.length_singleton]
    exact hge

theorem lines_unended {l : Bytes} (hne : l ≠ []) (hl : ∀ b ∈ l, lineBreak b = false) : lines l = [l] := by
  induction l with
  | nil => exact absurd rfl hne
  | cons b l ih =>
      have hb := hl b List.mem_cons_self
      cases l with
      | nil => simp [lines, hb]
      | cons c l => exact lines_cons hb (ih (List.cons_ne_nil c l) fun x hx => hl x (List.mem_cons_of_mem b hx))

theorem lines_openBlock {label : Bytes} (hlabel : LabelOk label) (der : Bytes) :
    lines (openBlock label der) = (beginLine label :: bodyLines der).map (· ++ [newline]) ++ [endLine label] := by
  have hunbroken := blockLines_unbroken hlabel der
  have hlines : ∀ l ∈ beginLine label :: bodyLines der, ∀ b ∈ l, lineBreak b = false :=
    fun l hl => hunbroken l (List.mem_append_left _ hl)
  have hend : ∀ b ∈ endLine label, lineBreak b = false :=
    hunbroken _ (List.mem_append_right _ (List.mem_singleton.2 rfl))
  have hsplit : openBlock label der = (beginLine label :: bodyLines der).flatMap (· ++ [newline]) ++ endLine label := by
    simp [openBlock, bodyText]
  have hne : endLine label ≠ [] := List.append_ne_nil_of_right_ne_nil _ (by decide)
  rw [hsplit, lines_append (closed_flatMap _), lines_flatMap hlines, lines_unended hne hend]

theorem map_withoutBreak {ls : List Bytes} (h : ∀ l ∈ ls, ∀ b ∈ l, lineBreak b = false) :
    (ls.map (· ++ [newline])).map withoutBreak = ls := by
  rw [List.map_map]
  refine (List.map_congr_left fun l hl => ?_).trans (List.map_id ls)
  exact withoutBreak_append (h l hl) (List.forall_mem_singleton.2 rfl)

theorem itemsOfText_take {label : Bytes} {kind : Kind} (hlabel : LabelOk label) (hkind : kindOf? label = some kind)
    (der : Bytes) {n : Nat} (hn : (block label der).length ≤ n + 1) :
    itemsOfText ((block label der).take n) = [.ok (kind, der)] := by
  have hunbroken := blockLines_unbroken hlabel der
  have hlines : (lines ((block label der).take n)).map withoutBreak = blockLines label der := by
    rcases take_block label der hn with h | h
    · have hend : withoutBreak (endLine label) = endLine label := by
        have happend := withoutBreak_append (e := [])
          (hunbroken (endLine label) (List.mem_append_right _ (List.mem_singleton.2 rfl))) (by simp)
        rwa [List.append_nil] at happend
      have hfront := map_withoutBreak fun l hl => hunbroken l (List.mem_append_left _ hl)
      rw [h, lines_openBlock hlabel, List.map_append, hfront, List.map_singleton, hend]
      rfl
    · rw [h, lines_block hlabel, map_withoutBreak hunbroken]
  have hitems := items_blockLines (e := []) hlabel hkind (by simp) der []
  rw [itemsOfText, hlines]
  simpa [items] using hitems

end PairedTls.Pem
