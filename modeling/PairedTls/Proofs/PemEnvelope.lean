import PairedTls.Proofs.PemCut

namespace PairedTls

namespace Utf8

def ofByte (b : UInt8) : Char :=
  Char.ofNat b.toNat

theorem decode?_ascii {bs : Bytes} (h : ∀ b ∈ bs, b < 0x80) : decode? bs = some (bs.map ofByte) := by
  induction bs with
  | nil => rw [decode?]; rfl
  | cons b bs ih =>
      have hb := h b List.mem_cons_self
      have hrest := ih fun x hx => h x (List.mem_cons_of_mem b hx)
      have hstep : step b bs = (some (ofByte b), 0) := if_pos hb
      rw [decode?, hstep]
      simp only [List.drop_zero, hrest, Option.map_some, List.map_cons]

theorem encode_ofByte {b : UInt8} (h : b < 0x80) : String.utf8EncodeChar (ofByte b) = [b] := by
  have hall : ∀ n : Fin 128, String.utf8EncodeChar (ofByte (UInt8.ofNat n.val)) = [UInt8.ofNat n.val] := by
    decide +kernel
  have hn := hall ⟨b.toNat, UInt8.lt_iff_toNat_lt.1 h⟩
  simpa only [UInt8.ofNat_toNat] using hn

theorem encode_map {bs : Bytes} (h : ∀ b ∈ bs, b < 0x80) : encode (bs.map ofByte) = bs := by
  induction bs with
  | nil => rfl
  | cons b bs ih =>
      have hrest := ih fun x hx => h x (List.mem_cons_of_mem b hx)
      rw [encode] at hrest ⊢
      rw [List.map_cons, List.flatMap_cons, encode_ofByte (h b List.mem_cons_self), hrest]
      rfl

end Utf8

namespace Pem

theorem ascii_of_all {text : Bytes} (h : text.all (· < 0x80) = true) : ∀ b ∈ text, b < 0x80 := by
  intro b hb
  simpa using List.all_eq_true.1 h b hb

theorem Label.text_plain (label : Label) : ∀ b ∈ label.text, b ≠ 45 ∧ b < 0x80 := by
  have hall : label.text.all (fun b => b != 45 && b < 0x80) = true := by
    cases label <;> rfl
  intro b hb
  simpa using List.all_eq_true.1 hall b hb

theorem bodyText_lt {der : Bytes} {b : UInt8} (hb : b ∈ bodyText der) : b < 0x80 := by
  rcases mem_bodyText hb with hb | rfl
  · exact UInt8.lt_iff_toNat_lt.2 (Base64.inAlphabet_spec hb).2.2.2.1
  · decide

namespace Envelope

variable {mark : Bytes} {m next : UInt8} {more : Bytes}

theorem splitAt_skip (hmark : mark = m :: next :: more) {before : Bytes} (h : ∀ b ∈ before, b ≠ m) (seen rest : Bytes) :
    splitAt mark mark seen (before ++ rest) = splitAt mark mark (before.reverse ++ seen) rest := by
  subst hmark
  induction before generalizing seen with
  | nil => rfl
  | cons b before ih =>
      have hb := h b List.mem_cons_self
      rw [List.cons_append, splitAt, if_neg hb, ih fun x hx => h x (List.mem_cons_of_mem b hx)]
      · simp
      · exact List.cons_ne_nil _ _

theorem splitAt_found {todo : Bytes} (h : todo ≠ []) (seen rest : Bytes) :
    splitAt mark todo seen (todo ++ rest) =
      some (((todo.dropLast.reverse ++ seen).drop (mark.length - 1)).reverse, rest) := by
  induction todo generalizing seen with
  | nil => exact absurd rfl h
  | cons b todo ih =>
      cases todo with
      | nil => simp [splitAt]
      | cons c todo =>
          rw [List.cons_append, splitAt, if_pos rfl, ih (List.cons_ne_nil c todo)]
          · simp
          · exact List.cons_ne_nil _ _

theorem splitOn_found (hmark : mark = m :: next :: more) {before : Bytes} (h : ∀ b ∈ before, b ≠ m) (rest : Bytes) :
    splitOn mark (before ++ (mark ++ rest)) = some (before, rest) := by
  have hne : mark ≠ [] := hmark ▸ List.cons_ne_nil m _
  have hlength : mark.length - 1 = mark.dropLast.reverse.length := by simp
  rw [splitOn, splitAt_skip hmark h, splitAt_found hne, hlength, List.drop_left]
  simp

theorem splitOn_absent (hmark : mark = m :: next :: more) {bs : Bytes} (h : ∀ b ∈ bs, b ≠ m) :
    splitOn mark bs = none := by
  have hskip := splitAt_skip hmark h [] []
  rw [List.append_nil] at hskip
  rw [splitOn, hskip]
  rfl

theorem splitAt_emptyLine {ls : List Bytes} (h : ∀ l ∈ ls, ∃ b rest, l = b :: rest ∧ ∀ x ∈ l, x ≠ newline)
    (seen : Bytes) :
    splitAt emptyLine emptyLine seen (ls.flatMap (· ++ [newline])) = none ∧
      splitAt emptyLine [newline] seen (ls.flatMap (· ++ [newline])) = none := by
  induction ls generalizing seen with
  | nil => exact ⟨rfl, rfl⟩
  | cons l ls ih =>
      obtain ⟨b, rest, rfl, hl⟩ := h l List.mem_cons_self
      have hrest := fun seen => (ih (fun x hx => h x (List.mem_cons_of_mem _ hx)) seen).2
      have hbreak : ∀ seen, splitAt emptyLine emptyLine seen (newline :: ls.flatMap (· ++ [newline])) = none :=
        fun seen => hrest (newline :: seen)
      have hline : ∀ xs : Bytes, (∀ x ∈ xs, x ≠ newline) → ∀ seen,
          splitAt emptyLine emptyLine seen (xs ++ newline :: ls.flatMap (· ++ [newline])) = none := by
        intro xs hxs seen
        have hmark : emptyLine = newline :: newline :: [] := rfl
        exact (splitAt_skip hmark hxs seen _).trans (hbreak _)
      have htext : ((b :: rest) :: ls).flatMap (· ++ [newline]) =
          (b :: rest) ++ newline :: ls.flatMap (· ++ [newline]) := by
        simp
      rw [htext]
      refine ⟨hline _ hl seen, ?_⟩
      have hb : b ≠ newline := hl b List.mem_cons_self
      have hreset : splitAt emptyLine [newline] seen (b :: rest ++ newline :: ls.flatMap (· ++ [newline])) =
          splitAt emptyLine emptyLine (b :: seen) (rest ++ newline :: ls.flatMap (· ++ [newline])) := if_neg hb
      rw [hreset]
      exact hline rest (fun x hx => hl x (List.mem_cons_of_mem b hx)) _

theorem splitHeaders_bodyText (der : Bytes) : splitHeaders (bodyText der) = ([], bodyText der) := by
  have hlines : ∀ l ∈ bodyLines der, ∃ b rest, l = b :: rest ∧ ∀ x ∈ l, x ≠ newline := by
    intro l hl
    obtain ⟨b, rest, hl', _⟩ := bodyLines_head hl
    exact ⟨b, rest, hl', fun x hx => (Base64.inAlphabet_spec (mem_bodyLines hl hx)).2.1⟩
  have hempty : splitOn emptyLine (bodyText der) = none := (splitAt_emptyLine hlines []).1
  have hreturn : splitOn emptyLineReturn (bodyText der) = none := by
    have hmark : emptyLineReturn = 13 :: 10 :: [13, 10] := rfl
    apply splitOn_absent hmark
    intro b hb
    rcases mem_bodyText hb with hb | rfl
    · exact (Base64.inAlphabet_spec hb).2.2.1
    · decide
  rw [splitHeaders, hempty, hreturn]
  rfl

theorem dropWhile_blank_bodyText (der : Bytes) (label rest : Bytes) :
    (newline :: (bodyText der ++ (endMark ++ (label ++ rest)))).dropWhile blank =
      bodyText der ++ (endMark ++ (label ++ rest)) := by
  have hnewline : blank newline = true := rfl
  rw [List.dropWhile_cons, if_pos hnewline]
  cases hlines : bodyLines der with
  | nil =>
      rw [bodyText, hlines]
      rfl
  | cons l ls =>
      have hmem : l ∈ bodyLines der := by rw [hlines]; exact List.mem_cons_self
      obtain ⟨b, more, hl, _⟩ := bodyLines_head hmem
      have hfirst : b ∈ l := by rw [hl]; exact List.mem_cons_self
      have hb := (Base64.inAlphabet_spec (mem_bodyLines hmem hfirst)).2.2.2.2
      have hblank : blank b = false := by
        simp only [Base64.blank, Bool.or_eq_false_iff, beq_eq_false_iff_ne] at hb
        simp only [blank, Bool.or_eq_false_iff, beq_eq_false_iff_ne]
        refine ⟨⟨⟨hb.1, ?_⟩, ?_⟩, ?_⟩ <;> rintro rfl <;> cases hb.2
      rw [bodyText, hlines, hl, List.flatMap_cons, List.cons_append, List.cons_append, List.cons_append,
        List.dropWhile_cons, hblank]
      rfl

theorem beginMark_eq : beginMark = 45 :: 45 :: [45, 45, 45, 66, 69, 71, 73, 78, 32] := by decide

theorem endMark_eq : endMark = 45 :: 45 :: [45, 45, 45, 69, 78, 68, 32] := by decide

/-- What comes after the dashes that end a block makes no difference. -/
theorem capture_openBlock {label : Bytes} (hlabel : ∀ b ∈ label, b ≠ 45) (der rest : Bytes) :
    capture (openBlock label der ++ rest) = some ⟨label, [], bodyText der, label⟩ := by
  have htext : openBlock label der ++ rest =
      [] ++ (beginMark ++ (label ++ (dashes ++ newline ::
        (bodyText der ++ (endMark ++ (label ++ (dashes ++ rest))))))) := by
    simp [openBlock, beginLine, endLine]
  have hbegin := splitOn_found beginMark_eq (List.forall_mem_nil (· ≠ 45))
    (label ++ (dashes ++ newline :: (bodyText der ++ (endMark ++ (label ++ (dashes ++ rest))))))
  have hopening := splitOn_found dashes_eq hlabel
    (newline :: (bodyText der ++ (endMark ++ (label ++ (dashes ++ rest)))))
  have hbody : ∀ b ∈ bodyText der, b ≠ 45 := by
    intro b hb
    rcases mem_bodyText hb with hb | rfl
    · exact (Base64.inAlphabet_spec hb).1
    · decide
  have hend := splitOn_found endMark_eq hbody (label ++ (dashes ++ rest))
  have hclosing := splitOn_found dashes_eq hlabel rest
  rw [htext, capture, hbegin]
  simp only [Option.bind_eq_bind, Option.bind_some, hopening, dropWhile_blank_bodyText, hend, hclosing,
    splitHeaders_bodyText]
  rfl

theorem whiteSpace_ofByte {b : UInt8} (h : b < 0x80) : Text.whiteSpace (Utf8.ofByte b) = Base64.blank b := by
  have hall : ∀ n : Fin 128, Text.whiteSpace (Utf8.ofByte (UInt8.ofNat n.val)) = Base64.blank (UInt8.ofNat n.val) := by
    decide +kernel
  have hn := hall ⟨b.toNat, UInt8.lt_iff_toNat_lt.1 h⟩
  simpa only [UInt8.ofNat_toNat] using hn

theorem whiteSpace_bodyText {der line : Bytes} (hline : line ∈ bodyLines der) {b : UInt8} (hb : b ∈ line) :
    Text.whiteSpace (Utf8.ofByte b) = false := by
  have h := Base64.inAlphabet_spec (mem_bodyLines hline hb)
  rw [whiteSpace_ofByte (UInt8.lt_iff_toNat_lt.2 h.2.2.2.1), h.2.2.2.2]

theorem filter_bodyText (der : Bytes) :
    (bodyText der).filter (fun b => !Text.whiteSpace (Utf8.ofByte b)) = Base64.encode der := by
  have hlines : ∀ ls : List Bytes, (∀ l ∈ ls, ∀ b ∈ l, Text.whiteSpace (Utf8.ofByte b) = false) →
      (ls.flatMap (· ++ [newline])).filter (fun b => !Text.whiteSpace (Utf8.ofByte b)) = ls.flatten := by
    intro ls hls
    induction ls with
    | nil => rfl
    | cons l ls ih =>
        have hl : l.filter (fun b => !Text.whiteSpace (Utf8.ofByte b)) = l :=
          List.filter_eq_self.2 fun b hb => by simp [hls l List.mem_cons_self b hb]
        have hbreak : [newline].filter (fun b => !Text.whiteSpace (Utf8.ofByte b)) = [] := by decide
        rw [List.flatMap_cons, List.filter_append, List.filter_append, hl, hbreak, List.append_nil,
          ih fun m hm => hls m (List.mem_cons_of_mem l hm), List.flatten_cons]
  rw [bodyText, hlines _ fun l hl b hb => whiteSpace_bodyText hl hb, bodyLines, flatten_chunks]

theorem decodeData_bodyText (der : Bytes) : decodeData (bodyText der) = .ok der := by
  have hascii : ∀ b ∈ bodyText der, b < 0x80 := fun b hb => bodyText_lt hb
  have hfilter : ((bodyText der).map Utf8.ofByte).filter (!Text.whiteSpace ·) =
      (Base64.encode der).map Utf8.ofByte := by
    rw [List.filter_map, ← filter_bodyText]
    rfl
  have hencode : Utf8.encode ((Base64.encode der).map Utf8.ofByte) = Base64.encode der :=
    Utf8.encode_map fun b hb => UInt8.lt_iff_toNat_lt.2 (Base64.inAlphabet_spec (Base64.mem_encode hb)).2.2.2.1
  rw [decodeData, Utf8.decode?_ascii hascii]
  simp only [hfilter, hencode, Base64.decodeExact?_encode]

/-- A block under any label of plain text is read as what was written. -/
theorem read_openBlock {label : Bytes} (hlabel : ∀ b ∈ label, b ≠ 45 ∧ b < 0x80) (hne : label ≠ []) (der rest : Bytes) :
    read (openBlock label der ++ rest) = .ok der := by
  obtain ⟨b, more, rfl⟩ := List.exists_cons_of_ne_nil hne
  have htext : text (b :: more) = .ok (String.ofList ((b :: more).map Utf8.ofByte)) := by
    rw [text, Utf8.text?, Utf8.decode?_ascii fun x hx => (hlabel x hx).2]
    rfl
  have hfilled : (String.ofList ((b :: more).map Utf8.ofByte)).isEmpty = false := by
    rw [← Bool.not_eq_true, String.isEmpty_iff]
    intro hempty
    have hlist := congrArg String.toList hempty
    rw [String.toList_ofList] at hlist
    exact List.cons_ne_nil _ _ hlist
  have hheaders : checkHeaders (headerLines []) = .ok () := rfl
  rw [read, capture_openBlock fun x hx => (hlabel x hx).1]
  simp only [htext, bind, Except.bind, hfilled, decodeData_bodyText, hheaders, Bool.false_eq_true, if_false, ne_eq,
    not_true_eq_false, pure, Except.pure]

theorem read_block {label : Bytes} (hlabel : ∀ b ∈ label, b ≠ 45 ∧ b < 0x80) (hne : label ≠ []) (der behind : Bytes) :
    read (block label der ++ behind) = .ok der := by
  rw [block_eq, List.append_assoc]
  exact read_openBlock hlabel hne der ([newline] ++ behind)

end Envelope
end Pem
end PairedTls
