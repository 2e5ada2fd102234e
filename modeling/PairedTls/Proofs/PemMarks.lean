import PairedTls.Proofs.PemEnvelope

namespace PairedTls.Pem.Envelope

theorem splitAt_cons (mark : Bytes) (m b : UInt8) (more seen rest : Bytes) :
    splitAt mark (m :: more) seen (b :: rest) =
      if b = m then
        if more = [] then some ((seen.drop (mark.length - 1)).reverse, rest) else splitAt mark more (b :: seen) rest
      else splitAt mark mark (b :: seen) rest := by
  cases more with
  | nil => rfl
  | cons next more => rw [splitAt, if_neg (List.cons_ne_nil next more)]; exact List.cons_ne_nil next more

/-- What is found of a mark before its end stands at the end of what was seen. -/
theorem splitAt_eq_some {mark todo matched earlier bs before after : Bytes} (hmark : matched ++ todo = mark)
    (h : splitAt mark todo (matched.reverse ++ earlier) bs = some (before, after)) :
    earlier.reverse ++ (matched ++ bs) = before ++ (mark ++ after) := by
  induction bs generalizing todo matched earlier with
  | nil => cases h
  | cons b rest ih =>
      cases todo with
      | nil => cases h
      | cons m more =>
          rw [splitAt_cons] at h
          split_ifs at h with hb hlast
          · obtain ⟨rfl, rfl⟩ := Prod.mk.inj (Option.some.inj h)
            subst hb hlast
            have hlength : mark.length - 1 = matched.reverse.length := by simp [← hmark]
            rw [hlength, List.drop_left, ← hmark, List.append_assoc]
            rfl
          · subst hb
            have hseen : b :: (matched.reverse ++ earlier) = (matched ++ [b]).reverse ++ earlier := by simp
            have hfound : earlier.reverse ++ ((matched ++ [b]) ++ rest) = before ++ (mark ++ after) :=
              ih (by rw [← hmark]; simp) (hseen ▸ h)
            simpa using hfound
          · have hfound : (b :: (matched.reverse ++ earlier)).reverse ++ ([] ++ rest) = before ++ (mark ++ after) :=
              ih rfl h
            simpa using hfound

theorem splitOn_eq_some {mark bs before after : Bytes} (h : splitOn mark bs = some (before, after)) :
    bs = before ++ (mark ++ after) := by
  have hfound : [].reverse ++ ([] ++ bs) = before ++ (mark ++ after) := splitAt_eq_some rfl h
  simpa using hfound

theorem splitAt_absent {mark todo matched bs : Bytes} (hmark : matched ++ todo = mark) (hne : todo ≠ [])
    (habsent : ¬mark <:+: matched ++ bs) (hlast : ∀ b ∈ (matched ++ bs).getLast?, b ∉ mark) (seen rest : Bytes) :
    splitAt mark todo seen (bs ++ rest) = splitAt mark mark (bs.reverse ++ seen) rest := by
  induction bs generalizing todo matched seen with
  | nil =>
      cases hend : matched.getLast? with
      | none =>
          obtain rfl := List.getLast?_eq_none_iff.1 hend
          rw [← hmark]
          rfl
      | some b =>
          have hmem : b ∈ matched := List.mem_of_getLast? hend
          refine absurd ?_ (hlast b (by rwa [List.append_nil]))
          rw [← hmark]
          exact List.mem_append_left todo hmem
  | cons b bs ih =>
      cases todo with
      | nil => exact absurd rfl hne
      | cons m more =>
          have hmove : matched ++ b :: bs = (matched ++ [b]) ++ bs := by simp
          rw [List.cons_append, splitAt_cons]
          by_cases hb : b = m
          · subst hb
            have hmark' : (matched ++ [b]) ++ more = mark := by rw [← hmark]; simp
            have hmore : more ≠ [] := by
              rintro rfl
              rw [List.append_nil] at hmark'
              exact habsent (hmove ▸ hmark' ▸ List.infix_append' [] _ _)
            rw [if_pos rfl, if_neg hmore, ih hmark' hmore (hmove ▸ habsent) (hmove ▸ hlast)]
            simp
          · -- The partial match is given up with this byte, and the search goes on behind it.
            have hmarkne : mark ≠ [] := by rw [← hmark]; simp
            have hrest : ∀ x ∈ bs.getLast?, x ∉ mark := by
              intro x hx
              refine hlast x ?_
              rw [hmove, List.getLast?_append, Option.mem_def.1 hx]
              rfl
            have habsentRest : ¬mark <:+: [] ++ bs := by
              intro hin
              refine habsent (hin.trans ?_)
              rw [hmove]
              exact (List.suffix_append _ bs).isInfix
            rw [if_neg hb, ih rfl hmarkne habsentRest hrest]
            simp

/-- Whole lines without the mark are passed over, even where a match breaks off in them. -/
theorem splitOn_found_line {mark before : Bytes} (hne : mark ≠ []) (habsent : ¬mark <:+: before)
    (hlast : ∀ b ∈ before.getLast?, b ∉ mark) (rest : Bytes) :
    splitOn mark (before ++ (mark ++ rest)) = some (before, rest) := by
  have hlength : mark.length - 1 = mark.dropLast.reverse.length := by simp
  have hskip := splitAt_absent (List.nil_append mark) hne habsent hlast [] (mark ++ rest)
  rw [splitOn, hskip, splitAt_found hne, hlength, List.drop_left]
  simp

theorem capture_eq_some {pem : Bytes} {c : Captured} (h : capture pem = some c) :
    ∃ before blanks body after,
      pem = before ++ (beginMark ++ (c.opening ++ (dashes ++ (blanks ++ (body ++
        (endMark ++ (c.closing ++ (dashes ++ after)))))))) := by
  obtain ⟨⟨before, afterBegin⟩, hbegin, h⟩ := Option.bind_eq_some_iff.1 h
  obtain ⟨⟨opening, afterOpening⟩, hopening, h⟩ := Option.bind_eq_some_iff.1 h
  obtain ⟨⟨body, afterBody⟩, hbody, h⟩ := Option.bind_eq_some_iff.1 h
  obtain ⟨⟨closing, after⟩, hclosing, h⟩ := Option.bind_eq_some_iff.1 h
  obtain rfl := Option.some.inj h
  refine ⟨before, afterOpening.takeWhile blank, body, after, ?_⟩
  rw [splitOn_eq_some hbegin, splitOn_eq_some hopening, ← splitOn_eq_some hclosing, ← splitOn_eq_some hbody,
    List.takeWhile_append_dropWhile]

theorem read_eq_ok {pem der : Bytes} (h : read pem = .ok der) :
    ∃ c, capture pem = some c ∧ decodeData c.data = .ok der ∧ checkHeaders (headerLines c.headers) = .ok () := by
  rw [read] at h
  split at h
  next => cases h
  next c hcapture =>
    refine ⟨c, hcapture, ?_⟩
    obtain ⟨opening, -, h⟩ := bind_eq_ok h
    split_ifs at h
    obtain ⟨closing, -, h⟩ := bind_eq_ok h
    split_ifs at h
    obtain ⟨found, hdata, h⟩ := bind_eq_ok h
    obtain ⟨u, hheaders, h⟩ := bind_eq_ok h
    cases h
    exact ⟨hdata, hheaders⟩

theorem mem_of_checkHeaders {ls : List Bytes} (h : checkHeaders ls = .ok ()) : ∀ l ∈ ls, (58 : UInt8) ∈ l := by
  induction ls with
  | nil => exact List.forall_mem_nil _
  | cons l ls ih =>
      rw [checkHeaders] at h
      split_ifs at h with hl
      · exact List.forall_mem_cons.2 ⟨List.contains_iff_mem.1 hl, ih h⟩
      · obtain ⟨shown, -, h⟩ := bind_eq_ok h
        cases h

theorem withoutReturn_subset (line : Bytes) : withoutReturn line ⊆ line := by
  rw [withoutReturn]
  split_ifs
  · exact List.dropLast_subset line
  · exact List.Subset.refl line

theorem headerLines_unended {headers : Bytes} (hne : headers ≠ []) (hline : (10 : UInt8) ∉ headers) :
    headerLines headers = [headers] := by
  simp [headerLines, List.splitOn_eq_singleton hline, hne]

theorem headerLines_line {line : Bytes} (hline : (10 : UInt8) ∉ line) (rest : Bytes) :
    withoutReturn line ∈ headerLines (line ++ 10 :: rest) := by
  obtain ⟨next, more, hmore⟩ := List.exists_cons_of_ne_nil (List.splitOn_ne_nil (10 : UInt8) rest)
  rw [headerLines, List.splitOn_append_cons_self_of_not_mem hline, hmore]
  exact List.mem_append_left _ (List.mem_map_of_mem List.mem_cons_self)

theorem headers_eq_nil {headers : Bytes} (h : checkHeaders (headerLines headers) = .ok ())
    (hcolon : (58 : UInt8) ∉ headers) : headers = [] := by
  by_contra hne
  have hall := mem_of_checkHeaders h
  by_cases hline : (10 : UInt8) ∈ headers
  · obtain ⟨line, rest, rfl, hfirst⟩ := List.eq_append_cons_of_mem hline
    have hmem := hall _ (headerLines_line hfirst rest)
    exact hcolon (List.mem_append_left _ (withoutReturn_subset line hmem))
  · rw [headerLines_unended hne hline] at hall
    exact hcolon (hall headers List.mem_cons_self)

theorem splitHeaders_eq {body : Bytes} (hstart : ∀ b ∈ body.head?, blank b = false)
    (h : checkHeaders (headerLines (splitHeaders body).1) = .ok ()) (hcolon : (58 : UInt8) ∉ body) :
    splitHeaders body = ([], body) := by
  have hnone {mark headers data : Bytes} (hmark : ∃ b rest, mark = b :: rest ∧ blank b = true)
      (hfound : splitOn mark body = some (headers, data))
      (hcheck : checkHeaders (headerLines headers) = .ok ()) : False := by
    have hbody := splitOn_eq_some hfound
    obtain rfl := headers_eq_nil hcheck fun hmem => hcolon (hbody ▸ List.mem_append_left _ hmem)
    obtain ⟨b, rest, rfl, hb⟩ := hmark
    have hhead := hstart b (by rw [hbody]; rfl)
    rw [hb] at hhead
    cases hhead
  rw [splitHeaders] at h ⊢
  cases hempty : splitOn emptyLine body with
  | some parts =>
      rw [hempty] at h
      exact (hnone ⟨10, _, rfl, rfl⟩ hempty h).elim
  | none =>
      cases hreturn : splitOn emptyLineReturn body with
      | some parts =>
          rw [hempty, hreturn] at h
          exact (hnone ⟨13, _, rfl, rfl⟩ hreturn h).elim
      | none => rfl

theorem decodeLoose?_dropWhile (text : Bytes) :
    Base64.decodeLoose? (text.dropWhile blank) = Base64.decodeLoose? text := by
  have hfront : (text.takeWhile blank).filter (!Base64.blank ·) = [] := by
    refine List.filter_eq_nil_iff.2 fun b hb => ?_
    have hblank := List.all_eq_true.1 List.all_takeWhile b hb
    simp only [blank, Bool.or_eq_true, beq_iff_eq] at hblank
    rcases hblank with ((rfl | rfl) | rfl) | rfl <;> decide
  rw [← Base64.decodeLoose?_filter (text.dropWhile blank), ← Base64.decodeLoose?_filter text]
  conv_rhs => rw [← List.takeWhile_append_dropWhile (p := blank) (l := text), List.filter_append, hfront,
    List.nil_append]

theorem decodeLoose?_of_decodeData {data out : Bytes} (hascii : ∀ b ∈ data, b < 0x80)
    (h : decodeData data = .ok out) : Base64.decodeLoose? data = some out := by
  have hfilter : (data.map Utf8.ofByte).filter (!Text.whiteSpace ·) = (data.filter (!Base64.blank ·)).map Utf8.ofByte := by
    rw [List.filter_map]
    refine congrArg _ (List.filter_congr fun b hb => ?_)
    rw [Function.comp_apply, whiteSpace_ofByte (hascii b hb)]
  have hencode : Utf8.encode ((data.filter (!Base64.blank ·)).map Utf8.ofByte) = data.filter (!Base64.blank ·) :=
    Utf8.encode_map fun b hb => hascii b (List.mem_of_mem_filter hb)
  rw [decodeData, Utf8.decode?_ascii hascii] at h
  simp only [hfilter, hencode] at h
  cases hexact : Base64.decodeExact? (data.filter (!Base64.blank ·)) with
  | none => rw [hexact] at h; cases h
  | some found =>
      rw [hexact] at h
      cases h
      rw [← Base64.decodeLoose?_filter]
      refine Base64.decodeLoose?_of_decodeExact? (fun b hb => ?_) hexact
      simpa using (List.mem_filter.1 hb).2

end PairedTls.Pem.Envelope
