import PairedTls.Proofs.DerReading
import PairedTls.Tls.Leaf

namespace PairedTls.Leaf

open Der Der.Strict

variable {α : Type} {tag : UInt8}

def Understood (x : Except LeafFault α) : Prop :=
  x ≠ .error .badEncoding

theorem readLimited_write {tag : UInt8} (htag : tag.toNat % 32 ≠ 31) {content : Bytes}
    (h : content.length < sizeLimit) (rest : Bytes) :
    readLimited tag (write tag content ++ rest) = .ok (content, rest) := by
  have hbound : content.length < sizeBound := Nat.lt_trans h (by decide)
  rw [readLimited, read_write htag hbound]
  exact if_pos h

theorem readWhole_write {tag : UInt8} (htag : tag.toNat % 32 ≠ 31) {content : Bytes}
    (h : content.length < sizeLimit) : readWhole tag (write tag content) = .ok content := by
  have hread := readLimited_write htag h []
  rw [List.append_nil] at hread
  rw [readWhole, hread]
  rfl

theorem write_inj (htag : tag.toNat % 32 ≠ 31) {content content' rest rest' : Bytes}
    (hfits : content.length < sizeLimit) (hfits' : content'.length < sizeLimit)
    (h : write tag content ++ rest = write tag content' ++ rest') : content = content' ∧ rest = rest' := by
  have hread := readLimited_write htag hfits rest
  rw [h, readLimited_write htag hfits' rest'] at hread
  exact Prod.mk.inj (Except.ok.inj hread.symm)

theorem readLimited_cases (htag : tag.toNat % 32 ≠ 31) (bs : Bytes) :
    (∃ content rest, content.length < sizeLimit ∧ bs = write tag content ++ rest ∧
      readLimited tag bs = .ok (content, rest)) ∨
    (∀ content rest, content.length < sizeLimit → bs ≠ write tag content ++ rest) ∧
      readLimited tag bs = .error .badEncoding := by
  cases hread : readLimited tag bs with
  | ok found =>
      obtain ⟨content, rest⟩ := found
      rw [readLimited] at hread
      cases hfound : read tag bs with
      | none => rw [hfound] at hread; cases hread
      | some found =>
          rw [hfound] at hread
          dsimp only at hread
          split_ifs at hread with hfits
          cases hread
          exact .inl ⟨_, _, hfits, (read_eq_some hfound).2, rfl⟩
  | error fault =>
      refine .inr ⟨fun content rest hfits hbs => ?_, ?_⟩
      · rw [hbs, readLimited_write htag hfits] at hread
        cases hread
      · rw [readLimited] at hread
        cases hfound : read tag bs with
        | none => rw [hfound] at hread; exact hread.symm
        | some found =>
            rw [hfound] at hread
            dsimp only at hread
            split_ifs at hread
            exact hread.symm

theorem understood_readLimited (htag : tag.toNat % 32 ≠ 31) (bs : Bytes) (f : Bytes × Bytes → Except LeafFault α) :
    Understood (readLimited tag bs >>= f) ↔
      ∃ content rest, content.length < sizeLimit ∧ bs = write tag content ++ rest ∧ Understood (f (content, rest)) := by
  constructor
  · intro h
    rcases readLimited_cases htag bs with ⟨content, rest, hfits, hbs, hread⟩ | ⟨-, hread⟩
    · rw [hread] at h
      exact ⟨content, rest, hfits, hbs, h⟩
    · rw [hread] at h
      exact absurd rfl h
  · rintro ⟨content, rest, hfits, rfl, h⟩
    rw [readLimited_write htag hfits]
    exact h

theorem understood_readWhole (htag : tag.toNat % 32 ≠ 31) (bs : Bytes) (f : Bytes → Except LeafFault α) :
    Understood (readWhole tag bs >>= f) ↔
      ∃ content, content.length < sizeLimit ∧ bs = write tag content ∧ Understood (f content) := by
  rw [readWhole, bind_assoc, understood_readLimited htag]
  constructor
  · rintro ⟨content, rest, hfits, hbs, h⟩
    cases rest with
    | nil => exact ⟨content, hfits, hbs.trans (List.append_nil _), h⟩
    | cons b rest => exact absurd rfl h
  · rintro ⟨content, hfits, hbs, h⟩
    exact ⟨content, [], hfits, hbs.trans (List.append_nil _).symm, h⟩

theorem understood_wholeBits (bs : Bytes) (f : Bytes → Except LeafFault α) :
    Understood (wholeBits bs >>= f) ↔
      ∃ bits, bits.length + 1 < sizeLimit ∧ bs = writeBits bits ∧ Understood (f bits) := by
  rw [wholeBits, bind_assoc, understood_readWhole bitStringTag_short]
  constructor
  · rintro ⟨content, hfits, hbs, h⟩
    match content with
    | [] => exact absurd rfl h
    | b :: bits =>
        by_cases hb : b = 0
        · subst hb
          exact ⟨bits, hfits, hbs, h⟩
        · exact absurd (by split <;> first | rfl | simp_all) h
  · rintro ⟨bits, hfits, hbs, h⟩
    exact ⟨0 :: bits, hfits, hbs, h⟩

inductive OtherVersion (bs : Bytes) : Prop where
  | absent (h : ∀ content rest, content.length < sizeLimit → bs ≠ write (contextTag 0) content ++ rest) :
      OtherVersion bs
  | other (n : Nat) (more rest : Bytes) (hn : n < 256) (hother : ¬(n = 2 ∧ more = []))
      (hfits : (writeNatural n ++ more).length < sizeLimit)
      (hbs : bs = write (contextTag 0) (writeNatural n ++ more) ++ rest) : OtherVersion bs

theorem readNatural_small {n : Nat} (hn : n < 256) (more : Bytes) :
    readNatural (writeNatural n ++ more) = some (n, more) :=
  readNatural_writeNatural
    (Nat.lt_of_le_of_lt (Nat.succ_le_succ (Bytes.widthOf_le (show n < 256 ^ 1 from hn))) (by decide)) more

theorem understood_readVersion (bs : Bytes) (f : Bytes → Except LeafFault α) :
    Understood (readVersion bs >>= f) ↔
      OtherVersion bs ∨ ∃ rest, bs = write (contextTag 0) (writeNatural 2) ++ rest ∧ Understood (f rest) := by
  have htag : (contextTag 0).toNat % 32 ≠ 31 := by decide
  have htwo : (writeNatural 2).length < sizeLimit := by decide
  rcases readLimited_cases htag bs with ⟨content, rest, hfits, hbs, hread⟩ | ⟨habsent, hread⟩
  · -- The element is there, so what is in it decides.
    have hother : OtherVersion bs ↔ ∃ n more, content = writeNatural n ++ more ∧ n < 256 ∧ ¬(n = 2 ∧ more = []) := by
      constructor
      · intro h
        cases h with
        | absent h => exact absurd hbs (h content rest hfits)
        | other n more rest' hn hother hfits' hbs' =>
            exact ⟨n, more, (write_inj htag hfits hfits' (hbs.symm.trans hbs')).1, hn, hother⟩
      · rintro ⟨n, more, rfl, hn, hother⟩
        exact .other n more rest hn hother hfits hbs
    have hthird : (∃ rest', bs = write (contextTag 0) (writeNatural 2) ++ rest' ∧ Understood (f rest')) ↔
        content = writeNatural 2 ∧ Understood (f rest) := by
      constructor
      · rintro ⟨rest', hbs', h⟩
        obtain ⟨hcontent, rfl⟩ := write_inj htag hfits htwo (hbs.symm.trans hbs')
        exact ⟨hcontent, h⟩
      · rintro ⟨rfl, h⟩
        exact ⟨rest, hbs, h⟩
    rw [hother, hthird, readVersion, hread]
    dsimp only
    cases hnatural : readNatural content with
    | none =>
        refine ⟨fun h => absurd rfl h, ?_⟩
        rintro (⟨n, more, rfl, hn, -⟩ | ⟨rfl, -⟩)
        · cases hnatural.symm.trans (readNatural_small hn more)
        · cases hnatural
    | some found =>
        obtain ⟨n, more⟩ := found
        have hcontent := readNatural_eq_some hnatural
        have hunique {m : Nat} {more' : Bytes} (hm : m < 256) (h : content = writeNatural m ++ more') :
            m = n ∧ more' = more := by
          rw [h, readNatural_small hm] at hnatural
          exact Prod.mk.inj (Option.some.inj hnatural)
        dsimp only
        by_cases hn : n < 256
        · rw [if_neg (Nat.not_le.2 hn)]
          by_cases hplain : n = 2 ∧ more.isEmpty = true
          · rw [if_pos hplain]
            obtain ⟨rfl, hempty⟩ := hplain
            have hmore := List.isEmpty_iff.1 hempty
            constructor
            · intro h
              exact .inr ⟨by rw [hcontent, hmore, List.append_nil], h⟩
            · rintro (⟨m, more', hm', hm, hother⟩ | ⟨-, h⟩)
              · obtain ⟨rfl, rfl⟩ := hunique hm hm'
                exact absurd ⟨rfl, hmore⟩ hother
              · exact h
          · rw [if_neg hplain]
            refine ⟨fun _ => .inl ⟨n, more, hcontent, hn, ?_⟩, fun _ => nofun⟩
            rwa [← List.isEmpty_iff]
        · rw [if_pos (Nat.not_lt.1 hn)]
          refine ⟨fun h => absurd rfl h, ?_⟩
          rintro (⟨m, more', hm', hm, -⟩ | ⟨htwo', -⟩)
          · exact absurd ((hunique hm hm').1 ▸ hm) hn
          · exact absurd ((hunique (by decide) (htwo'.trans (List.append_nil _).symm)).1 ▸ by decide) hn
  · rw [readVersion, hread]
    exact ⟨fun _ => .inl (.absent habsent), fun _ => nofun⟩

structure Extension where
  id : Bytes
  critical : Option Bool
  value : Bytes
  id_fits : id.length < sizeLimit
  value_fits : value.length < sizeLimit

namespace Extension

def flag (b : Bool) : Bytes :=
  write booleanTag [if b then 0xFF else 0x00]

def encode (e : Extension) : Bytes :=
  write objectIdTag e.id ++ ((e.critical.elim [] flag) ++ write octetStringTag e.value)

/-- What becomes of an extension after those seen: it is taken, and remembered or not, or it is refused. -/
inductive Judged (e : Extension) (seen : List UInt8) : Option (List UInt8) → Prop where
  | passed (h : rememberedNumber? e.id = none) (hcritical : e.critical ≠ some true) : Judged e seen (some seen)
  | critical (h : rememberedNumber? e.id = none) (hcritical : e.critical = some true) : Judged e seen none
  | repeated (n : UInt8) (h : rememberedNumber? e.id = some n) (hseen : n ∈ seen) : Judged e seen none
  | remembered (n : UInt8) (h : rememberedNumber? e.id = some n) (hseen : n ∉ seen)
      (hvalue : n = 15 ∨ ∃ inner, inner.length < sizeLimit ∧ e.value = write sequenceTag inner) :
      Judged e seen (some (n :: seen))

end Extension

theorem understood_readFlag (bs : Bytes) (f : Bool × Bytes → Except LeafFault α) :
    Understood (readFlag bs >>= f) ↔
      bs.head? ≠ some booleanTag ∧ Understood (f (false, bs)) ∨
        ∃ b rest, bs = Extension.flag b ++ rest ∧ Understood (f (b, rest)) := by
  rw [readFlag]
  by_cases hhead : bs.head? = some booleanTag
  · rw [if_pos hhead, bind_assoc, understood_readLimited (by decide)]
    constructor
    · rintro ⟨content, rest, -, hbs, h⟩
      by_cases htrue : content = [0xFF]
      · subst htrue
        exact .inr ⟨true, rest, hbs, h⟩
      · by_cases hfalse : content = [0x00]
        · subst hfalse
          exact .inr ⟨false, rest, hbs, h⟩
        · dsimp only at h
          split at h
          · exact absurd rfl htrue
          · exact absurd rfl hfalse
          · exact absurd rfl h
    · rintro (⟨hne, -⟩ | ⟨b, rest, hbs, h⟩)
      · exact absurd hhead hne
      · cases b with
        | true => exact ⟨[0xFF], rest, by decide, hbs, h⟩
        | false => exact ⟨[0x00], rest, by decide, hbs, h⟩
  · rw [if_neg hhead]
    constructor
    · exact fun h => .inl ⟨hhead, h⟩
    · rintro (⟨-, h⟩ | ⟨b, rest, rfl, -⟩)
      · exact h
      · exact absurd rfl hhead

theorem understood_judge (e : Extension) (seen : List UInt8) (f : List UInt8 → Except LeafFault α) :
    Understood (judge seen e.id (e.critical = some true) e.value >>= f) ↔
      ∃ judged, e.Judged seen judged ∧ ∀ seen' ∈ judged, Understood (f seen') := by
  rw [judge]
  cases hnumber : rememberedNumber? e.id with
  | none =>
      by_cases hcritical : e.critical = some true
      · rw [decide_eq_true hcritical]
        exact ⟨fun _ => ⟨none, .critical hnumber hcritical, nofun⟩, fun _ => nofun⟩
      · rw [decide_eq_false hcritical]
        constructor
        · intro h
          exact ⟨some seen, .passed hnumber hcritical, fun seen' hseen' => Option.some.inj hseen' ▸ h⟩
        · rintro ⟨judged, hjudged, h⟩
          cases hjudged with
          | passed => exact h seen rfl
          | critical _ hc => exact absurd hc hcritical
          | repeated n hn => cases hnumber.symm.trans hn
          | remembered n hn => cases hnumber.symm.trans hn
  | some n =>
      dsimp only
      by_cases hseen : n ∈ seen
      · rw [if_pos (List.contains_iff_mem.2 hseen)]
        exact ⟨fun _ => ⟨none, .repeated n hnumber hseen, nofun⟩, fun _ => nofun⟩
      · rw [if_neg fun hcontains => hseen (List.contains_iff_mem.1 hcontains)]
        have hjudged {judged : Option (List UInt8)} (h : e.Judged seen judged) : judged = some (n :: seen) ∧
            (n = 15 ∨ ∃ inner, inner.length < sizeLimit ∧ e.value = write sequenceTag inner) := by
          cases h with
          | passed hn | critical hn => cases hnumber.symm.trans hn
          | repeated m hm hm' =>
              cases hnumber.symm.trans hm
              exact absurd hm' hseen
          | remembered m hm _ hvalue =>
              cases hnumber.symm.trans hm
              exact ⟨rfl, hvalue⟩
        by_cases hfifteen : n = 15
        · rw [if_pos hfifteen]
          constructor
          · intro h
            refine ⟨_, .remembered n hnumber hseen (.inl hfifteen), fun seen' hseen' => ?_⟩
            exact Option.some.inj hseen' ▸ h
          · rintro ⟨judged, hj, h⟩
            obtain ⟨rfl, -⟩ := hjudged hj
            exact h _ rfl
        · rw [if_neg hfifteen, bind_assoc, understood_readWhole sequenceTag_short]
          constructor
          · rintro ⟨inner, hfits, hvalue, h⟩
            refine ⟨_, .remembered n hnumber hseen (.inr ⟨inner, hfits, hvalue⟩), fun seen' hseen' => ?_⟩
            exact Option.some.inj hseen' ▸ h
          · rintro ⟨judged, hj, h⟩
            obtain ⟨rfl, hvalue⟩ := hjudged hj
            obtain ⟨inner, hfits, hvalue⟩ := hvalue.resolve_left hfifteen
            exact ⟨inner, hfits, hvalue, h _ rfl⟩

theorem understood_readExtension (seen : List UInt8) (content : Bytes) (f : List UInt8 → Except LeafFault α) :
    Understood (readExtension seen content >>= f) ↔
      ∃ (e : Extension) (judged : Option (List UInt8)), content = e.encode ∧ e.Judged seen judged ∧
        ∀ seen' ∈ judged, Understood (f seen') := by
  rw [readExtension, bind_assoc, understood_readLimited (by decide)]
  constructor
  · rintro ⟨id, rest, hid, rfl, h⟩
    dsimp only at h
    rw [bind_assoc, understood_readFlag] at h
    obtain ⟨critical, value, hvalue, rfl, hjudge⟩ : ∃ (critical : Option Bool) (value : Bytes),
        value.length < sizeLimit ∧ rest = (critical.elim [] Extension.flag) ++ write octetStringTag value ∧
        Understood (judge seen id (critical = some true) value >>= f) := by
      rcases h with ⟨-, h⟩ | ⟨b, rest, rfl, h⟩
      · dsimp only at h
        rw [bind_assoc, understood_readWhole (by decide)] at h
        obtain ⟨value, hvalue, hrest, h⟩ := h
        exact ⟨none, value, hvalue, hrest, h⟩
      · dsimp only at h
        rw [bind_assoc, understood_readWhole (by decide)] at h
        obtain ⟨value, hvalue, rfl, h⟩ := h
        exact ⟨some b, value, hvalue, rfl, by simpa using h⟩
    obtain ⟨judged, hjudged, hrest⟩ := (understood_judge ⟨id, critical, value, hid, hvalue⟩ seen f).1 hjudge
    exact ⟨⟨id, critical, value, hid, hvalue⟩, judged, rfl, hjudged, hrest⟩
  · rintro ⟨e, judged, rfl, hjudged, h⟩
    have hjudge := (understood_judge e seen f).2 ⟨judged, hjudged, h⟩
    refine ⟨e.id, _, e.id_fits, rfl, ?_⟩
    dsimp only
    rw [bind_assoc, understood_readFlag]
    cases hcritical : e.critical with
    | none =>
        refine .inl ⟨fun hhead => absurd (Option.some.inj hhead) (by decide), ?_⟩
        dsimp only
        rw [bind_assoc, understood_readWhole (by decide)]
        exact ⟨e.value, e.value_fits, rfl, by simpa [hcritical] using hjudge⟩
    | some b =>
        refine .inr ⟨b, _, rfl, ?_⟩
        dsimp only
        rw [bind_assoc, understood_readWhole (by decide)]
        exact ⟨e.value, e.value_fits, rfl, by simpa [hcritical] using hjudge⟩

/-- Extensions one after another, and whether all of them are taken; what comes after one that is refused is
not looked at. -/
inductive ExtensionsForm : List UInt8 → Bytes → Bool → Prop where
  | done (seen : List UInt8) : ExtensionsForm seen [] true
  | refused {seen : List UInt8} (e : Extension) (hfits : e.encode.length < sizeLimit) (h : e.Judged seen none)
      (rest : Bytes) : ExtensionsForm seen (write sequenceTag e.encode ++ rest) false
  | next {seen seen' : List UInt8} {rest : Bytes} {taken : Bool} (e : Extension) (hfits : e.encode.length < sizeLimit)
      (h : e.Judged seen (some seen')) (hrest : ExtensionsForm seen' rest taken) :
      ExtensionsForm seen (write sequenceTag e.encode ++ rest) taken

theorem write_ne_nil (tag : UInt8) (content rest : Bytes) : write tag content ++ rest ≠ [] := by
  rw [write]
  exact List.cons_ne_nil _ _

theorem understood_readExtensions {fuel : Nat} {bs : Bytes} (hfuel : bs.length ≤ fuel) (seen : List UInt8)
    (f : Unit → Except LeafFault α) :
    Understood (readExtensions fuel seen bs >>= f) ↔
      ∃ taken, ExtensionsForm seen bs taken ∧ (taken = true → Understood (f ())) := by
  have hdone (seen : List UInt8) : Understood (f ()) ↔
      ∃ taken, ExtensionsForm seen [] taken ∧ (taken = true → Understood (f ())) := by
    constructor
    · exact fun h => ⟨true, .done seen, fun _ => h⟩
    · rintro ⟨taken, hform, h⟩
      generalize hbs : ([] : Bytes) = bs at hform
      cases hform with
      | done => exact h rfl
      | refused e _ _ rest => exact absurd hbs.symm (write_ne_nil _ _ _)
      | next e => exact absurd hbs.symm (write_ne_nil _ _ _)
  -- An extension has at least one byte, so there is always fuel for the bytes that are left.
  induction fuel generalizing seen bs with
  | zero =>
      cases List.length_eq_zero_iff.1 (Nat.le_zero.1 hfuel)
      exact hdone seen
  | succ fuel ih =>
      by_cases hempty : bs = []
      · subst hempty
        exact hdone seen
      · have hshorter {content rest : Bytes} (hbs : bs = write sequenceTag content ++ rest) : rest.length ≤ fuel := by
          rw [hbs, write, List.length_append, List.length_append, List.length_cons] at hfuel
          omega
        rw [readExtensions, if_neg (by simpa using hempty), bind_assoc, understood_readLimited sequenceTag_short]
        constructor
        · rintro ⟨content, rest, hfits, hbs, h⟩
          dsimp only at h
          rw [bind_assoc, understood_readExtension] at h
          obtain ⟨e, judged, rfl, hjudged, h⟩ := h
          rw [hbs]
          cases judged with
          | none => exact ⟨false, .refused e hfits hjudged rest, fun h => absurd h Bool.false_ne_true⟩
          | some seen' =>
              obtain ⟨taken, hform, htaken⟩ := (ih (hshorter hbs) seen').1 (h seen' rfl)
              exact ⟨taken, .next e hfits hjudged hform, htaken⟩
        · rintro ⟨taken, hform, h⟩
          cases hform with
          | done => exact absurd rfl hempty
          | refused e hfits hjudged rest =>
              refine ⟨e.encode, rest, hfits, rfl, ?_⟩
              dsimp only
              rw [bind_assoc, understood_readExtension]
              exact ⟨e, none, rfl, hjudged, fun _ h => absurd h (Option.some_ne_none _).symm⟩
          | next e hfits hjudged hform =>
              refine ⟨e.encode, _, hfits, rfl, ?_⟩
              dsimp only
              rw [bind_assoc, understood_readExtension]
              refine ⟨e, _, rfl, hjudged, fun seen' hseen' => ?_⟩
              cases hseen'
              exact (ih (hshorter rfl) _).2 ⟨taken, hform, h⟩

/-- The parts of a body in front of its key, from the third version's mark to the name of its subject. -/
structure Head where
  serial : Bytes
  issuer : Bytes
  validity : Bytes
  subject : Bytes
  serial_fits : serial.length < sizeLimit
  issuer_fits : issuer.length < sizeLimit
  validity_fits : validity.length < sizeLimit
  subject_fits : subject.length < sizeLimit

def Head.encode (h : Head) (algorithm : Bytes) : Bytes :=
  write (contextTag 0) (writeNatural 2) ++ (write integerTag h.serial ++ (write sequenceTag algorithm ++
    (write sequenceTag h.issuer ++ (write sequenceTag h.validity ++ write sequenceTag h.subject))))

inductive BodyForm (algorithm : Bytes) : Bytes → Option Bytes → Prop where
  | otherVersion {body : Bytes} (h : OtherVersion body) : BodyForm algorithm body none
  | otherAlgorithm (serial named rest : Bytes) (hserial : serial.length < sizeLimit) (hfits : named.length < sizeLimit)
      (hnamed : named ≠ algorithm) :
      BodyForm algorithm (write (contextTag 0) (writeNatural 2) ++ (write integerTag serial ++
        (write sequenceTag named ++ rest))) none
  | plain (head : Head) (keyInfo : Bytes) (hkey : keyInfo.length < sizeLimit) :
      BodyForm algorithm (head.encode algorithm ++ write sequenceTag keyInfo) (some keyInfo)
  | extended (head : Head) (keyInfo extensions : Bytes) (taken : Bool) (hkey : keyInfo.length < sizeLimit)
      (hfits : (write sequenceTag extensions).length < sizeLimit) (hform : ExtensionsForm [] extensions taken) :
      BodyForm algorithm
        (head.encode algorithm ++ (write sequenceTag keyInfo ++ write (contextTag 3) (write sequenceTag extensions)))
        (if taken then some keyInfo else none)

theorem Head.encode_append (h : Head) (algorithm rest : Bytes) : h.encode algorithm ++ rest =
    write (contextTag 0) (writeNatural 2) ++ (write integerTag h.serial ++ (write sequenceTag algorithm ++
      (write sequenceTag h.issuer ++ (write sequenceTag h.validity ++ (write sequenceTag h.subject ++ rest))))) := by
  simp only [Head.encode, List.append_assoc]

theorem understood_readEnd (leaf : Leaf) (rest : Bytes) (f : Leaf → Except LeafFault α) :
    Understood ((if rest.isEmpty = true then Except.ok leaf else do
        let wrapped ← readWhole (contextTag 3) rest
        let extensions ← readWhole sequenceTag wrapped
        readExtensions extensions.length [] extensions
        .ok leaf) >>= f) ↔
      rest = [] ∧ Understood (f leaf) ∨
        ∃ extensions taken, (write sequenceTag extensions).length < sizeLimit ∧
          rest = write (contextTag 3) (write sequenceTag extensions) ∧ ExtensionsForm [] extensions taken ∧
          (taken = true → Understood (f leaf)) := by
  by_cases hempty : rest = []
  · subst hempty
    refine ⟨fun h => .inl ⟨rfl, h⟩, ?_⟩
    rintro (⟨-, h⟩ | ⟨extensions, taken, -, hrest, -⟩)
    · exact h
    · cases hrest
  · rw [if_neg (by simpa using hempty)]
    simp only [bind_assoc, understood_readWhole (by decide : (contextTag 3).toNat % 32 ≠ 31),
      understood_readWhole sequenceTag_short, understood_readExtensions (Nat.le_refl _)]
    constructor
    · rintro ⟨wrapped, hwrapped, hrest, extensions, -, rfl, taken, hform, h⟩
      exact .inr ⟨extensions, taken, hwrapped, hrest, hform, h⟩
    · rintro (⟨hnil, -⟩ | ⟨extensions, taken, hfits, hrest, hform, h⟩)
      · exact absurd hnil hempty
      · have hinner : extensions.length < sizeLimit := by
          rw [write, List.length_append] at hfits
          omega
        exact ⟨_, hfits, hrest, extensions, hinner, rfl, taken, hform, h⟩

theorem understood_readHead {algorithm : Bytes} (halgorithm : algorithm.length < sizeLimit) (body : Bytes)
    (f : Leaf → Except LeafFault α) :
    Understood (readBody algorithm body >>= f) ↔
      OtherVersion body ∨
      (∃ serial named rest, serial.length < sizeLimit ∧ named.length < sizeLimit ∧ named ≠ algorithm ∧
        body = write (contextTag 0) (writeNatural 2) ++
          (write integerTag serial ++ (write sequenceTag named ++ rest))) ∨
      ∃ (head : Head) (keyInfo rest : Bytes), keyInfo.length < sizeLimit ∧
        body = head.encode algorithm ++ (write sequenceTag keyInfo ++ rest) ∧
        (rest = [] ∧ Understood (f ⟨keyInfo⟩) ∨
          ∃ extensions taken, (write sequenceTag extensions).length < sizeLimit ∧
            rest = write (contextTag 3) (write sequenceTag extensions) ∧ ExtensionsForm [] extensions taken ∧
            (taken = true → Understood (f ⟨keyInfo⟩))) := by
  rw [readBody, bind_assoc, understood_readVersion]
  refine or_congr_right ?_
  simp only [bind_assoc, understood_readLimited integerTag_short, understood_readLimited sequenceTag_short]
  constructor
  · rintro ⟨rest, rfl, serial, rest, hserial, rfl, named, rest, hnamed, rfl, h⟩
    by_cases hsame : named = algorithm
    · subst hsame
      rw [if_neg (not_not_intro rfl)] at h
      simp only [bind_assoc, understood_readLimited sequenceTag_short, understood_readEnd] at h
      obtain ⟨issuer, rest, hissuer, rfl, validity, rest, hvalidity, rfl, subject, rest, hsubject, rfl, keyInfo, rest,
        hkey, rfl, h⟩ := h
      let head : Head := ⟨serial, issuer, validity, subject, hserial, hissuer, hvalidity, hsubject⟩
      exact .inr ⟨head, keyInfo, rest, hkey, (head.encode_append named _).symm, h⟩
    · exact .inl ⟨serial, named, rest, hserial, hnamed, hsame, rfl⟩
  · rintro (⟨serial, named, rest, hserial, hfits, hnamed, rfl⟩ | ⟨head, keyInfo, rest, hkey, rfl, h⟩)
    · refine ⟨_, rfl, serial, _, hserial, rfl, named, rest, hfits, rfl, ?_⟩
      rw [if_pos hnamed]
      nofun
    · rw [head.encode_append]
      refine ⟨_, rfl, head.serial, _, head.serial_fits, rfl, algorithm, _, halgorithm, rfl, ?_⟩
      rw [if_neg (not_not_intro rfl)]
      simp only [bind_assoc, understood_readLimited sequenceTag_short, understood_readEnd]
      exact ⟨head.issuer, _, head.issuer_fits, rfl, head.validity, _, head.validity_fits, rfl, head.subject, _,
        head.subject_fits, rfl, keyInfo, rest, hkey, rfl, h⟩

theorem understood_readBody {algorithm : Bytes} (halgorithm : algorithm.length < sizeLimit) (body : Bytes)
    (f : Leaf → Except LeafFault α) :
    Understood (readBody algorithm body >>= f) ↔
      ∃ key, BodyForm algorithm body key ∧ ∀ keyInfo ∈ key, Understood (f ⟨keyInfo⟩) := by
  rw [understood_readHead halgorithm]
  constructor
  · rintro (hother | ⟨serial, named, rest, hserial, hfits, hnamed, rfl⟩ | ⟨head, keyInfo, rest, hkey, rfl, h⟩)
    · exact ⟨none, .otherVersion hother, nofun⟩
    · exact ⟨none, .otherAlgorithm serial named rest hserial hfits hnamed, nofun⟩
    · rcases h with ⟨rfl, h⟩ | ⟨extensions, taken, hfits, rfl, hform, h⟩
      · rw [List.append_nil]
        exact ⟨some keyInfo, .plain head keyInfo hkey, fun _ heq => Option.some.inj heq ▸ h⟩
      · refine ⟨_, .extended head keyInfo extensions taken hkey hfits hform, ?_⟩
        cases taken with
        | true => exact fun _ heq => Option.some.inj heq ▸ h rfl
        | false => nofun
  · rintro ⟨key, hform, h⟩
    cases hform with
    | otherVersion hother => exact .inl hother
    | otherAlgorithm serial named rest hserial hfits hnamed =>
        exact .inr (.inl ⟨serial, named, rest, hserial, hfits, hnamed, rfl⟩)
    | plain head keyInfo hkey =>
        refine .inr (.inr ⟨head, keyInfo, [], hkey, ?_, .inl ⟨rfl, h keyInfo rfl⟩⟩)
        rw [List.append_nil]
    | extended head keyInfo extensions taken hkey hfits hform =>
        refine .inr (.inr ⟨head, keyInfo, _, hkey, rfl, .inr ⟨extensions, taken, hfits, rfl, hform, ?_⟩⟩)
        rintro rfl
        exact h keyInfo rfl

def KeyForm (keyInfo : Bytes) : Prop :=
  ∃ algorithm key : Bytes, algorithm.length < sizeLimit ∧ key.length + 1 < sizeLimit ∧
    keyInfo = write sequenceTag algorithm ++ writeBits key

theorem understood_keyParts (keyInfo : Bytes) : Understood (keyParts ⟨keyInfo⟩) ↔ KeyForm keyInfo := by
  rw [keyParts, understood_readLimited sequenceTag_short]
  simp only [understood_wholeBits]
  constructor
  · rintro ⟨algorithm, rest, halgorithm, hinfo, key, hkey, rfl, -⟩
    exact ⟨algorithm, key, halgorithm, hkey, hinfo⟩
  · rintro ⟨algorithm, key, halgorithm, hkey, hinfo⟩
    exact ⟨algorithm, _, halgorithm, hinfo, key, hkey, rfl, nofun⟩

/-- A certificate that is understood: a body, the algorithm of its signature and the signature, and nothing else. -/
def Form (der : Bytes) : Prop :=
  ∃ body algorithm signature key,
    der = writeSequence [write sequenceTag body, write sequenceTag algorithm, writeBits signature] ∧
    [write sequenceTag body, write sequenceTag algorithm, writeBits signature].flatten.length < sizeLimit ∧
    BodyForm algorithm body key ∧ ∀ keyInfo ∈ key, KeyForm keyInfo

theorem understood_iff (der : Bytes) : Understood (ofDer der >>= keyParts) ↔ Form der := by
  have hflatten (body algorithm signature : Bytes) :
      [write sequenceTag body, write sequenceTag algorithm, writeBits signature].flatten =
        write sequenceTag body ++ (write sequenceTag algorithm ++ writeBits signature) := by
    simp
  have hlength (tag : UInt8) (content : Bytes) : content.length < (write tag content).length := by
    rw [write, List.length_append, List.length_cons]
    omega
  rw [ofDer, bind_assoc, understood_readWhole sequenceTag_short]
  simp only [bind_assoc, understood_readLimited sequenceTag_short, understood_wholeBits]
  constructor
  · rintro ⟨outer, houter, rfl, body, rest, hbody, rfl, algorithm, rest, halgorithm, rfl, signature, -, rfl, h⟩
    obtain ⟨key, hform, hkey⟩ := (understood_readBody halgorithm body keyParts).1 h
    rw [← hflatten] at houter ⊢
    exact ⟨body, algorithm, signature, key, rfl, houter, hform,
      fun keyInfo hinfo => (understood_keyParts keyInfo).1 (hkey keyInfo hinfo)⟩
  · rintro ⟨body, algorithm, signature, key, rfl, houter, hform, hkey⟩
    have hbody := hlength sequenceTag body
    have halgorithm := hlength sequenceTag algorithm
    have hsignature : (0 :: signature).length < (writeBits signature).length := hlength bitStringTag (0 :: signature)
    rw [writeSequence, hflatten]
    rw [hflatten] at houter
    simp only [List.length_append, List.length_cons] at houter hsignature
    refine ⟨_, by simpa only [List.length_append] using houter, rfl, body, _, by omega, rfl, algorithm, _, by omega,
      rfl, signature, by omega, rfl, ?_⟩
    exact (understood_readBody (by omega) body keyParts).2
      ⟨key, hform, fun keyInfo hinfo => (understood_keyParts keyInfo).2 (hkey keyInfo hinfo)⟩

end PairedTls.Leaf
