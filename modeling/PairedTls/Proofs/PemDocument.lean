import PairedTls.Proofs.Acts
import PairedTls.Proofs.PemSections
import PairedTls.Tls.Settings

namespace PairedTls.Pem

inductive Label where
  | certificate
  | publicKey
  | privateKey
  deriving DecidableEq, Repr

namespace Label

def text : Label → Bytes
  | .certificate => certificateLabel
  | .publicKey => publicKeyLabel
  | .privateKey => privateKeyLabel

def kind : Label → Kind
  | .certificate => .certificate
  | .publicKey => .publicKey
  | .privateKey => .privateKey

theorem text_ok (label : Label) : LabelOk label.text := by
  cases label <;> exact ⟨unbroken_of_all rfl, _, rfl, by decide, by decide⟩

theorem kindOf?_text (label : Label) : kindOf? label.text = some label.kind := by
  cases label <;> rfl

end Label

structure Piece where
  before : Bytes
  label : Label
  der : Bytes

structure Document where
  pieces : List Piece
  after : Bytes

def Plain (text : Bytes) : Prop :=
  ∀ l ∈ lines text, ¬beginMark <+: l

instance (text : Bytes) : Decidable (Plain text) :=
  inferInstanceAs (Decidable (∀ l ∈ lines text, ¬beginMark <+: l))

namespace Document

def pieceText (p : Piece) : Bytes :=
  p.before ++ (Buffer.empty.writeBlock p.label.text p.der).bytes

def text (d : Document) : Bytes :=
  d.pieces.flatMap pieceText ++ d.after

/-- Lines around the blocks are whole, and none of them opens a section. -/
structure WellFormed (d : Document) : Prop where
  closed : ∀ p ∈ d.pieces, Closed p.before
  plain : ∀ p ∈ d.pieces, Plain p.before
  plain_after : Plain d.after

def ders (d : Document) (label : Label) : List Bytes :=
  (d.pieces.filter (·.label = label)).map Piece.der

def items (d : Document) : List (Except Fault (Kind × Bytes)) :=
  d.pieces.map fun p => .ok (p.label.kind, p.der)

theorem items_pieces {f : Bytes → Bytes} {e : Bytes} (hf : View f e) {ps : List Piece}
    (hclosed : ∀ p ∈ ps, Closed p.before) (hplain : ∀ p ∈ ps, Plain p.before) (after : Bytes) :
    Pem.items none ((lines (ps.flatMap pieceText ++ after)).map f) =
      ps.map (fun p => .ok (p.label.kind, p.der)) ++ Pem.items none ((lines after).map f) := by
  induction ps with
  | nil => rfl
  | cons p ps ih =>
      have hblock : (blockLines p.label.text p.der).map (f <| · ++ [newline]) =
          (blockLines p.label.text p.der).map (· ++ e) :=
        List.map_congr_left fun l hl => hf.line l (blockLines_unbroken p.label.text_ok p.der l hl)
      have hbefore : ∀ l ∈ lines p.before, ¬beginMark <+: f l :=
        fun l hl h => hplain p List.mem_cons_self l hl (hf.mark p.before l hl h)
      have hlines : (lines ((p :: ps).flatMap pieceText ++ after)).map f =
          (lines p.before).map f ++ ((blockLines p.label.text p.der).map (· ++ e) ++
            (lines (ps.flatMap pieceText ++ after)).map f) := by
        simp only [List.flatMap_cons, pieceText, Buffer.writeBlock, Buffer.empty, List.nil_append, List.append_assoc]
        rw [lines_append (hclosed p List.mem_cons_self), lines_append (closed_block _ _),
          lines_block p.label.text_ok]
        simp only [List.map_append, List.map_map, Function.comp_def, hblock]
      rw [hlines, items_plainLines hbefore, items_blockLines p.label.text_ok p.label.kindOf?_text hf.ending,
        ih (fun q hq => hclosed q (List.mem_cons_of_mem p hq)) fun q hq => hplain q (List.mem_cons_of_mem p hq)]
      rfl

/-- The blocks and nothing else are what a reader meets, with or without line breaks. -/
theorem items_text {f : Bytes → Bytes} {e : Bytes} (hf : View f e) {d : Document} (hd : d.WellFormed) :
    Pem.items none ((lines d.text).map f) = d.items := by
  have hplain : ∀ l ∈ lines d.after, ¬beginMark <+: f l :=
    fun l hl h => hd.plain_after l hl (hf.mark d.after l hl h)
  have hafter := items_plainLines hplain []
  rw [List.append_nil] at hafter
  rw [text, items_pieces hf hd.closed hd.plain, hafter, Pem.items, List.append_nil, items]

theorem itemsOfFile_text {d : Document} (hd : d.WellFormed) : itemsOfFile d.text = d.items := by
  have h := items_text fileView hd
  rwa [List.map_id] at h

theorem itemsOfText_text {d : Document} (hd : d.WellFormed) : itemsOfText d.text = d.items :=
  items_text textView hd

theorem certificate?_kind (label : Label) (der : Bytes) :
    certificate? label.kind der = if label = .certificate then some der else none := by
  cases label <;> rfl

theorem every_certificate? (d : Document) : every certificate? d.items = .ok (d.ders .certificate) := by
  rcases d with ⟨ps, after⟩
  induction ps with
  | nil => rfl
  | cons p ps ih =>
      simp only [items, ders, List.map_cons, every, certificate?_kind] at ih ⊢
      rw [ih]
      by_cases h : p.label = .certificate <;> simp [h, bind, Except.bind, pure, Except.pure]

theorem first_items {α : Type} {keep : Kind → Bytes → Option α} {label : Label} {make : Bytes → α}
    (hkeep : ∀ l der, keep (Label.kind l) der = if l = label then some (make der) else none) (d : Document) :
    first keep d.items =
      match (d.ders label).head? with
      | some der => .ok (make der)
      | none => .error .nothingFound := by
  rcases d with ⟨ps, after⟩
  induction ps with
  | nil => rfl
  | cons p ps ih =>
      simp only [items, ders, List.map_cons, first, hkeep] at ih ⊢
      by_cases h : p.label = label
      · simp [h]
      · simpa [h] using ih

theorem privateKey?_kind (label : Label) (der : Bytes) :
    TlsSettings.privateKey? label.kind der = if label = .privateKey then some ⟨.pkcs8, der⟩ else none := by
  cases label <;> rfl

end Document
end PairedTls.Pem
