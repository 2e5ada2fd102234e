import PairedTls.Proofs.PemBlock

namespace PairedTls.Pem

/-- A text cut into lines: all are full but the last one, which may be shorter and is not empty. -/
structure Wrapped (width : Nat) (text : Bytes) (ls : List Bytes) : Prop where
  joined : ls.flatten = text
  full : ∀ l ∈ ls.dropLast, l.length = width
  last : ∀ l, ls.getLast? = some l → 0 < l.length ∧ l.length ≤ width

theorem Wrapped.nil (width : Nat) : Wrapped width [] [] :=
  ⟨rfl, by simp, by simp⟩

theorem Wrapped.single {width : Nat} {line : Bytes} (hpos : 0 < line.length) (hle : line.length ≤ width) :
    Wrapped width line [line] := by
  refine ⟨by simp, by simp, ?_⟩
  rintro l hl
  obtain rfl := Option.some.inj hl
  exact ⟨hpos, hle⟩

theorem Wrapped.cons {width : Nat} {line text l : Bytes} {ls : List Bytes} (hline : line.length = width)
    (h : Wrapped width text (l :: ls)) : Wrapped width (line ++ text) (line :: l :: ls) := by
  refine ⟨?_, ?_, ?_⟩
  · rw [List.flatten_cons, h.joined]
  · rw [List.dropLast_cons_cons]
    exact List.forall_mem_cons.2 ⟨hline, h.full⟩
  · rw [List.getLast?_cons_cons]
    exact h.last

theorem wrapped_chunks (n : Nat) (text : Bytes) : Wrapped (n + 1) text (chunks n text) := by
  fun_induction chunks n text with
  | case1 => exact .nil _
  | case2 x rest ih =>
      have hsplit : x :: rest.take n ++ rest.drop n = x :: rest := by simp
      cases hmore : rest.drop n with
      | nil =>
          have hshort := List.drop_eq_nil_iff.1 hmore
          rw [hmore] at hsplit
          rw [← hsplit, List.append_nil, chunks]
          exact .single (by simp) (by simp)
      | cons y more =>
          -- A further line is there only because this one is full.
          have hlong : n < rest.length := by
            by_contra hle
            rw [List.drop_eq_nil_of_le (Nat.not_lt.1 hle)] at hmore
            cases hmore
          rw [hmore] at ih hsplit
          rw [← hsplit]
          rw [chunks] at ih ⊢
          exact .cons (by simp [Nat.min_eq_left hlong.le]) ih

theorem block_lines (label der : Bytes) :
    ∃ ls, Wrapped 64 (Base64.encode der) ls ∧
      block label der = Bytes.ofString "-----BEGIN " ++ label ++ Bytes.ofString "-----\n" ++
        ls.flatMap (· ++ [newline]) ++ Bytes.ofString "-----END " ++ label ++ Bytes.ofString "-----\n" := by
  have hended : Bytes.ofString "-----\n" = dashes ++ [newline] := rfl
  refine ⟨bodyLines der, wrapped_chunks 63 _, ?_⟩
  simp [block, blockLines, beginLine, endLine, beginMark, endMark, hended]

namespace Buffer

variable {b : Buffer}

inductive Call where
  | write (label der : Bytes)
  | read (n : Nat)
  deriving DecidableEq, Repr

def serve (b : Buffer) : Call → Bytes × Buffer
  | .write label der => ([], b.writeBlock label der)
  | .read n => b.read n

def Call.written : Call → Bytes
  | .write label der => block label der
  | .read _ => []

theorem serve_conserves (b : Buffer) (call : Call) :
    (b.serve call).1 ++ (b.serve call).2.bytes = b.bytes ++ call.written := by
  cases call with
  | write label der => rfl
  | read n => simp [serve, read, Call.written]

theorem length_read (b : Buffer) (n : Nat) : (b.read n).1.length = min n b.pending :=
  List.length_take

theorem read_pending (b : Buffer) : b.read b.pending = (b.bytes, empty) := by
  simp [read, pending, empty]

def run (b : Buffer) : List Call → List Bytes × Buffer
  | [] => ([], b)
  | call :: calls =>
    let (out, left) := b.serve call
    let (outs, last) := left.run calls
    (out :: outs, last)

theorem run_conserves (b : Buffer) (calls : List Call) :
    (b.run calls).1.flatten ++ (b.run calls).2.bytes = b.bytes ++ calls.flatMap Call.written := by
  induction calls generalizing b with
  | nil => simp [run]
  | cons call calls ih =>
      have hrest := ih (b.serve call).2
      simp only [run, List.flatten_cons, List.flatMap_cons, List.append_assoc]
      rw [hrest, ← List.append_assoc, serve_conserves, List.append_assoc]

/-- After any calls on a buffer that was empty: what has been read, then what is pending, is the text of all blocks that
were written; `pending` counts what has not been read; and the next call that reads gets what it asks for or all that
there is. Each block consists of its first line, its bytes in padded base64 on lines of 64, and its last line. -/
theorem blocks_conserved (calls : List Call) :
    let pieces := (empty.run calls).1
    let b := (empty.run calls).2
    pieces.flatten ++ b.bytes = calls.flatMap Call.written ∧ b.read b.pending = (b.bytes, empty) ∧
      pieces.flatten.length + b.pending = (calls.flatMap Call.written).length ∧
      (∀ n, (b.read n).1.length = min n b.pending) ∧
      ∀ label der, (Call.write label der).written = block label der ∧
        ∃ ls, Wrapped 64 (Base64.encode der) ls ∧ Base64.decodeExact? ls.flatten = some der ∧
          block label der = Bytes.ofString "-----BEGIN " ++ label ++ Bytes.ofString "-----\n" ++
            ls.flatMap (· ++ [newline]) ++ Bytes.ofString "-----END " ++ label ++ Bytes.ofString "-----\n" := by
  intro pieces b
  have hall : pieces.flatten ++ b.bytes = calls.flatMap Call.written := run_conserves empty calls
  refine ⟨hall, b.read_pending, ?_, b.length_read, ?_⟩
  · rw [← hall, List.length_append]
    rfl
  · intro label der
    obtain ⟨ls, hwrapped, hblock⟩ := block_lines label der
    refine ⟨rfl, ls, hwrapped, ?_, hblock⟩
    rw [hwrapped.joined, Base64.decodeExact?_encode]

end Buffer
end PairedTls.Pem
