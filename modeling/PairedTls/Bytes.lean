namespace PairedTls

abbrev Bytes := List UInt8

namespace Bytes

def toNat (b : Bytes) : Nat :=
  b.foldl (fun n x => n * 256 + x.toNat) 0

def ofNat : Nat → Nat → Bytes
  | 0, _ => []
  | width + 1, n => UInt8.ofNat (n / Nat.pow 256 width) :: ofNat width n

/-- How many bytes the shortest spelling of `n` has; zero has none. -/
def widthOf (n : Nat) : Nat :=
  if n = 0 then 0 else n.log2 / 8 + 1

def minimal (n : Nat) : Bytes :=
  ofNat (widthOf n) n

def significant (b : Bytes) : Bytes :=
  b.dropWhile (· == 0)

def ofString (s : String) : Bytes :=
  s.toList.flatMap String.utf8EncodeChar

theorem length_ofNat (width n : Nat) : (ofNat width n).length = width := by
  induction width with
  | zero => rfl
  | succ w ih => simp [ofNat, ih]

theorem front_unique {b : UInt8} {x y rest rest' : Bytes} (hx : b ∉ x) (hy : b ∉ y)
    (h : x ++ b :: rest = y ++ b :: rest') : x = y := by
  have htake (front back : Bytes) (hfront : b ∉ front) : (front ++ b :: back).takeWhile (· != b) = front := by
    rw [List.takeWhile_append_of_pos, List.takeWhile_cons_of_neg (by simp), List.append_nil]
    exact fun c hc => bne_iff_ne.2 fun heq => hfront (heq ▸ hc)
  rw [← htake x rest hx, h, htake y rest' hy]

end Bytes
end PairedTls
