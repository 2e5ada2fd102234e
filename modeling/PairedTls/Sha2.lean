import PairedTls.Bytes

namespace PairedTls.Sha2

/-- The first 64 bits of the fractional parts of the cube roots of the first eighty primes. -/
def cubeRoots : List Nat :=
  [0x428a2f98d728ae22, 0x7137449123ef65cd, 0xb5c0fbcfec4d3b2f, 0xe9b5dba58189dbbc,
   0x3956c25bf348b538, 0x59f111f1b605d019, 0x923f82a4af194f9b, 0xab1c5ed5da6d8118,
   0xd807aa98a3030242, 0x12835b0145706fbe, 0x243185be4ee4b28c, 0x550c7dc3d5ffb4e2,
   0x72be5d74f27b896f, 0x80deb1fe3b1696b1, 0x9bdc06a725c71235, 0xc19bf174cf692694,
   0xe49b69c19ef14ad2, 0xefbe4786384f25e3, 0x0fc19dc68b8cd5b5, 0x240ca1cc77ac9c65,
   0x2de92c6f592b0275, 0x4a7484aa6ea6e483, 0x5cb0a9dcbd41fbd4, 0x76f988da831153b5,
   0x983e5152ee66dfab, 0xa831c66d2db43210, 0xb00327c898fb213f, 0xbf597fc7beef0ee4,
   0xc6e00bf33da88fc2, 0xd5a79147930aa725, 0x06ca6351e003826f, 0x142929670a0e6e70,
   0x27b70a8546d22ffc, 0x2e1b21385c26c926, 0x4d2c6dfc5ac42aed, 0x53380d139d95b3df,
   0x650a73548baf63de, 0x766a0abb3c77b2a8, 0x81c2c92e47edaee6, 0x92722c851482353b,
   0xa2bfe8a14cf10364, 0xa81a664bbc423001, 0xc24b8b70d0f89791, 0xc76c51a30654be30,
   0xd192e819d6ef5218, 0xd69906245565a910, 0xf40e35855771202a, 0x106aa07032bbd1b8,
   0x19a4c116b8d2d0c8, 0x1e376c085141ab53, 0x2748774cdf8eeb99, 0x34b0bcb5e19b48a8,
   0x391c0cb3c5c95a63, 0x4ed8aa4ae3418acb, 0x5b9cca4f7763e373, 0x682e6ff3d6b2b8a3,
   0x748f82ee5defb2fc, 0x78a5636f43172f60, 0x84c87814a1f0ab72, 0x8cc702081a6439ec,
   0x90befffa23631e28, 0xa4506cebde82bde9, 0xbef9a3f7b2c67915, 0xc67178f2e372532b,
   0xca273eceea26619c, 0xd186b8c721c0c207, 0xeada7dd6cde0eb1e, 0xf57d4f7fee6ed178,
   0x06f067aa72176fba, 0x0a637dc5a2c898a6, 0x113f9804bef90dae, 0x1b710b35131c471b,
   0x28db77f523047d84, 0x32caab7b40c72493, 0x3c9ebe0a15c9bebc, 0x431d67c49c100d4c,
   0x4cc5d4becb3e42b6, 0x597f299cfc657e2a, 0x5fcb6fab3ad6faec, 0x6c44198c4a475817]

/-- The first 64 bits of the fractional parts of the square roots of the first sixteen primes. -/
def squareRoots : List Nat :=
  [0x6a09e667f3bcc908, 0xbb67ae8584caa73b, 0x3c6ef372fe94f82b, 0xa54ff53a5f1d36f1,
   0x510e527fade682d1, 0x9b05688c2b3e6c1f, 0x1f83d9abfb41bd6b, 0x5be0cd19137e2179,
   0xcbbb9d5dc1059ed8, 0x629a292a367cd507, 0x9159015a3070dd17, 0x152fecd8f70e5939,
   0x67332667ffc00b31, 0x8eb44a8768581511, 0xdb0c2e0d64f98fa7, 0x47b5481dbefa4fa4]

/-- The digests differ in rotations, rounds and constants only. -/
structure Variant (W : Type) where
  bits : Nat
  ofNat : Nat → W
  toNat : W → Nat
  sumA : Nat × Nat × Nat
  sumE : Nat × Nat × Nat
  older : Nat × Nat × Nat
  newer : Nat × Nat × Nat
  rounds : List W

structure State (W : Type) where
  a : W
  b : W
  c : W
  d : W
  e : W
  f : W
  g : W
  h : W

section
variable {W : Type} [Add W] [XorOp W] [AndOp W] [OrOp W] [Complement W] [ShiftLeft W] [ShiftRight W]

def rotate (v : Variant W) (x : W) (n : Nat) : W :=
  (x >>> v.ofNat n) ||| (x <<< v.ofNat (v.bits - n))

def large (v : Variant W) (r : Nat × Nat × Nat) (x : W) : W :=
  rotate v x r.1 ^^^ rotate v x r.2.1 ^^^ rotate v x r.2.2

def small (v : Variant W) (r : Nat × Nat × Nat) (x : W) : W :=
  rotate v x r.1 ^^^ rotate v x r.2.1 ^^^ (x >>> v.ofNat r.2.2)

def round (v : Variant W) (s : State W) (k w : W) : State W :=
  let t := s.h + large v v.sumE s.e + ((s.e &&& s.f) ^^^ (~~~s.e &&& s.g)) + k + w
  let u := large v v.sumA s.a + ((s.a &&& s.b) ^^^ (s.a &&& s.c) ^^^ (s.b &&& s.c))
  ⟨t + u, s.a, s.b, s.c, s.d + t, s.e, s.f, s.g⟩

def nextWord (v : Variant W) (window : List W) (first : W) : W :=
  let at' (i : Nat) : W := window.getD i first
  small v v.newer (at' 14) + at' 9 + small v v.older (at' 1) + first

def runRounds (v : Variant W) : List W → List W → State W → State W
  | k :: ks, w :: window, s =>
    runRounds v ks (window ++ [nextWord v (w :: window) w]) (round v s k w)
  | _, _, s => s

def State.add (s t : State W) : State W :=
  ⟨s.a + t.a, s.b + t.b, s.c + t.c, s.d + t.d, s.e + t.e, s.f + t.f, s.g + t.g, s.h + t.h⟩

def State.toList (s : State W) : List W :=
  [s.a, s.b, s.c, s.d, s.e, s.f, s.g, s.h]

def compress (v : Variant W) (s : State W) (block : List W) : State W :=
  s.add (runRounds v v.rounds block s)

def pieces {α : Type} (n : Nat) : Nat → List α → List (List α)
  | 0, _ => []
  | fuel + 1, xs => if xs.isEmpty then [] else xs.take n :: pieces n fuel (xs.drop n)

def padded (wordBytes : Nat) (message : Bytes) : Bytes :=
  let block := 16 * wordBytes
  let used := message.length + 1 + 2 * wordBytes
  message ++ 0x80 :: List.replicate ((block - used % block) % block) 0 ++
    Bytes.ofNat (2 * wordBytes) (8 * message.length)

def digest (v : Variant W) (start : State W) (message : Bytes) : Bytes :=
  let wordBytes := v.bits / 8
  let bytes := padded wordBytes message
  let words := (pieces wordBytes bytes.length bytes).map fun p => v.ofNat (Bytes.toNat p)
  let final := (pieces 16 words.length words).foldl (compress v) start
  final.toList.flatMap fun w => Bytes.ofNat wordBytes (v.toNat w)

def startState (v : Variant W) (words : List Nat) : State W :=
  let word (i : Nat) : W := v.ofNat (words.getD i 0)
  ⟨word 0, word 1, word 2, word 3, word 4, word 5, word 6, word 7⟩
end

def words32 : Variant UInt32 where
  bits := 32
  ofNat := UInt32.ofNat
  toNat := UInt32.toNat
  sumA := (2, 13, 22)
  sumE := (6, 11, 25)
  older := (7, 18, 3)
  newer := (17, 19, 10)
  rounds := (cubeRoots.take 64).map fun k => UInt32.ofNat (k / UInt32.size)

def words64 : Variant UInt64 where
  bits := 64
  ofNat := UInt64.ofNat
  toNat := UInt64.toNat
  sumA := (28, 34, 39)
  sumE := (14, 18, 41)
  older := (1, 8, 7)
  newer := (19, 61, 6)
  rounds := cubeRoots.map UInt64.ofNat

def sha256 (message : Bytes) : Bytes :=
  digest words32 (startState words32 (squareRoots.map (· / UInt32.size))) message

def sha384 (message : Bytes) : Bytes :=
  (digest words64 (startState words64 (squareRoots.drop 8)) message).take 48

def sha512 (message : Bytes) : Bytes :=
  digest words64 (startState words64 squareRoots) message

end PairedTls.Sha2
