import PairedTls.Der.ObjectId
import PairedTls.Key.Hash
import PairedTls.Modular

namespace PairedTls.Ed25519

def p : Nat := Nat.pow 2 255 - 19
def order : Nat := Nat.pow 2 252 + 27742317777372353535851937790883648493

def inverse (a : Nat) : Nat :=
  (Modular.inverse? a p).getD 0

def d : Nat :=
  (p - 121665) * inverse 121666 % p

def rootOfMinusOne : Nat :=
  Modular.pow 2 ((p - 1) / 4) p

/-- Numbers are written with the lowest byte first. -/
def ofLittle (bs : Bytes) : Nat :=
  Bytes.toNat bs.reverse

def toLittle (n : Nat) : Bytes :=
  (Bytes.ofNat 32 n).reverse

/-- On the twisted Edwards curve `-x² + y² = 1 + d x² y²`, whose addition law has no exceptions. -/
abbrev Point := Nat × Nat

def add (a b : Point) : Point :=
  let (x₁, y₁) := a
  let (x₂, y₂) := b
  let t := d * (x₁ * x₂ % p) % p * (y₁ * y₂ % p) % p
  ((x₁ * y₂ + x₂ * y₁) * inverse (1 + t) % p, (y₁ * y₂ + x₁ * x₂) * inverse (1 + p - t) % p)

def mul (k : Nat) (q : Point) : Point :=
  if k = 0 then (0, 1)
  else
    let half := mul (k / 2) (add q q)
    if k % 2 = 1 then add half q else half
termination_by k

def recoverX? (y : Nat) (odd : Bool) : Option Nat :=
  let square := (y * y + p - 1) * inverse (d * (y * y) + 1) % p
  let r := Modular.pow square ((p + 3) / 8) p
  let x := if r * r % p = square then r else r * rootOfMinusOne % p
  if x * x % p ≠ square then none
  else if (x % 2 == 1) = odd then some x
  else some ((p - x) % p)

def decode? (bs : Bytes) : Option Point :=
  if bs.length ≠ 32 then none
  else
    let n := ofLittle bs
    let y := n % Nat.pow 2 255 % p
    (recoverX? y (Nat.pow 2 255 ≤ n)).map fun x => (x, y)

def encode (q : Point) : Bytes :=
  toLittle (q.2 + q.1 % 2 * Nat.pow 2 255)

def base : Point :=
  let y := 4 * inverse 5 % p
  ((recoverX? y false).getD 0, y)

def negate (q : Point) : Point :=
  ((p - q.1) % p, q.2)

def verifies (key message signature : Bytes) : Bool :=
  match decode? key with
  | none => false
  | some a =>
    let r := signature.take 32
    let s := ofLittle (signature.drop 32)
    let h := ofLittle (Sha2.sha512 (r ++ key ++ message)) % order
    signature.length == 64 && s < order && encode (add (mul s base) (mul h (negate a))) == r

def expand (seed : Bytes) : Nat × Bytes :=
  let h := Sha2.sha512 seed
  let n := ofLittle (h.take 32) % Nat.pow 2 254
  (n - n % 8 + Nat.pow 2 254, h.drop 32)

def publicKey (seed : Bytes) : Bytes :=
  encode (mul (expand seed).1 base)

def sign (seed message : Bytes) : Bytes :=
  let (a, extra) := expand seed
  let r := ofLittle (Sha2.sha512 (extra ++ message)) % order
  let shown := encode (mul r base)
  let h := ofLittle (Sha2.sha512 (shown ++ publicKey seed ++ message)) % order
  shown ++ toLittle ((r + h * a) % order)

def info (seed : Bytes) : Bytes :=
  Der.writeSequence
    [Der.writeSequence [Der.writeObjectId ObjectId.ed25519], Der.writeBits (publicKey seed)]

end PairedTls.Ed25519
