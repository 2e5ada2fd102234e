import PairedTls.Der.ObjectId
import PairedTls.Key.Hash
import PairedTls.Modular

namespace PairedTls.Ecdsa

/-- The curve `y² = x³ - 3x + b` modulo `p`. -/
structure Curve where
  id : ObjectId.Id
  width : Nat
  p : Nat
  b : Nat
  gx : Nat
  gy : Nat
  order : Nat
  deriving DecidableEq, Repr

def p256 : Curve where
  id := ObjectId.p256
  width := 32
  p := 0xffffffff00000001000000000000000000000000ffffffffffffffffffffffff
  b := 0x5ac635d8aa3a93e7b3ebbd55769886bc651d06b0cc53b0f63bce3c3e27d2604b
  gx := 0x6b17d1f2e12c4247f8bce6e563a440f277037d812deb33a0f4a13945d898c296
  gy := 0x4fe342e2fe1a7f9b8ee7eb4a7c0f9e162bce33576b315ececbb6406837bf51f5
  order := 0xffffffff00000000ffffffffffffffffbce6faada7179e84f3b9cac2fc632551

def p384 : Curve where
  id := ObjectId.p384
  width := 48
  p := 0xfffffffffffffffffffffffffffffffffffffffffffffffffffffffffffffffeffffffff0000000000000000ffffffff
  b := 0xb3312fa7e23ee7e4988e056be3f82d19181d9c6efe8141120314088f5013875ac656398d8a2ed19d2a85c8edd3ec2aef
  gx := 0xaa87ca22be8b05378eb1c71ef320ad746e1d3b628ba79b9859f741e082542a385502f25dbf55296c3a545e3872760ab7
  gy := 0x3617de4a96262c6f5d9e98bf9292dc29f8f41dbd289a147ce9da3113b5f0b8c00a60b1ce1d7e819d7a431d7c90ea0e5f
  order := 0xffffffffffffffffffffffffffffffffffffffffffffffffc7634d81f4372ddf581a0db248b0a77aecec196accc52973

def p521 : Curve where
  id := ObjectId.p521
  width := 66
  p := Nat.pow 2 521 - 1
  b := 0x0051953eb9618e1c9a1f929a21a0b68540eea2da725b99b315f3b8b489918ef109e156193951ec7e937b1652c0bd3bb1bf073573df883d2c34f1ef451fd46b503f00
  gx := 0x00c6858e06b70404e9cd9e3ecb662395b4429c648139053fb521f828af606b4d3dbaa14b5e77efe75928fe1dc127a2ffa8de3348b3c1856a429bf97e7e31c2e5bd66
  gy := 0x011839296a789a3bc0045c8a5fb42c7d1bd998f54449579b446817afbd17273e662c97ee72995ef42640c550b9013fad0761353c7086a272c24088be94769fd16650
  order := 0x01fffffffffffffffffffffffffffffffffffffffffffffffffffffffffffffffffa51868783bf2f966b7fcc0148f709a5d03bb5c9b8899c47aebb6fb71e91386409

def curves : List Curve := [p256, p384, p521]

/-- The point at infinity is `none`. -/
abbrev Point := Option (Nat × Nat)

namespace Curve

def sub (c : Curve) (a b : Nat) : Nat :=
  (a + c.p - b % c.p) % c.p

def rightSide (c : Curve) (x : Nat) : Nat :=
  c.sub (x * x * x + c.b) (3 * x)

def contains (c : Curve) (x y : Nat) : Bool :=
  x < c.p && y < c.p && y * y % c.p == c.rightSide x

def along (c : Curve) (slope : Nat) (x₁ y₁ x₂ : Nat) : Point :=
  let x := c.sub (slope * slope) (x₁ + x₂)
  some (x, c.sub (slope * c.sub x₁ x) y₁)

def add (c : Curve) : Point → Point → Point
  | none, q => q
  | p, none => p
  | some (x₁, y₁), some (x₂, y₂) =>
    if x₁ = x₂ then
      if (y₁ + y₂) % c.p = 0 then none
      else
        match Modular.inverse? (2 * y₁) c.p with
        | some i => c.along (c.sub (3 * x₁ * x₁) 3 * i % c.p) x₁ y₁ x₂
        | none => none
    else
      match Modular.inverse? (c.sub x₂ x₁) c.p with
      | some i => c.along (c.sub y₂ y₁ * i % c.p) x₁ y₁ x₂
      | none => none

def mul (c : Curve) (k : Nat) (q : Point) : Point :=
  if k = 0 then none
  else
    let half := c.mul (k / 2) (c.add q q)
    if k % 2 = 1 then c.add half q else half
termination_by k

def base (c : Curve) : Point :=
  some (c.gx, c.gy)

def encode (c : Curve) : Point → Bytes
  | none => [0]
  | some (x, y) => 4 :: Bytes.ofNat c.width x ++ Bytes.ofNat c.width y

/-- A root of the right side; every prime here is 3 modulo 4. -/
def liftX? (c : Curve) (x : Nat) (odd : Bool) : Option (Nat × Nat) :=
  let square := c.rightSide x
  let y := Modular.pow square ((c.p + 1) / 4) c.p
  if c.p ≤ x ∨ y * y % c.p ≠ square then none
  else if (y % 2 == 1) = odd then some (x, y)
  else if y = 0 then none
  else some (x, c.p - y)

def decode? (c : Curve) (bs : Bytes) : Option (Nat × Nat) :=
  match bs with
  | [] => none
  | form :: rest =>
    let x := Bytes.toNat (rest.take c.width)
    let y := Bytes.toNat (rest.drop c.width)
    if form = 2 ∨ form = 3 then
      if rest.length = c.width then c.liftX? x (form == 3) else none
    else if rest.length ≠ 2 * c.width ∨ !c.contains x y then none
    else if form = 4 then some (x, y)
    else if (form = 6 ∧ y % 2 = 0) ∨ (form = 7 ∧ y % 2 = 1) then some (x, y)
    else none

end Curve

def truncated (c : Curve) (digest : Bytes) : Nat :=
  let n := Bytes.toNat digest
  n / Nat.pow 2 (8 * digest.length - (c.order.log2 + 1))

def readSignature? (c : Curve) (bs : Bytes) : Option (Nat × Nat) := do
  let body ← Der.Strict.readOnly Der.Strict.sequenceTag bs
  let (r, rest) ← Der.Strict.readNatural body
  let (s, rest) ← Der.Strict.readNatural rest
  if rest.isEmpty ∧ 0 < r ∧ r < c.order ∧ 0 < s ∧ s < c.order then some (r, s) else none

def verifies (c : Curve) (h : Hash) (key : Bytes) (message signature : Bytes) : Bool :=
  match c.decode? key, readSignature? c signature with
  | some q, some (r, s) =>
    match Modular.inverse? s c.order with
    | some w =>
      let u := truncated c (h.digest message) * w % c.order
      let v := r * w % c.order
      match c.add (c.mul u c.base) (c.mul v (some q)) with
      | some (x, _) => x % c.order == r
      | none => false
    | none => false
  | _, _ => false

structure PrivateKey where
  curve : Curve
  secret : Nat
  deriving DecidableEq, Repr

namespace PrivateKey

def point (k : PrivateKey) : Point :=
  k.curve.mul k.secret k.curve.base

def algorithm (c : Curve) : Bytes :=
  Der.writeObjectId ObjectId.ecPublicKey ++ Der.writeObjectId c.id

def info (k : PrivateKey) : Bytes :=
  Der.writeSequence
    [Der.write Der.Strict.sequenceTag (algorithm k.curve), Der.writeBits (k.curve.encode k.point)]

/-- A key as it stands alone; a curve that it names has to be `c`, and a public point in it has to be its
own. -/
def read? (c : Curve) (bs : Bytes) : Option (PrivateKey × Bytes) := do
  let (body, after) ← Der.Strict.read Der.Strict.sequenceTag bs
  let (version, rest) ← Der.Strict.readNatural body
  let (secret, rest) ← Der.Strict.read Der.Strict.octetStringTag rest
  let (named, rest) ← Der.Strict.readOptional (Der.Strict.contextTag 0) rest
  let (shown, rest) ← Der.Strict.readOptional (Der.Strict.contextTag 1) rest
  let key : PrivateKey := ⟨c, Bytes.toNat secret⟩
  let nameOk : Bool := match named with
    | none => true
    | some content => Der.Strict.readOnly Der.Strict.objectIdTag content == some c.id
  let pointOk : Bool := match shown with
    | none => true
    | some content =>
      match Der.Strict.readBits content with
      | some (bits, []) => (c.decode? bits).isSome && c.decode? bits == key.point
      | _ => false
  if version = 1 ∧ rest.isEmpty ∧ nameOk ∧ 0 < key.secret ∧ key.secret < c.order ∧ pointOk then
    some (key, after)
  else none

def hash (k : PrivateKey) : Hash :=
  if k.curve = p256 then .sha256 else if k.curve = p384 then .sha384 else .sha512

def sign? (k : PrivateKey) (nonce : Nat) (message : Bytes) : Option Bytes := do
  let c := k.curve
  let nonce := nonce % c.order
  let (x, _) ← c.mul nonce c.base
  let i ← Modular.inverse? nonce c.order
  let r := x % c.order
  let s := i * (truncated c (k.hash.digest message) + r * k.secret) % c.order
  if r = 0 ∨ s = 0 then none
  else some (Der.writeSequence [Der.writeNatural r, Der.writeNatural s])

end PrivateKey
end PairedTls.Ecdsa
