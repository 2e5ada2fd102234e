import PairedTls.Der.ObjectId
import PairedTls.Key.Hash
import PairedTls.Modular

namespace PairedTls.Rsa

def bitLength (n : Nat) : Nat :=
  if n = 0 then 0 else n.log2 + 1

structure PublicKey where
  modulus : Nat
  exponent : Nat
  deriving DecidableEq, Repr

structure PrivateKey where
  modulus : Nat
  publicExponent : Nat
  privateExponent : Nat
  prime1 : Nat
  prime2 : Nat
  exponent1 : Nat
  exponent2 : Nat
  coefficient : Nat
  deriving DecidableEq, Repr

def minBits : Nat := 2048
def maxBits : Nat := 8192

namespace PublicKey

def width (k : PublicKey) : Nat :=
  Bytes.widthOf k.modulus

def exponentOk (e : Nat) : Bool :=
  e % 2 == 1 && 1 < e && bitLength e ≤ 33

def usable (k : PublicKey) : Bool :=
  minBits ≤ bitLength k.modulus && bitLength k.modulus ≤ maxBits && k.modulus % 2 == 1 && exponentOk k.exponent

def encode (k : PublicKey) : Bytes :=
  Der.writeSequence [Der.writeNatural k.modulus, Der.writeNatural k.exponent]

def algorithm : Bytes :=
  Der.writeObjectId ObjectId.rsaEncryption ++ Der.writeNull

def info (k : PublicKey) : Bytes :=
  Der.writeSequence [Der.write Der.Strict.sequenceTag algorithm, Der.writeBits k.encode]

def decodePlain? (bs : Bytes) : Option PublicKey := do
  let body ← Der.Strict.readOnly Der.Strict.sequenceTag bs
  let (modulus, rest) ← Der.Strict.readNatural body
  let (exponent, rest) ← Der.Strict.readNatural rest
  if rest.isEmpty then some ⟨modulus, exponent⟩ else none

def decodeInfo? (bs : Bytes) : Option PublicKey := do
  let body ← Der.Strict.readOnly Der.Strict.sequenceTag bs
  let (alg, rest) ← Der.Strict.read Der.Strict.sequenceTag body
  let (bits, rest) ← Der.Strict.readBits rest
  if alg = algorithm ∧ rest.isEmpty then decodePlain? bits else none

def decode? (bs : Bytes) : Option PublicKey :=
  (decodeInfo? bs).or (decodePlain? bs)

def recover? (k : PublicKey) (signature : Bytes) : Option Bytes :=
  let s := Bytes.toNat signature
  if signature.length = k.width ∧ s < k.modulus then
    some (Bytes.ofNat k.width (Modular.pow s k.exponent k.modulus))
  else none

end PublicKey

def padded? (h : Hash) (width : Nat) (message : Bytes) : Option Bytes :=
  let info := h.digestInfo message
  if width < info.length + 11 then none
  else some ([0, 1] ++ List.replicate (width - info.length - 3) 0xFF ++ 0 :: info)

def verifies (k : PublicKey) (h : Hash) (message signature : Bytes) : Bool :=
  match k.recover? signature, padded? h k.width message with
  | some found, some expected => k.usable && found == expected
  | _, _ => false

def mask (h : Hash) (seed : Bytes) (n : Nat) : Bytes :=
  ((List.range (n / h.size + 1)).flatMap fun i => h.digest (seed ++ Bytes.ofNat 4 i)).take n

def xor (a b : Bytes) : Bytes :=
  List.zipWith (· ^^^ ·) a b

def clearTop (bits : Nat) : Bytes → Bytes
  | [] => []
  | b :: rest => UInt8.ofNat (b.toNat % Nat.pow 2 bits) :: rest

def saltedDigest (h : Hash) (message salt : Bytes) : Bytes :=
  h.digest (List.replicate 8 0 ++ h.digest message ++ salt)

/-- Opens a salted encoding of `bits` bits whose salt is as long as the digest. -/
def saltedMatches (h : Hash) (bits : Nat) (message encoded : Bytes) : Bool :=
  let size := (bits + 7) / 8
  let encoded := encoded.drop (encoded.length - size)
  let dataSize := size - h.size - 1
  let data := encoded.take dataSize
  let hashed := (encoded.drop dataSize).take h.size
  let topBits := 8 * size - bits
  let top := (data.headD 0).toNat
  let plain := clearTop (8 - topBits) (xor data (mask h hashed dataSize))
  let zeros := dataSize - h.size - 1
  let salt := plain.drop (zeros + 1)
  2 * h.size + 2 ≤ size && encoded.getLast? == some 0xBC && top < Nat.pow 2 (8 - topBits) &&
    plain.take (zeros + 1) == List.replicate zeros 0 ++ [1] && saltedDigest h message salt == hashed

def salted? (h : Hash) (bits : Nat) (message salt : Bytes) : Option Bytes :=
  let size := (bits + 7) / 8
  let dataSize := size - h.size - 1
  let hashed := saltedDigest h message salt
  let plain := List.replicate (dataSize - salt.length - 1) 0 ++ 1 :: salt
  if size < 2 * h.size + 2 then none
  else some (clearTop (8 - (8 * size - bits)) (xor plain (mask h hashed dataSize)) ++ hashed ++ [0xBC])

def verifiesSalted (k : PublicKey) (h : Hash) (message signature : Bytes) : Bool :=
  match k.recover? signature with
  | some found =>
    k.usable && (Bytes.toNat found < Nat.pow 2 (8 * ((bitLength k.modulus + 6) / 8))) &&
      saltedMatches h (bitLength k.modulus - 1) message found
  | none => false

namespace PrivateKey

def publicKey (k : PrivateKey) : PublicKey :=
  ⟨k.modulus, k.publicExponent⟩

/-- The parts belong together: two factors of the modulus, inverse exponents, and the inverse of the
second factor modulo the first. -/
def consistent (k : PrivateKey) : Bool :=
  PublicKey.exponentOk k.publicExponent && k.modulus % 2 == 1 &&
    k.privateExponent < k.modulus && 0 < k.privateExponent &&
    1 < k.prime1 && 1 < k.prime2 && k.prime1 < k.modulus && k.prime2 < k.modulus &&
    k.prime1 * k.prime2 == k.modulus &&
    k.publicExponent * k.privateExponent % (k.prime1 - 1) == 1 &&
    k.publicExponent * k.privateExponent % (k.prime2 - 1) == 1 &&
    k.exponent1 < k.prime1 - 1 && k.publicExponent * k.exponent1 % (k.prime1 - 1) == 1 &&
    k.exponent2 < k.prime2 - 1 && k.publicExponent * k.exponent2 % (k.prime2 - 1) == 1 &&
    k.coefficient < k.prime1 && k.prime2 * k.coefficient % k.prime1 == 1

def usable (k : PrivateKey) : Bool :=
  k.consistent && k.publicKey.usable

def encode (k : PrivateKey) : Bytes :=
  Der.writeSequence
    ([0, k.modulus, k.publicExponent, k.privateExponent, k.prime1, k.prime2, k.exponent1, k.exponent2,
      k.coefficient].map Der.writeNatural)

def readNaturals : Nat → Bytes → Option (List Nat × Bytes)
  | 0, bs => some ([], bs)
  | count + 1, bs => do
    let (n, rest) ← Der.Strict.readNatural bs
    let (more, rest) ← readNaturals count rest
    return (n :: more, rest)

def read? (bs : Bytes) : Option (PrivateKey × Bytes) := do
  let (body, rest) ← Der.Strict.read Der.Strict.sequenceTag bs
  match readNaturals 9 body with
  | some ([0, n, e, d, p, q, dp, dq, c], []) =>
    let k : PrivateKey := ⟨n, e, d, p, q, dp, dq, c⟩
    if k.usable then some (k, rest) else none
  | _ => none

def ofPrimes? (p q e : Nat) : Option PrivateKey := do
  let d ← Modular.inverse? e ((p - 1) * (q - 1))
  let c ← Modular.inverse? q p
  let k : PrivateKey := ⟨p * q, e, d, p, q, d % (p - 1), d % (q - 1), c⟩
  if k.usable then some k else none

/-- Signs and then looks whether the signature opens to what was signed. -/
def sign? (k : PrivateKey) (h : Hash) (message : Bytes) : Option Bytes := do
  let width := k.publicKey.width
  let encoded ← padded? h width message
  let signature := Bytes.ofNat width (Modular.pow (Bytes.toNat encoded) k.privateExponent k.modulus)
  if k.publicKey.recover? signature = some encoded then some signature else none

def signSalted? (k : PrivateKey) (h : Hash) (salt message : Bytes) : Option Bytes := do
  let encoded ← salted? h (bitLength k.modulus - 1) message salt
  return Bytes.ofNat k.publicKey.width (Modular.pow (Bytes.toNat encoded) k.privateExponent k.modulus)

end PrivateKey
end PairedTls.Rsa
