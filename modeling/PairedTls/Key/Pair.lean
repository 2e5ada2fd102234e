import PairedTls.Key.Ecdsa
import PairedTls.Key.Ed25519
import PairedTls.Key.Rsa

namespace PairedTls

inductive KeyFormat where
  | pkcs1
  | sec1
  | pkcs8
  deriving DecidableEq, Repr

inductive KeyPair where
  | rsa (key : Rsa.PrivateKey)
  | ecdsa (key : Ecdsa.PrivateKey)
  | ed25519 (seed : Bytes)
  deriving DecidableEq, Repr

namespace KeyPair

structure Wrapped where
  algorithm : Bytes
  key : Bytes
  shownPublic : Option Bytes

/-- Attributes after the key are passed over, and a public key is looked at in the second version only. -/
def readWrapped? (bs : Bytes) : Option Wrapped := do
  let (body, _) ← Der.Strict.read Der.Strict.sequenceTag bs
  let (version, rest) ← Der.Strict.readNatural body
  let (algorithm, rest) ← Der.Strict.read Der.Strict.sequenceTag rest
  let (key, rest) ← Der.Strict.read Der.Strict.octetStringTag rest
  let (_, rest) ← Der.Strict.readOptional (Der.Strict.contextTag 0) rest
  if 1 < version then none
  else if version = 0 then some ⟨algorithm, key, none⟩
  else
    let (shown, _) ← Der.Strict.readOptional 0x81 rest
    match shown with
    | none => some ⟨algorithm, key, none⟩
    | some (0 :: bits) => some ⟨algorithm, key, some bits⟩
    | some _ => none

def wrap (algorithm key : Bytes) : Bytes :=
  Der.writeSequence
    [Der.writeNatural 0, Der.write Der.Strict.sequenceTag algorithm, Der.write Der.Strict.octetStringTag key]

def rsaWrapped? (bs : Bytes) : Option KeyPair := do
  let w ← readWrapped? bs
  let (key, rest) ← Rsa.PrivateKey.read? w.key
  if w.algorithm = Rsa.PublicKey.algorithm ∧ rest.isEmpty then some (.rsa key) else none

def rsaPlain? (bs : Bytes) : Option KeyPair :=
  (Rsa.PrivateKey.read? bs).map fun (key, _) => .rsa key

def ecdsaWrapped? (c : Ecdsa.Curve) (bs : Bytes) : Option KeyPair := do
  let w ← readWrapped? bs
  if w.algorithm = Ecdsa.PrivateKey.algorithm c then
    let (key, rest) ← Ecdsa.PrivateKey.read? c w.key
    if rest.isEmpty then some (.ecdsa key) else none
  else none

def ecdsaPlain? (c : Ecdsa.Curve) (bs : Bytes) : Option KeyPair :=
  (Ecdsa.PrivateKey.read? c bs).map fun (key, _) => .ecdsa key

def ed25519Wrapped? (bs : Bytes) : Option KeyPair := do
  let w ← readWrapped? bs
  let seed ← Der.Strict.readOnly Der.Strict.octetStringTag w.key
  let shownOk : Bool := match w.shownPublic with
    | none => true
    | some bits => bits == Ed25519.publicKey seed
  if w.algorithm = Der.writeObjectId ObjectId.ed25519 ∧ seed.length = 32 ∧ shownOk then some (.ed25519 seed)
  else none

def ecdsaAny? (read : Ecdsa.Curve → Bytes → Option KeyPair) (bs : Bytes) : Option KeyPair :=
  Ecdsa.curves.findSome? (read · bs)

/-- Tells the format from what follows the outer header: a version number and then a sequence, or the
version number of a bare key. -/
def guessFormat (der : Bytes) : Option KeyFormat :=
  match der with
  | 0x30 :: n :: rest =>
    match rest.drop (n.toNat - 128) with
    | 2 :: 1 :: v :: more =>
      if more.head? = some 0x30 then some .pkcs8
      else if v = 0 then some .pkcs1
      else if v = 1 then some .sec1
      else none
    | _ => none
  | _ => none

/-- A key of unknown kind: the guessed format, then Ed25519, the curves from small to large, and RSA. -/
def ofDer? (der : Bytes) : Option KeyPair := do
  let format ← guessFormat der
  match format with
  | .pkcs8 => ((ed25519Wrapped? der).or (ecdsaAny? ecdsaWrapped? der)).or (rsaWrapped? der)
  | _ => ((ed25519Wrapped? der).or (ecdsaAny? ecdsaPlain? der)).or (rsaPlain? der)

def ofFormat? : KeyFormat → Bytes → Option KeyPair
  | .pkcs1, der => rsaPlain? der
  | .sec1, der => ecdsaAny? ecdsaPlain? der
  | .pkcs8, der => ((rsaWrapped? der).or (ecdsaAny? ecdsaWrapped? der)).or (ed25519Wrapped? der)

def publicInfo : KeyPair → Bytes
  | .rsa key => key.publicKey.info
  | .ecdsa key => key.info
  | .ed25519 seed => Ed25519.info seed

def isRsa : KeyPair → Bool
  | .rsa _ => true
  | _ => false

def signatureAlgorithm : KeyPair → Bytes
  | .rsa _ => Der.writeObjectId ObjectId.sha256WithRsa ++ Der.writeNull
  | .ecdsa key =>
    Der.writeObjectId <|
      match key.hash with
      | .sha256 => ObjectId.ecdsaSha256
      | .sha384 => ObjectId.ecdsaSha384
      | .sha512 => ObjectId.ecdsaSha512
  | .ed25519 _ => Der.writeObjectId ObjectId.ed25519

def sign? (nonce : Nat) (message : Bytes) : KeyPair → Option Bytes
  | .rsa key => key.sign? .sha256 message
  | .ecdsa key => key.sign? nonce message
  | .ed25519 seed => some (Ed25519.sign seed message)

def encodeRsa (key : Rsa.PrivateKey) : Bytes :=
  wrap Rsa.PublicKey.algorithm key.encode

end KeyPair
end PairedTls
