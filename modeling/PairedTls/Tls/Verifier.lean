import PairedTls.Certificate.Decode
import PairedTls.Key.Pair
import PairedTls.Pem.Section
import PairedTls.Text.Quoted
import PairedTls.Tls.Failure
import PairedTls.Tls.Leaf

namespace PairedTls

inductive ClientAuth where
  | optional
  | required
  deriving DecidableEq, Repr

namespace ClientAuth

def ofRequired (required : Bool) : ClientAuth :=
  if required then .required else .optional

def mandatory : ClientAuth → Bool
  | .required => true
  | .optional => false

def name : ClientAuth → String
  | .optional => "Optional"
  | .required => "Required"

end ClientAuth

inductive SignatureAlgorithm where
  | rsaPlain (hash : Hash)
  | rsaSalted (hash : Hash)
  | ecdsa (curve : Ecdsa.Curve) (hash : Hash)
  | ed25519
  deriving DecidableEq, Repr

namespace SignatureAlgorithm

def keyAlgorithm : SignatureAlgorithm → Bytes
  | .rsaPlain _ => Rsa.PublicKey.algorithm
  | .rsaSalted _ => Rsa.PublicKey.algorithm
  | .ecdsa curve _ => Ecdsa.PrivateKey.algorithm curve
  | .ed25519 => Der.writeObjectId ObjectId.ed25519

def verifies (alg : SignatureAlgorithm) (key message signature : Bytes) : Bool :=
  match alg with
  | .rsaPlain hash =>
    match Rsa.PublicKey.decode? key with
    | some k => Rsa.verifies k hash message signature
    | none => false
  | .rsaSalted hash =>
    match Rsa.PublicKey.decode? key with
    | some k => Rsa.verifiesSalted k hash message signature
    | none => false
  | .ecdsa curve hash => Ecdsa.verifies curve hash key message signature
  | .ed25519 => Ed25519.verifies key message signature

def hashSequence (h : Hash) : Bytes :=
  Der.writeSequence [Der.writeObjectId h.objectId, Der.writeNull]

def maskId : Bytes := [0x2A, 0x86, 0x48, 0x86, 0xF7, 0x0D, 0x01, 0x01, 0x08]

def name : SignatureAlgorithm → Bytes
  | .rsaPlain h =>
    let last : UInt8 := match h with
      | .sha256 => 0x0B
      | .sha384 => 0x0C
      | .sha512 => 0x0D
    Der.writeObjectId (ObjectId.rsaEncryption.dropLast ++ [last]) ++ Der.writeNull
  | .rsaSalted h =>
    Der.writeObjectId (ObjectId.rsaEncryption.dropLast ++ [0x0A]) ++
      Der.writeSequence
        [Der.write 0xA0 (hashSequence h),
         Der.write 0xA1 (Der.writeSequence [Der.writeObjectId maskId, hashSequence h]),
         Der.write 0xA2 (Der.writeNatural h.size)]
  | .ecdsa _ .sha256 => Der.writeObjectId ObjectId.ecdsaSha256
  | .ecdsa _ .sha384 => Der.writeObjectId ObjectId.ecdsaSha384
  | .ecdsa _ .sha512 => Der.writeObjectId ObjectId.ecdsaSha512
  | .ed25519 => Der.writeObjectId ObjectId.ed25519

end SignatureAlgorithm

inductive TlsVersion where
  | v12
  | v13
  deriving DecidableEq, Repr

def TlsVersion.name : TlsVersion → String
  | .v12 => "TLSv1_2"
  | .v13 => "TLSv1_3"

/-- A scheme of the handshake with the algorithms that it may stand for; the older version of the
protocol leaves the curve open, the newer one takes the first. -/
structure Scheme where
  code : Nat
  newer : Bool
  algorithms : List SignatureAlgorithm

namespace Scheme

def all : List Scheme :=
  [⟨0x0503, true, [.ecdsa Ecdsa.p384 .sha384, .ecdsa Ecdsa.p256 .sha384, .ecdsa Ecdsa.p521 .sha384]⟩,
   ⟨0x0403, true, [.ecdsa Ecdsa.p256 .sha256, .ecdsa Ecdsa.p384 .sha256, .ecdsa Ecdsa.p521 .sha256]⟩,
   ⟨0x0603, true, [.ecdsa Ecdsa.p521 .sha512, .ecdsa Ecdsa.p384 .sha512, .ecdsa Ecdsa.p256 .sha512]⟩,
   ⟨0x0807, true, [.ed25519]⟩,
   ⟨0x0806, true, [.rsaSalted .sha512]⟩,
   ⟨0x0805, true, [.rsaSalted .sha384]⟩,
   ⟨0x0804, true, [.rsaSalted .sha256]⟩,
   ⟨0x0601, false, [.rsaPlain .sha512]⟩,
   ⟨0x0501, false, [.rsaPlain .sha384]⟩,
   ⟨0x0401, false, [.rsaPlain .sha256]⟩]

def isRsa (s : Scheme) : Bool :=
  s.algorithms.any fun a => a.keyAlgorithm == Rsa.PublicKey.algorithm

def candidates? (version : TlsVersion) (code : Nat) : Option (List SignatureAlgorithm) := do
  let s ← all.find? (·.code == code)
  match version with
  | .v12 => some s.algorithms
  | .v13 => if s.newer then some (s.algorithms.take 1) else none

end Scheme

inductive SignatureFault where
  | notOffered
  | certificate (fault : LeafFault)
  | wrongKey (signature key : Bytes)
  | badSignature
  deriving DecidableEq, Repr

namespace SignatureFault

def name : SignatureFault → String
  | .notOffered => "PeerMisbehaved(SignedHandshakeWithUnadvertisedSigScheme)"
  | .certificate fault => "InvalidCertificate(" ++ fault.detail ++ ")"
  | .wrongKey .. => "InvalidCertificate(UnsupportedSignatureAlgorithmForPublicKeyContext"
  | .badSignature => "InvalidCertificate(BadSignature)"

def toTls : SignatureFault → TlsFault
  | .notOffered => .other "peer misbehaved: SignedHandshakeWithUnadvertisedSigScheme"
  | .certificate .badEncoding => .badCertificateEncoding
  | .certificate fault => .certificate fault.detail
  | .wrongKey signature key =>
    .certificate (Text.record "UnsupportedSignatureAlgorithmForPublicKeyContext"
      [("signature_algorithm_id", Pem.decimalList signature),
       ("public_key_algorithm_id", Pem.decimalList key)] false)
  | .badSignature => .certificate "BadSignature"

end SignatureFault

/-- Who the client is does not matter: at most there has to be a certificate that can be read, and the client has to
hold its key. -/
structure Verifier where
  clientAuth : ClientAuth
  deriving DecidableEq, Repr

namespace Verifier

def offersClientAuth (_ : Verifier) : Bool := true

def mandatory (v : Verifier) : Bool :=
  v.clientAuth.mandatory

/-- Nobody is asked for a certificate of a particular issuer. -/
def rootHints (_ : Verifier) : List Bytes := []

def supportedSchemes (_ : Verifier) : List Scheme :=
  Scheme.all

/-- Takes whatever can be read as a certificate; further certificates and the time make no difference. -/
def verifyClientCert (_ : Verifier) (endEntity : Bytes) (_intermediates : List Bytes) (_now : Int) :
    Except TlsFault Unit :=
  if (CertFields.decode? endEntity).isSome then .ok () else .error .badCertificateEncoding

/-- Goes on to the next algorithm only while the key is of the wrong kind. -/
def tryAlgorithms (keyAlgorithm key message signature : Bytes) :
    SignatureFault → List SignatureAlgorithm → Except SignatureFault Unit
  | fault, [] => .error fault
  | _, alg :: rest =>
    if alg.keyAlgorithm = keyAlgorithm then
      if alg.verifies key message signature then .ok () else .error .badSignature
    else tryAlgorithms keyAlgorithm key message signature (.wrongKey alg.name keyAlgorithm) rest

def onLeaf {α : Type} : Except LeafFault α → Except SignatureFault α
  | .ok a => .ok a
  | .error fault => .error (.certificate fault)

def verifySignature (_ : Verifier) (version : TlsVersion) (message der : Bytes) (scheme : Nat)
    (signature : Bytes) : Except SignatureFault Unit := do
  match Scheme.candidates? version scheme with
  | none => .error .notOffered
  | some algorithms =>
    let leaf ← onLeaf (Leaf.ofDer der)
    let (keyAlgorithm, key) ← onLeaf leaf.keyParts
    tryAlgorithms keyAlgorithm key message signature .notOffered algorithms

end Verifier
end PairedTls
