import PairedTls.Tls.Peer
import PairedTls.Tls.Settings

namespace PairedTls

/-- What a client answers when it is asked for its certificate: a chain, and a signature over the handshake so far. -/
structure Credentials where
  chain : List Bytes
  scheme : Nat
  transcript : Bytes
  signature : Bytes
  deriving DecidableEq, Repr

/-- All that a client sends until its handshake is decided. -/
structure ClientFlight where
  version : TlsVersion
  protocols : List String
  credentials : Option Credentials
  deriving DecidableEq, Repr

structure ClientIdentity where
  chain : List Bytes
  key : KeyPair
  deriving DecidableEq, Repr

structure ClientHello where
  version : TlsVersion
  protocols : List String
  identity : Option ClientIdentity
  deriving DecidableEq, Repr

structure TlsSession where
  version : TlsVersion
  protocol : Option String
  peer : PeerCertificate
  deriving DecidableEq, Repr

namespace Handshake

/-- The listener's preference decides; a client that names no protocol gets none. -/
def chooseProtocol (preferred offered : List String) : Except TlsFault (Option String) :=
  if offered.isEmpty then .ok none
  else
    match preferred.find? offered.contains with
    | some p => .ok (some p)
    | none => .error (.other "peer doesn't support any known protocol")

def preferredAlgorithm : KeyPair → SignatureAlgorithm
  | .rsa _ => .rsaSalted .sha512
  | .ecdsa key => .ecdsa key.curve key.hash
  | .ed25519 _ => .ed25519

def schemeOf (key : KeyPair) : Nat :=
  match Scheme.all.find? (·.algorithms.head? == some (preferredAlgorithm key)) with
  | some s => s.code
  | none => 0

/-- A key that cannot sign yields nothing that would verify. -/
def signature (key : KeyPair) (random : Nat) (message : Bytes) : Bytes :=
  match key with
  | .rsa k => (k.signSalted? .sha512 (Bytes.ofNat Hash.sha512.size random) message).getD []
  | .ecdsa k => (k.sign? random message).getD []
  | .ed25519 seed => Ed25519.sign seed message

def present (id : ClientIdentity) (random : Nat) (transcript : Bytes) : Credentials :=
  ⟨id.chain, schemeOf id.key, transcript, signature id.key random transcript⟩

def authenticate (verifier : Verifier) (version : TlsVersion) (now : Int) :
    Option Credentials → Except TlsFault PeerCertificate
  | none => if verifier.mandatory then .error .noCertificate else .ok .anonymous
  | some c =>
    match c.chain with
    | [] => if verifier.mandatory then .error .noCertificate else .ok .anonymous
    | der :: more => do
      verifier.verifyClientCert der more now
      match verifier.verifySignature version c.transcript der c.scheme c.signature with
      | .ok () => .ok (.ofChain c.chain)
      | .error fault => .error fault.toTls

/-- The handshake as the listener decides it. -/
def complete (config : TlsConfig) (now : Int) (flight : ClientFlight) : Except TlsFault TlsSession := do
  let protocol ← chooseProtocol config.protocols flight.protocols
  let peer ← authenticate config.verifier flight.version now flight.credentials
  return ⟨flight.version, protocol, peer⟩

/-- A handshake with a client that holds a key. -/
def run (config : TlsConfig) (now : Int) (hello : ClientHello) (random : Nat := 1) (transcript : Bytes := []) :
    Except TlsFault TlsSession :=
  complete config now ⟨hello.version, hello.protocols, hello.identity.map (present · random transcript)⟩

/-- A client that comes back to the listener that it last got a session from takes that session up. -/
def resumes (last : Option Nat) (listener : Nat) : Bool :=
  last == some listener

end Handshake
end PairedTls
