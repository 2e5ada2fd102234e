import PairedTls.Identity.Store
import PairedTls.Session
import PairedTls.Tls.Verifier

namespace PairedTls

structure PrivateKeyDer where
  format : KeyFormat
  der : Bytes
  deriving DecidableEq, Repr

structure TlsSettings where
  chain : List Bytes
  key : PrivateKeyDer
  clientAuth : ClientAuth
  deriving DecidableEq, Repr

namespace TlsSettings

/-- A file that is there but is no regular file opens, and fails when it is read. -/
def loadChain (files : Files) (path : String) : Except TlsError (List Bytes) :=
  match files.read path with
  | .error .isDirectory => .error (.badChain path (.file .isDirectory))
  | .error fault => .error (.unreadableChain path (.file fault))
  | .ok content =>
    match Pem.every Pem.certificate? (Pem.itemsOfFile content) with
    | .error fault => .error (.badChain path (.content fault))
    | .ok [] => .error (.emptyChain path)
    | .ok chain => .ok chain

def privateKey? : Pem.Kind → Bytes → Option PrivateKeyDer
  | .rsaPrivateKey, der => some ⟨.pkcs1, der⟩
  | .ecPrivateKey, der => some ⟨.sec1, der⟩
  | .privateKey, der => some ⟨.pkcs8, der⟩
  | _, _ => none

def loadPrivateKey (files : Files) (path : String) : Except TlsError PrivateKeyDer :=
  match files.read path with
  | .error fault => .error (.badKey path (.file fault))
  | .ok content =>
    match Pem.first privateKey? (Pem.itemsOfFile content) with
    | .error fault => .error (.badKey path (.content fault))
    | .ok key => .ok key

def load (files : Files) (chainPath keyPath : String) (clientAuth : ClientAuth) :
    Except TlsError TlsSettings := do
  let chain ← loadChain files chainPath
  let key ← loadPrivateKey files keyPath
  return ⟨chain, key, clientAuth⟩

def ofIdentity (id : ServerIdentity) (clientAuth : ClientAuth) : TlsSettings :=
  let (format, der) := id.key.privateKeyDer
  ⟨[id.cert.der], ⟨format, der⟩, clientAuth⟩

def debug (s : TlsSettings) : String :=
  Text.record "TlsSettings"
    [("chain_len", s.chain.length.repr), ("client_auth", s.clientAuth.name)] true

end TlsSettings

structure TlsConfig where
  chain : List Bytes
  key : KeyPair
  verifier : Verifier
  protocols : List String
  sessions : Option ScopedStore
  deriving DecidableEq, Repr

namespace TlsConfig

def preferredProtocols : List String := ["h2", "http/1.1"]

def matchesKey (chain : List Bytes) (key : KeyPair) : Bool :=
  match chain with
  | [] => false
  | der :: _ =>
    match Leaf.ofDer der with
    | .ok leaf => Der.write Der.Strict.sequenceTag leaf.keyInfo == key.publicInfo
    | .error _ => false

/-- The key has to be readable in its format, and the first certificate has to hold its public half. -/
def build (s : TlsSettings) (session : Option SessionContext) : Except TlsError TlsConfig :=
  match KeyPair.ofFormat? s.key.format s.key.der with
  | none => .error .mismatch
  | some key =>
    if matchesKey s.chain key then
      .ok ⟨s.chain, key, ⟨s.clientAuth⟩, preferredProtocols, session.map (⟨·⟩)⟩
    else .error .mismatch

def canCache (c : TlsConfig) : Bool :=
  match c.sessions with
  | some store => store.canCache (SessionCache.empty SessionCache.defaultCapacity)
  | none => (SessionCache.empty SessionCache.defaultCapacity).canCache

end TlsConfig
end PairedTls
