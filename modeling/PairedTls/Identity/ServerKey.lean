import PairedTls.Certificate.Basic
import PairedTls.Key.Pair

namespace PairedTls

/-- Keeps the encoding that it was read from, whichever format that is. -/
structure ServerKey where
  pair : KeyPair
  der : Bytes
  deriving DecidableEq, Repr

namespace ServerKey

def modulusBits : Nat := 2048
def publicExponent : Nat := 65537

def target : String := "wolf_tls::identity::key"

def ofDer? (der : Bytes) : Option ServerKey :=
  (KeyPair.ofDer? der).map (⟨·, der⟩)

def suitable (n : Nat) : Bool :=
  Rsa.bitLength n == modulusBits / 2 && Modular.probablyPrime n

def nextPrime? : List Nat → Option (Nat × List Nat)
  | [] => none
  | n :: rest => if suitable n then some (n, rest) else nextPrime? rest

/-- The first later prime that makes a key of the full size together with `p`. -/
def complete? (p : Nat) : List Nat → Option (Rsa.PrivateKey × List Nat)
  | [] => none
  | q :: rest =>
    match if suitable q then Rsa.PrivateKey.ofPrimes? p q publicExponent else none with
    | some key => if Rsa.bitLength key.modulus = modulusBits then some (key, rest) else complete? p rest
    | none => complete? p rest

def ofRsa (key : Rsa.PrivateKey) : ServerKey :=
  ⟨.rsa key, KeyPair.encodeRsa key⟩

/-- A fresh RSA key. Which numbers are tried is up to the source of random numbers. -/
def generate : Act IdentityError ServerKey := do
  let w ← get
  match (nextPrime? w.randoms).bind fun (p, rest) => complete? p rest with
  | some (key, rest) =>
    set { w with randoms := rest }
    return ofRsa key
  | none =>
    Act.log ⟨.error, target, "Unable to generate 2048-bit RSA key", [("error", .shown "no suitable primes")]⟩
    throw .keyGeneration

def readPem (text : Bytes) : Except KeyFault ServerKey :=
  match Pem.Envelope.read text with
  | .error fault => .error (.envelope fault)
  | .ok der =>
    match ofDer? der with
    | some key => .ok key
    | none => .error .unknownKey

def ofPem (text : Bytes) : Act IdentityError ServerKey := do
  match readPem text with
  | .ok key => return key
  | .error fault =>
    Act.log ⟨.error, target, "Unable to parse private key", [("error", .shown fault.message)]⟩
    throw (.key fault)

def ofFile (path : String) : Act IdentityError ServerKey :=
  Certificate.throughFile ofPem
    (fun fault => ⟨.error, target, "Error reading private key",
      [("path", .shown path), ("error", .shown fault.message)]⟩)
    ⟨.error, target, "Private key file is not valid PEM", [("path", .shown path)]⟩ path

def toPem (k : ServerKey) : Bytes :=
  Pem.block Pem.privateKeyLabel k.der

/-- The key as the TLS layer takes it, always declared to be of the wrapped format. -/
def privateKeyDer (k : ServerKey) : KeyFormat × Bytes :=
  (.pkcs8, k.der)

def isRsa (k : ServerKey) : Bool :=
  k.pair.isRsa

def debug (k : ServerKey) : String :=
  Text.record "ServerKey" [("rsa", Log.flagText k.isRsa)] true

end ServerKey
end PairedTls
