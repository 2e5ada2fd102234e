import PairedTls.Certificate.Decode
import PairedTls.Key.Rsa
import PairedTls.World

namespace PairedTls

/-- A certificate is its encoding, bytes after the outer element included. -/
structure Certificate where
  der : Bytes
  deriving DecidableEq, Repr

structure SubjectName where
  country : Option String
  organization : Option String
  commonName : Option String
  deriving DecidableEq, Repr

structure RsaParameters where
  modulusBits : Nat
  publicExponent : Nat
  deriving DecidableEq, Repr

namespace SubjectName

def empty : SubjectName := ⟨none, none, none⟩

/-- Text of the four kinds of string that are a subset of UTF-8. -/
def attributeText? (a : NameAttribute) : Option String :=
  if [Der.Tag.utf8Text, Der.Tag.numericText, Der.Tag.printableText, Der.Tag.ia5Text].contains a.valueTag then
    Utf8.text? a.value
  else none

/-- Only the first attribute of a type counts, readable or not. -/
def firstText? (id : ObjectId.Id) (attributes : List NameAttribute) : Option String :=
  (attributes.find? (·.id == id)).bind attributeText?

def ofAttributes (attributes : List NameAttribute) : SubjectName where
  country := firstText? ObjectId.countryName attributes
  organization := firstText? ObjectId.organizationName attributes
  commonName := firstText? ObjectId.commonName attributes

def display (n : SubjectName) : String :=
  let part (tag : String) (value : Option String) := value.toList.map (tag ++ "=" ++ ·)
  ", ".intercalate (part "C" n.country ++ part "O" n.organization ++ part "CN" n.commonName)

def debug (n : SubjectName) : String :=
  Text.record "SubjectName"
    [("country", Text.quotedOption n.country), ("organization", Text.quotedOption n.organization),
     ("common_name", Text.quotedOption n.commonName)] false

end SubjectName

def unsignedBitLength (b : Bytes) : Nat :=
  match Bytes.significant b with
  | [] => 0
  | top :: rest => 8 * rest.length + (top.toNat.log2 + 1)

/-- The number that `b` writes, gathered in 64 bits; what does not fit is refused. -/
def exponentValue (b : Bytes) : Except IdentityError UInt64 :=
  let digits := Bytes.significant b
  if 8 < digits.length then .error (.wideExponent digits.length)
  else .ok (digits.foldl (fun acc d => (acc <<< 8) ||| d.toUInt64) 0)

/-- What kind of key a certificate holds, as its algorithm says; the key itself has to be readable. -/
inductive HeldKey where
  | rsa (modulus exponent : Bytes)
  | notRsa

namespace HeldKey
open Der

/-- Two zero bytes at the front are one too many. -/
def integer? (bs : Bytes) : Option (Bytes × Bytes) := do
  let (content, rest) ← readPrimitive Tag.integer bs
  match content with
  | [] => none
  | 0 :: 0 :: _ => none
  | _ => some (content, rest)

def ofInfo? (info : KeyInfo) : Option HeldKey := do
  let id := info.algorithm.id
  if id = ObjectId.rsaEncryption then
    let (body, _) ← readContent Tag.sequence info.key
    let (modulus, rest) ← integer? body
    let (exponent, _) ← integer? rest
    return .rsa modulus exponent
  else if id = ObjectId.dsa then
    let _ ← integer? info.key
    return .notRsa
  else if id = ObjectId.gost2001 ∨ id = ObjectId.gost2012Short ∨ id = ObjectId.gost2012Long then
    let _ ← readTagged Tag.octetString info.key
    return .notRsa
  else return .notRsa

end HeldKey

namespace Certificate

def fields (c : Certificate) : Except IdentityError CertFields :=
  match CertFields.decode? c.der with
  | some f => .ok f
  | none => .error .certificate

def ofDer (der : Bytes) : Except IdentityError Certificate := do
  let c : Certificate := ⟨der⟩
  let _ ← c.fields
  return c

def target : String := "wolf_tls::identity::certificate"

def ofPem (text : Bytes) : Act IdentityError Certificate := do
  match Pem.first Pem.certificate? (Pem.itemsOfText text) with
  | .ok der => Act.ofExcept (ofDer der)
  | .error fault =>
    Act.log ⟨.error, target, "Unable to decode PEM certificate", [("error", .shown fault.message)]⟩
    throw (.certificatePem fault)

def fileText (files : Files) (path : String) : Except FileFault Bytes := do
  let content ← files.read path
  if (Utf8.decode? content).isSome then .ok content else .error .notText

/-- Hands the text of a file to a reader. What goes wrong is told: no text by `unread`, a text that the reader refuses
by `spoilt`. -/
def throughFile {α : Type} (read : Bytes → Act IdentityError α) (unread : FileFault → Log.Event) (spoilt : Log.Event)
    (path : String) : Act IdentityError α := do
  match fileText (← get).files path with
  | .error fault =>
    Act.log (unread fault)
    throw (.unreadable path fault)
  | .ok text =>
    tryCatch (read text) fun e => do
      Act.log spoilt
      throw e

def ofFile (path : String) : Act IdentityError Certificate :=
  throughFile ofPem
    (fun fault => ⟨.error, target, "Error reading certificate",
      [("path", .shown path), ("error", .shown fault.message)]⟩)
    ⟨.error, target, "Certificate file is not valid PEM", [("path", .shown path)]⟩ path

def toPem (c : Certificate) : Bytes :=
  Pem.block Pem.certificateLabel c.der

def publicKeyPem (c : Certificate) : Except IdentityError Bytes := do
  return Pem.block Pem.publicKeyLabel (← c.fields).keyInfo.raw

def signature (c : Certificate) : Except IdentityError Bytes := do
  return (← c.fields).signature

def fingerprint (c : Certificate) : String :=
  Hex.encode (Sha2.sha256 c.der)

def debug (c : Certificate) : String :=
  Text.record "Certificate" [("sha256", Text.quoted c.fingerprint)] false

def subject (c : Certificate) : Except IdentityError SubjectName := do
  return SubjectName.ofAttributes (← c.fields).subject

def issuer (c : Certificate) : Except IdentityError SubjectName := do
  return SubjectName.ofAttributes (← c.fields).issuer

def serial (c : Certificate) : Except IdentityError Bytes := do
  return (← c.fields).serial

def isV3 (c : Certificate) : Except IdentityError Bool := do
  return (← c.fields).isV3

def notBefore (c : Certificate) : Except IdentityError CertTime := do
  return (← c.fields).notBefore

def notAfter (c : Certificate) : Except IdentityError CertTime := do
  return (← c.fields).notAfter

def rsaParameters (c : Certificate) : Except IdentityError RsaParameters := do
  match HeldKey.ofInfo? (← c.fields).keyInfo with
  | none => .error .publicKey
  | some .notRsa => .error .notRsa
  | some (.rsa modulus exponent) =>
    let value ← exponentValue exponent
    return ⟨unsignedBitLength modulus, value.toNat⟩

/-- Holds of signatures with SHA-256 and RSA that the embedded key made. The key is taken from the raw
key bits, whatever algorithm the certificate gives for it. -/
def verifySelfSignature (c : Certificate) : Except IdentityError Unit := do
  let f ← c.fields
  if f.signatureAlgorithm.id ≠ ObjectId.sha256WithRsa then
    .error (.signatureAlgorithm (ObjectId.text f.signatureAlgorithm.id))
  else
    match Rsa.PublicKey.decode? f.keyInfo.key with
    | some key =>
      if Rsa.verifies key .sha256 f.signed f.signature then .ok () else .error .signatureMismatch
    | none => .error .signatureMismatch

end Certificate
end PairedTls
