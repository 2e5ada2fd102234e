import PairedTls.Identity.ServerKey

namespace PairedTls.Certificate

def subjectCountry : String := "IT"
def subjectOrganization : String := "GamesOnWhales"
def subjectCommonName : String := "localhost"

def validitySeconds : Int := 630720000

def encodeAttribute (id : ObjectId.Id) (text : String) : Bytes :=
  Der.writeSet [Der.writeSequence [Der.writeObjectId id, Der.write 0x0C (Bytes.ofString text)]]

def fixedName : Bytes :=
  Der.writeSequence
    [encodeAttribute ObjectId.countryName subjectCountry,
     encodeAttribute ObjectId.organizationName subjectOrganization,
     encodeAttribute ObjectId.commonName subjectCommonName]

def encodeBody (key : KeyPair) (notBefore notAfter : CertTime) : Bytes :=
  Der.writeSequence
    [Der.write (Der.Strict.contextTag 0) (Der.writeNatural 2),
     Der.writeNatural 1,
     Der.write Der.Strict.sequenceTag key.signatureAlgorithm,
     fixedName,
     Der.writeSequence [notBefore.encode, notAfter.encode],
     fixedName,
     key.publicInfo]

def encodeSigned (key : KeyPair) (body signature : Bytes) : Bytes :=
  Der.writeSequence
    [body, Der.write Der.Strict.sequenceTag key.signatureAlgorithm, Der.writeBits signature]

/-- The certificate of `key` at a moment; none where a time has no four-digit year or the key does not
sign. -/
def build? (key : KeyPair) (now : Int) (nonce : Nat) : Option Certificate := do
  let notBefore ← CertTime.ofNanos? now
  let notAfter ← CertTime.ofNanos? (now + validitySeconds * 1000000000)
  let body := encodeBody key notBefore notAfter
  let signature ← key.sign? nonce body
  return ⟨encodeSigned key body signature⟩

def drawNonce (key : KeyPair) (randoms : List Nat) : Nat × List Nat :=
  if key.isRsa then (1, randoms) else (randoms.headD 1, randoms.tail)

def generate (key : ServerKey) : Act IdentityError Certificate := do
  let w ← get
  let (nonce, rest) := drawNonce key.pair w.randoms
  set { w with randoms := rest }
  match build? key.pair w.now nonce with
  | some c => return c
  | none =>
    Act.log ⟨.error, target, "Error signing certificate", [("error", .shown "the key does not sign")]⟩
    throw .signing

end PairedTls.Certificate
