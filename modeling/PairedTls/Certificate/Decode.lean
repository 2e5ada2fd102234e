import PairedTls.Certificate.Time
import PairedTls.Der.ObjectId

namespace PairedTls

structure NameAttribute where
  id : ObjectId.Id
  valueTag : Nat
  value : Bytes
  deriving DecidableEq, Repr

structure AlgorithmId where
  id : ObjectId.Id
  parameters : Option Bytes
  deriving DecidableEq, Repr

structure KeyInfo where
  /-- From the outer tag to the end of the key; what the outer length adds to that is left out. -/
  raw : Bytes
  algorithm : AlgorithmId
  key : Bytes
  deriving DecidableEq, Repr

/-- What a certificate says by the tolerant rules; bytes after the outer element are ignored. -/
structure CertFields where
  signed : Bytes
  version : Nat
  serial : Bytes
  issuer : List NameAttribute
  notBefore : CertTime
  notAfter : CertTime
  subject : List NameAttribute
  keyInfo : KeyInfo
  signatureAlgorithm : AlgorithmId
  signature : Bytes
  deriving DecidableEq, Repr

namespace CertFields
open Der

/-- Versions count from zero; a third version alone has extensions, but no reader insists on it. -/
def isV3 (f : CertFields) : Bool :=
  f.version == 2

def smallNumber? (bs : Bytes) : Option Nat := do
  let (content, _) ← readPrimitive Tag.integer bs
  let n ← Strict.natural content
  if n < UInt32.size then some n else none

def readVersion? (bs : Bytes) : Option (Nat × Bytes) := do
  if bs.isEmpty then some (0, bs)
  else
    let (e, rest) ← readElement bs
    if e.number ≠ 0 then some (0, bs)
    else if e.tagClass ≠ contextClass then none
    else
      let n ← smallNumber? e.content
      return (n, rest)

def readSerial? (bs : Bytes) : Option (Bytes × Bytes) := do
  let (e, rest) ← readNested bs
  if e.number = Tag.integer then some (e.content, rest) else none

/-- The identifier of an object, taken from any plain element, whatever its tag number. -/
def readObjectId? (bs : Bytes) : Option (ObjectId.Id × Bytes) := do
  let (e, rest) ← readElement bs
  if e.constructed then none else some (e.content, rest)

def readAlgorithm? (bs : Bytes) : Option (AlgorithmId × Bytes) := do
  let (body, rest) ← readContent Tag.sequence bs
  let (id, more) ← readObjectId? body
  if more.isEmpty then some (⟨id, none⟩, rest)
  else
    let (_, end') ← readElement more
    return (⟨id, some (consumed more end')⟩, rest)

def readAttribute? (bs : Bytes) : Option (NameAttribute × Bytes) := do
  let (body, rest) ← readContent Tag.sequence bs
  let (id, more) ← readObjectId? body
  let (value, _) ← readElement more
  return (⟨id, value.number, value.content⟩, rest)

def readAttributes : Nat → Bytes → List NameAttribute
  | 0, _ => []
  | fuel + 1, bs =>
    match readAttribute? bs with
    | some (a, rest) => a :: readAttributes fuel rest
    | none => []

def readRelativeName? (bs : Bytes) : Option (List NameAttribute × Bytes) := do
  let (body, rest) ← readContent Tag.set bs
  match readAttributes body.length body with
  | [] => none
  | attributes => some (attributes, rest)

/-- Stops without complaint where the next set cannot be read. -/
def readRelativeNames : Nat → Bytes → List NameAttribute
  | 0, _ => []
  | fuel + 1, bs =>
    match readRelativeName? bs with
    | some (attributes, rest) => attributes ++ readRelativeNames fuel rest
    | none => []

def readName? (bs : Bytes) : Option (List NameAttribute × Bytes) := do
  let (body, rest) ← readContent Tag.sequence bs
  return (readRelativeNames body.length body, rest)

def readTime? (bs : Bytes) : Option (CertTime × Bytes) := do
  let (e, rest) ← readElement bs
  let t ← CertTime.read? e
  return (t, rest)

def readValidity? (bs : Bytes) : Option ((CertTime × CertTime) × Bytes) := do
  let (body, rest) ← readContent Tag.sequence bs
  let (notBefore, more) ← readTime? body
  let (notAfter, _) ← readTime? more
  return ((notBefore, notAfter), rest)

def bits? (content : Bytes) : Option Bytes :=
  match content with
  | [] => none
  | [unused] => if unused = 0 then some [] else none
  | unused :: bits =>
    let last := (bits.getLast?.getD 0).toNat
    if unused ≤ 8 ∧ last % Nat.pow 2 unused.toNat = 0 then some bits else none

def readBits? (bs : Bytes) : Option (Bytes × Bytes) := do
  let (content, rest) ← readPrimitive Tag.bitString bs
  let bits ← bits? content
  return (bits, rest)

def readKeyInfo? (bs : Bytes) : Option (KeyInfo × Bytes) := do
  let (body, rest) ← readContent Tag.sequence bs
  let (algorithm, more) ← readAlgorithm? body
  let (key, unread) ← readBits? more
  return (⟨(consumed bs rest).take ((consumed bs rest).length - unread.length), algorithm, key⟩, rest)

/-- Skips an element with context tag `number` if it comes next. Whatever comes next has to be readable,
and the element must not be empty. -/
def skipUniqueId? (number : Nat) (bs : Bytes) : Option Bytes := do
  if bs.isEmpty then some bs
  else
    let (e, rest) ← readElement bs
    if e.number = number ∧ e.tagClass = contextClass then
      if e.content.isEmpty then none else some rest
    else some bs

def isExtension (content : Bytes) : Bool :=
  match readObjectId? content with
  | none => false
  | some (_, rest) =>
    let afterFlag := match readPrimitive Tag.boolean rest with
      | some ([_], more) => more
      | _ => rest
    (readTagged Tag.octetString afterFlag).isSome

def allExtensions : Nat → Bytes → Bool
  | 0, bs => bs.isEmpty
  | fuel + 1, bs =>
    bs.isEmpty ||
      match readContent Tag.sequence bs with
      | some (content, rest) => isExtension content && allExtensions fuel rest
      | none => false

/-- What is left of the signed part is a tag with number 3 and one sequence of extensions. -/
def skipExtensions? (bs : Bytes) : Option Bytes := do
  if bs.isEmpty then some bs
  else
    let (h, rest) ← readHeader bs
    if h.number ≠ 3 then none
    else
      let (body, unread) ← readContent Tag.sequence rest
      if unread.isEmpty ∧ allExtensions body.length body then some unread else none

structure Body where
  version : Nat
  serial : Bytes
  issuer : List NameAttribute
  validity : CertTime × CertTime
  subject : List NameAttribute
  keyInfo : KeyInfo

def readBody? (bs : Bytes) : Option (Body × Bytes) := do
  let (version, bs) ← readVersion? bs
  let (serial, bs) ← readSerial? bs
  let (_, bs) ← readAlgorithm? bs
  let (issuer, bs) ← readName? bs
  let (validity, bs) ← readValidity? bs
  let (subject, bs) ← readName? bs
  let (keyInfo, bs) ← readKeyInfo? bs
  let bs ← skipUniqueId? 1 bs
  let bs ← skipUniqueId? 2 bs
  let bs ← skipExtensions? bs
  return (⟨version, serial, issuer, validity, subject, keyInfo⟩, bs)

def decode? (der : Bytes) : Option CertFields := do
  let (outer, _) ← readContent Tag.sequence der
  let (inner, rest) ← readContent Tag.sequence outer
  let whole := consumed outer rest
  let (body, unread) ← readBody? inner
  let (algorithm, rest) ← readAlgorithm? rest
  let (signature, _) ← readBits? rest
  return {
    signed := whole.take (whole.length - unread.length)
    version := body.version
    serial := body.serial
    issuer := body.issuer
    notBefore := body.validity.1
    notAfter := body.validity.2
    subject := body.subject
    keyInfo := body.keyInfo
    signatureAlgorithm := algorithm
    signature := signature }

end CertFields
end PairedTls
