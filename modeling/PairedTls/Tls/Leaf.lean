import PairedTls.Der.Strict
import PairedTls.Der.ObjectId

namespace PairedTls

inductive LeafFault where
  | badEncoding
  | unsupportedVersion
  | algorithmMismatch
  | badExtension
  | criticalExtension
  deriving DecidableEq, Repr

def LeafFault.detail : LeafFault → String
  | .badEncoding => "BadEncoding"
  | .unsupportedVersion => "Other(OtherError(UnsupportedCertVersion))"
  | .algorithmMismatch => "Other(OtherError(SignatureAlgorithmMismatch))"
  | .badExtension => "Other(OtherError(ExtensionValueInvalid))"
  | .criticalExtension => "Other(OtherError(UnsupportedCriticalExtension))"

structure Leaf where
  keyInfo : Bytes
  deriving DecidableEq, Repr

namespace Leaf
open Der.Strict

/-- Elements of this size and more are refused. -/
def sizeLimit : Nat := 65535

def readLimited (tag : UInt8) (bs : Bytes) : Except LeafFault (Bytes × Bytes) :=
  match read tag bs with
  | some (content, rest) => if content.length < sizeLimit then .ok (content, rest) else .error .badEncoding
  | none => .error .badEncoding

def readWhole (tag : UInt8) (bs : Bytes) : Except LeafFault Bytes := do
  let (content, rest) ← readLimited tag bs
  if rest.isEmpty then .ok content else .error .badEncoding

def readVersion (bs : Bytes) : Except LeafFault Bytes :=
  match readLimited (contextTag 0) bs with
  | .error _ => .error .unsupportedVersion
  | .ok (content, rest) =>
    match readNatural content with
    | none => .error .badEncoding
    | some (n, more) =>
      if 256 ≤ n then .error .badEncoding
      else if n = 2 ∧ more.isEmpty then .ok rest
      else .error .unsupportedVersion

def readFlag (bs : Bytes) : Except LeafFault (Bool × Bytes) := do
  if bs.head? = some booleanTag then
    let (content, rest) ← readLimited booleanTag bs
    match content with
    | [0xFF] => .ok (true, rest)
    | [0x00] => .ok (false, rest)
    | _ => .error .badEncoding
  else .ok (false, bs)

/-- The last bytes of the standard extensions that are remembered; each may occur once. -/
def remembered : List UInt8 := [15, 17, 19, 30, 31, 37]

def rememberedNumber? : Bytes → Option UInt8
  | [0x55, 0x1D, n] => if remembered.contains n then some n else none
  | _ => none

def judge (seen : List UInt8) (id : Bytes) (critical : Bool) (value : Bytes) : Except LeafFault (List UInt8) :=
  match rememberedNumber? id with
  | none => if critical then .error .criticalExtension else .ok seen
  | some n =>
    if seen.contains n then .error .badExtension
    else if n = 15 then .ok (n :: seen)
    else do
      let _ ← readWhole sequenceTag value
      .ok (n :: seen)

def readExtension (seen : List UInt8) (content : Bytes) : Except LeafFault (List UInt8) := do
  let (id, rest) ← readLimited objectIdTag content
  let (critical, rest) ← readFlag rest
  let value ← readWhole octetStringTag rest
  judge seen id critical value

def readExtensions : Nat → List UInt8 → Bytes → Except LeafFault Unit
  | 0, _, bs => if bs.isEmpty then .ok () else .error .badEncoding
  | fuel + 1, seen, bs => do
    if bs.isEmpty then .ok ()
    else
      let (content, rest) ← readLimited sequenceTag bs
      let seen ← readExtension seen content
      readExtensions fuel seen rest

def readBody (algorithm body : Bytes) : Except LeafFault Leaf := do
  let rest ← readVersion body
  let (_, rest) ← readLimited integerTag rest
  let (named, rest) ← readLimited sequenceTag rest
  if named ≠ algorithm then .error .algorithmMismatch
  else
    let (_, rest) ← readLimited sequenceTag rest
    let (_, rest) ← readLimited sequenceTag rest
    let (_, rest) ← readLimited sequenceTag rest
    let (keyInfo, rest) ← readLimited sequenceTag rest
    if rest.isEmpty then .ok ⟨keyInfo⟩
    else
      let wrapped ← readWhole (contextTag 3) rest
      let extensions ← readWhole sequenceTag wrapped
      readExtensions extensions.length [] extensions
      .ok ⟨keyInfo⟩

def wholeBits (bs : Bytes) : Except LeafFault Bytes := do
  match ← readWhole bitStringTag bs with
  | 0 :: bits => .ok bits
  | _ => .error .badEncoding

/-- Third version only, strict lengths, and nothing before, between or after the parts; names and times are not looked
into. -/
def ofDer (der : Bytes) : Except LeafFault Leaf := do
  let outer ← readWhole sequenceTag der
  let (body, rest) ← readLimited sequenceTag outer
  let (algorithm, rest) ← readLimited sequenceTag rest
  let _ ← wholeBits rest
  readBody algorithm body

def keyParts (l : Leaf) : Except LeafFault (Bytes × Bytes) := do
  let (algorithm, rest) ← readLimited sequenceTag l.keyInfo
  return (algorithm, ← wholeBits rest)

end Leaf
end PairedTls
