import PairedTls.Der.Element

namespace PairedTls.Der.Strict

def sequenceTag : UInt8 := 0x30
def setTag : UInt8 := 0x31
def integerTag : UInt8 := 0x02
def bitStringTag : UInt8 := 0x03
def octetStringTag : UInt8 := 0x04
def nullTag : UInt8 := 0x05
def objectIdTag : UInt8 := 0x06
def booleanTag : UInt8 := 0x01

def contextTag (n : Nat) : UInt8 :=
  UInt8.ofNat (0xA0 + n)

/-- A length is spelled with as few bytes as possible. -/
def readLength : Bytes → Option (Nat × Bytes)
  | [] => none
  | b :: rest =>
    if b.toNat < 128 then some (b.toNat, rest)
    else do
      let count := b.toNat - 128
      if count = 0 ∨ 4 < count then none
      else
        let (spelled, rest) ← splitExact count rest
        let n := Bytes.toNat spelled
        if n < 128 ∨ spelled.head? = some 0 then none else some (n, rest)

/-- The tag byte and content of the first element; `number` 31 in the tag byte is not understood. -/
def readAny : Bytes → Option (UInt8 × Bytes × Bytes)
  | [] => none
  | tag :: rest =>
    if tag.toNat % 32 = 31 then none
    else do
      let (n, rest) ← readLength rest
      let (content, rest) ← splitExact n rest
      return (tag, content, rest)

def read (tag : UInt8) (bs : Bytes) : Option (Bytes × Bytes) := do
  let (found, content, rest) ← readAny bs
  if found = tag then some (content, rest) else none

def readOnly (tag : UInt8) (bs : Bytes) : Option Bytes := do
  let (content, rest) ← read tag bs
  if rest.isEmpty then some content else none

def readOptional (tag : UInt8) (bs : Bytes) : Option (Option Bytes × Bytes) :=
  match bs with
  | [] => some (none, [])
  | found :: _ =>
    if found = tag then (read tag bs).map fun (content, rest) => (some content, rest)
    else some (none, bs)

def natural (content : Bytes) : Option Nat :=
  match content with
  | [] => none
  | [b] => if b.toNat < 128 then some b.toNat else none
  | b :: c :: _ =>
    if 128 ≤ b.toNat ∨ (b = 0 ∧ c.toNat < 128) then none else some (Bytes.toNat content)

def readNatural (bs : Bytes) : Option (Nat × Bytes) := do
  let (content, rest) ← read integerTag bs
  let n ← natural content
  return (n, rest)

def readBits (bs : Bytes) : Option (Bytes × Bytes) := do
  let (content, rest) ← read bitStringTag bs
  match content with
  | 0 :: bits => some (bits, rest)
  | _ => none

end PairedTls.Der.Strict
