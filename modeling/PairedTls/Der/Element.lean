import PairedTls.Bytes

namespace PairedTls.Der

structure Header where
  tagClass : Nat
  constructed : Bool
  number : Nat
  /-- Absent for the indefinite form, which an end marker closes. -/
  length : Option Nat

structure Element where
  tagClass : Nat
  constructed : Bool
  number : Nat
  content : Bytes

namespace Tag
def boolean : Nat := 1
def integer : Nat := 2
def bitString : Nat := 3
def octetString : Nat := 4
def utf8Text : Nat := 12
def sequence : Nat := 16
def set : Nat := 17
def numericText : Nat := 18
def printableText : Nat := 19
def ia5Text : Nat := 22
def utcTime : Nat := 23
def generalizedTime : Nat := 24
end Tag

def contextClass : Nat := 2

/-- A tag number in base 128, over at most `fuel` bytes, kept to 32 bits. -/
def longNumber : Nat → Nat → Bytes → Option (Nat × Bytes)
  | 0, _, _ => none
  | _, _, [] => none
  | fuel + 1, acc, b :: rest =>
    let n := (acc * 128 + b.toNat % 128) % UInt32.size
    if b.toNat < 128 then some (n, rest) else longNumber fuel n rest

/-- A length may be spelled with more bytes than it needs. -/
def readLength : Bytes → Option (Option Nat × Bytes)
  | [] => none
  | b :: rest =>
    let n := b.toNat
    if n < 128 then some (some n, rest)
    else if n = 128 then some (none, rest)
    else if n = 255 then none
    else
      let count := n - 128
      let spelled := rest.take count
      if spelled.length < count ∨ 8 < (Bytes.significant spelled).length then none
      else some (some (Bytes.toNat spelled), rest.drop count)

def readHeader : Bytes → Option (Header × Bytes)
  | [] => none
  | b :: rest => do
    let n := b.toNat
    let (number, rest) ← if n % 32 = 31 then longNumber 5 0 rest else some (n % 32, rest)
    let (length, rest) ← readLength rest
    return (⟨n / 64, n / 32 % 2 = 1, number, length⟩, rest)

def splitExact (n : Nat) (bs : Bytes) : Option (Bytes × Bytes) :=
  let front := bs.take n
  if front.length < n then none else some (front, bs.drop n)

def readElement (bs : Bytes) : Option (Element × Bytes) := do
  let (h, rest) ← readHeader bs
  let n ← h.length
  let (content, rest) ← splitExact n rest
  return (⟨h.tagClass, h.constructed, h.number, content⟩, rest)

def readTagged (number : Nat) (bs : Bytes) : Option (Element × Bytes) := do
  let (e, rest) ← readElement bs
  if e.number = number then some (e, rest) else none

def readPrimitive (number : Nat) (bs : Bytes) : Option (Bytes × Bytes) := do
  let (e, rest) ← readTagged number bs
  if e.constructed then none else some (e.content, rest)

def readContent (number : Nat) (bs : Bytes) : Option (Bytes × Bytes) := do
  let (e, rest) ← readTagged number bs
  return (e.content, rest)

def consumed (bs rest : Bytes) : Bytes :=
  bs.take (bs.length - rest.length)

mutual
/-- Skips the content that follows a header and says whether it was an end marker. -/
def skipContent (depth fuel : Nat) (h : Header) (bs : Bytes) : Option (Bool × Bytes) :=
  match depth with
  | 0 => none
  | depth + 1 =>
    match h.length with
    | some n =>
      if n = 0 ∧ h.number = 0 then some (true, bs)
      else (splitExact n bs).map fun (_, rest) => (false, rest)
    | none => if h.constructed then (skipUntilEnd depth fuel bs).map fun rest => (false, rest) else none
termination_by (depth, 0)

def skipUntilEnd (depth fuel : Nat) (bs : Bytes) : Option Bytes :=
  match fuel with
  | 0 => none
  | fuel + 1 => do
    let (h, rest) ← readHeader bs
    let (ended, rest) ← skipContent depth fuel h rest
    if ended then some rest else skipUntilEnd depth fuel rest
termination_by (depth, fuel + 1)
end

def maxDepth : Nat := 50

/-- An element of which the length may be indefinite; its content then stops before the end marker. -/
def readNested (bs : Bytes) : Option (Element × Bytes) := do
  let (h, start) ← readHeader bs
  let (_, rest) ← skipContent maxDepth bs.length h start
  let whole := consumed start rest
  let content := if h.length.isNone then whole.take (whole.length - 2) else whole
  return (⟨h.tagClass, h.constructed, h.number, content⟩, rest)

end PairedTls.Der
