import PairedTls.Bytes

namespace PairedTls.Base64

def digit (n : Nat) : UInt8 :=
  if n < 26 then UInt8.ofNat (65 + n)
  else if n < 52 then UInt8.ofNat (71 + n)
  else if n < 62 then UInt8.ofNat (n - 4)
  else if n = 62 then 43 else 47

def value? (b : UInt8) : Option Nat :=
  if 65 ≤ b ∧ b ≤ 90 then some (b.toNat - 65)
  else if 97 ≤ b ∧ b ≤ 122 then some (b.toNat - 71)
  else if 48 ≤ b ∧ b ≤ 57 then some (b.toNat + 4)
  else if b = 43 then some 62
  else if b = 47 then some 63
  else none

def pad : UInt8 := 61

def encode : Bytes → Bytes
  | [] => []
  | [a] => [digit (a.toNat / 4), digit (a.toNat % 4 * 16), pad, pad]
  | [a, b] =>
    [digit (a.toNat / 4), digit (a.toNat % 4 * 16 + b.toNat / 16), digit (b.toNat % 16 * 4), pad]
  | a :: b :: c :: rest =>
    digit (a.toNat / 4) :: digit (a.toNat % 4 * 16 + b.toNat / 16) ::
      digit (b.toNat % 16 * 4 + c.toNat / 64) :: digit (c.toNat % 64) :: encode rest

/-- The bytes that digits without padding stand for; `none` for a lone last digit. The second
component holds the unused low bits. -/
def ofDigits : List Nat → Option (Bytes × Nat)
  | [] => some ([], 0)
  | [_] => none
  | [p, q] => some ([UInt8.ofNat (p * 4 + q / 16)], q % 16)
  | [p, q, r] => some ([UInt8.ofNat (p * 4 + q / 16), UInt8.ofNat (q % 16 * 16 + r / 4)], r % 4)
  | p :: q :: r :: s :: rest => do
    let (tail, loose) ← ofDigits rest
    return (UInt8.ofNat (p * 4 + q / 16) :: UInt8.ofNat (q % 16 * 16 + r / 4) ::
      UInt8.ofNat (r % 4 * 64 + s) :: tail, loose)

def digits? : Bytes → Option (List Nat)
  | [] => some []
  | b :: rest => do
    let d ← value? b
    let ds ← digits? rest
    return d :: ds

def splitPadding (text : Bytes) : Bytes × Bytes :=
  (text.takeWhile (· != pad), text.dropWhile (· != pad))

/-- Takes only what writing produces. -/
def decodeExact? (text : Bytes) : Option Bytes := do
  let (body, padding) := splitPadding text
  if text.length % 4 ≠ 0 ∨ 2 < padding.length ∨ padding.any (· != pad) then none
  else
    let ds ← digits? body
    let (bytes, loose) ← ofDigits ds
    if loose = 0 then some bytes else none

def blank (b : UInt8) : Bool :=
  b == 32 || (9 ≤ b && b ≤ 13)

/-- Skips blanks, does without padding and ignores the unused low bits of the last digit. -/
def decodeLoose? (text : Bytes) : Option Bytes := do
  let solid := text.filter (!blank ·)
  let (body, padding) := splitPadding solid
  if padding.any (· != pad) then none
  else if padding ≠ [] ∧ (solid.length % 4 ≠ 0 ∨ 2 < padding.length) then none
  else
    let ds ← digits? body
    let (bytes, _) ← ofDigits ds
    return bytes

end PairedTls.Base64
