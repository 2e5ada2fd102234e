import PairedTls.Bytes

namespace PairedTls.Utf8

def encode (cs : List Char) : Bytes :=
  cs.flatMap String.utf8EncodeChar

def continues (b : UInt8) : Bool :=
  0x80 ≤ b && b ≤ 0xBF

def low6 (b : UInt8) : Nat :=
  b.toNat % 64

def secondOk (lead second : UInt8) : Bool :=
  if lead == 0xE0 then 0xA0 ≤ second && second ≤ 0xBF
  else if lead == 0xED then 0x80 ≤ second && second ≤ 0x9F
  else if lead == 0xF0 then 0x90 ≤ second && second ≤ 0xBF
  else if lead == 0xF4 then 0x80 ≤ second && second ≤ 0x8F
  else continues second

/-- The character that starts at `lead`, if there is one, and how many of the following bytes belong
to it or to the faulty sequence. -/
def step (lead : UInt8) (rest : Bytes) : Option Char × Nat :=
  if lead < 0x80 then (some (Char.ofNat lead.toNat), 0)
  else if lead < 0xC2 then (none, 0)
  else if lead < 0xE0 then
    match rest with
    | b :: _ => if continues b then (some (Char.ofNat (lead.toNat % 32 * 64 + low6 b)), 1) else (none, 0)
    | [] => (none, 0)
  else if lead < 0xF0 then
    match rest with
    | b :: c :: _ =>
      if !secondOk lead b then (none, 0)
      else if continues c then (some (Char.ofNat (lead.toNat % 16 * 4096 + low6 b * 64 + low6 c)), 2)
      else (none, 1)
    | [b] => (none, if secondOk lead b then 1 else 0)
    | [] => (none, 0)
  else if lead < 0xF5 then
    match rest with
    | b :: c :: d :: _ =>
      if !secondOk lead b then (none, 0)
      else if !continues c then (none, 1)
      else if continues d then
        (some (Char.ofNat (lead.toNat % 8 * 262144 + low6 b * 4096 + low6 c * 64 + low6 d)), 3)
      else (none, 2)
    | [b, c] => (none, if !secondOk lead b then 0 else if continues c then 2 else 1)
    | [b] => (none, if secondOk lead b then 1 else 0)
    | [] => (none, 0)
  else (none, 0)

def decode? (bs : Bytes) : Option (List Char) :=
  match bs with
  | [] => some []
  | lead :: rest =>
    match step lead rest with
    | (some c, n) => (decode? (rest.drop n)).map (c :: ·)
    | (none, _) => none
termination_by bs.length
decreasing_by simp only [List.length_drop, List.length_cons]; omega

def decodeLossy (bs : Bytes) : List Char :=
  match bs with
  | [] => []
  | lead :: rest =>
    let (c, n) := step lead rest
    c.getD (Char.ofNat 0xFFFD) :: decodeLossy (rest.drop n)
termination_by bs.length
decreasing_by simp only [List.length_drop, List.length_cons]; omega

def text? (bs : Bytes) : Option String :=
  (decode? bs).map String.ofList

def textLossy (bs : Bytes) : String :=
  String.ofList (decodeLossy bs)

end PairedTls.Utf8
