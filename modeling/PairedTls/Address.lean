import PairedTls.Hex

namespace PairedTls

inductive IpAddress where
  | v4 (a b c d : Nat)
  | v6 (groups : List Nat)
  deriving DecidableEq, Repr

structure SocketAddress where
  ip : IpAddress
  /-- The zone of an IPv6 address; zero for none. -/
  zone : Nat
  port : Nat
  deriving DecidableEq, Repr

namespace IpAddress

def digit? (radix : Nat) (c : Char) : Option Nat :=
  (Hex.value? c).filter (· < radix)

def readDigits (radix : Nat) (value count : Nat) : List Char → Nat × Nat × List Char
  | [] => (value, count, [])
  | c :: rest =>
    match digit? radix c with
    | some d => readDigits radix (value * radix + d) (count + 1) rest
    | none => (value, count, c :: rest)

def readNumber? (radix maxDigits limit : Nat) (zeroFirst : Bool) (cs : List Char) : Option (Nat × List Char) :=
  let (value, count, rest) := readDigits radix 0 0 cs
  if count = 0 ∨ maxDigits < count ∨ limit ≤ value ∨ (!zeroFirst && 1 < count && cs.head? == some '0') then none
  else some (value, rest)

def readChar? (c : Char) : List Char → Option (List Char)
  | [] => none
  | d :: rest => if d = c then some rest else none

def readOctet? (cs : List Char) : Option (Nat × List Char) :=
  readNumber? 10 3 256 false cs

def readV4? (cs : List Char) : Option ((Nat × Nat × Nat × Nat) × List Char) := do
  let (a, cs) ← readOctet? cs
  let (b, cs) ← readOctet? (← readChar? '.' cs)
  let (c, cs) ← readOctet? (← readChar? '.' cs)
  let (d, cs) ← readOctet? (← readChar? '.' cs)
  return ((a, b, c, d), cs)

def afterColon? (first : Bool) (cs : List Char) : Option (List Char) :=
  if first then some cs else readChar? ':' cs

/-- Up to `limit` groups of an IPv6 address; the last two may be written like an IPv4 address. -/
def readGroups (first : Bool) : Nat → List Char → List Nat × Bool × List Char
  | 0, cs => ([], false, cs)
  | limit + 1, cs =>
    let dotted := if 0 < limit then (afterColon? first cs).bind readV4? else none
    match dotted with
    | some ((a, b, c, d), rest) => ([a * 256 + b, c * 256 + d], true, rest)
    | none =>
      match (afterColon? first cs).bind (readNumber? 16 4 65536 true) with
      | some (g, rest) =>
        let (more, isDotted, rest) := readGroups false limit rest
        (g :: more, isDotted, rest)
      | none => ([], false, cs)

def readV6? (cs : List Char) : Option (List Nat × List Char) :=
  let (head, dotted, rest) := readGroups true 8 cs
  if head.length = 8 then some (head, rest)
  else if dotted then none
  else
    match rest with
    | ':' :: ':' :: rest =>
      let (tail, _, rest) := readGroups true (7 - head.length) rest
      some (head ++ List.replicate (8 - head.length - tail.length) 0 ++ tail, rest)
    | _ => none

def read? (cs : List Char) : Option (IpAddress × List Char) :=
  match readV4? cs with
  | some ((a, b, c, d), rest) => some (.v4 a b c d, rest)
  | none => (readV6? cs).map fun (groups, rest) => (.v6 groups, rest)

def parse? (s : String) : Option IpAddress :=
  match readV4? s.toList with
  | some ((a, b, c, d), []) => some (.v4 a b c d)
  | _ =>
    match readV6? s.toList with
    | some (groups, []) => some (.v6 groups)
    | _ => none

def hex (n : Nat) : String :=
  String.ofList (Nat.toDigits 16 n)

/-- Where the longest run of zeros starts and how long it is; the first of equally long ones counts. -/
def longestZeros (start : Nat) : List Nat → Nat × Nat
  | [] => (start, 0)
  | g :: rest =>
    let run := (g :: rest).takeWhile (· == 0)
    let (s, n) := longestZeros (start + 1) rest
    if n ≤ run.length ∧ 0 < run.length then (start, run.length) else (s, n)

def groupsText (groups : List Nat) : String :=
  ":".intercalate (groups.map hex)

def v4Text (a b c d : Nat) : String :=
  ".".intercalate ([a, b, c, d].map Nat.repr)

def text : IpAddress → String
  | .v4 a b c d => v4Text a b c d
  | .v6 groups =>
    match groups with
    | [0, 0, 0, 0, 0, 0xFFFF, x, y] => "::ffff:" ++ v4Text (x / 256) (x % 256) (y / 256) (y % 256)
    | _ =>
      let (start, n) := longestZeros 0 groups
      if n < 2 then groupsText groups
      else groupsText (groups.take start) ++ "::" ++ groupsText (groups.drop (start + n))

end IpAddress

namespace SocketAddress

def readPort? (cs : List Char) : Option (Nat × List Char) := do
  IpAddress.readNumber? 10 cs.length 65536 true (← IpAddress.readChar? ':' cs)

def readZone (cs : List Char) : Option (Nat × List Char) :=
  match cs with
  | '%' :: rest => IpAddress.readNumber? 10 rest.length UInt32.size true rest
  | _ => some (0, cs)

def parseV4? (cs : List Char) : Option SocketAddress := do
  let ((a, b, c, d), cs) ← IpAddress.readV4? cs
  let (port, cs) ← readPort? cs
  if cs.isEmpty then some ⟨.v4 a b c d, 0, port⟩ else none

def parseV6? (cs : List Char) : Option SocketAddress := do
  let (groups, cs) ← IpAddress.readV6? (← IpAddress.readChar? '[' cs)
  let (zone, cs) ← readZone cs
  let (port, cs) ← readPort? (← IpAddress.readChar? ']' cs)
  if cs.isEmpty then some ⟨.v6 groups, zone, port⟩ else none

def parse? (s : String) : Option SocketAddress :=
  (parseV4? s.toList).or (parseV6? s.toList)

def text (a : SocketAddress) : String :=
  match a.ip with
  | .v4 .. => a.ip.text ++ ":" ++ a.port.repr
  | .v6 _ =>
    "[" ++ a.ip.text ++ (if a.zone = 0 then "" else "%" ++ a.zone.repr) ++ "]:" ++ a.port.repr

end SocketAddress
end PairedTls
