import PairedTls.Bytes

namespace PairedTls.Http

def isWord (b : UInt8) : Bool :=
  let c := Char.ofNat b.toNat
  b < 128 && (c.isAlphanum || "!#$%&'*+-.^_\x60|~".toList.contains c)

def isMethod (s : String) : Bool :=
  let bs := Bytes.ofString s
  !bs.isEmpty && bs.all isWord

namespace Target

def longest : Nat := 65534

def within (b : UInt8) (low high : Nat) : Bool :=
  low ≤ b.toNat && b.toNat ≤ high

def isPathByte (b : UInt8) : Bool :=
  b == 0x21 || within b 0x24 0x3B || b == 0x3D || within b 0x40 0x5F || within b 0x61 0x7A || b == 0x7C ||
    b == 0x7E || within b 0x7F 0xFF || b == 0x22 || b == 0x7B || b == 0x7D

def isQueryByte (b : UInt8) : Bool :=
  b == 0x21 || within b 0x24 0x3B || b == 0x3D || within b 0x3F 0xFF

def slash : UInt8 := 0x2F
def question : UInt8 := 0x3F
def hash : UInt8 := 0x23
def colon : UInt8 := 0x3A
def at' : UInt8 := 0x40
def percent : UInt8 := 0x25

def path? (bs : Bytes) : Option Bytes :=
  let path := bs.takeWhile fun b => b != question && b != hash
  let rest := bs.drop path.length
  let query := match rest with
    | b :: rest => if b == question then rest.takeWhile (· != hash) else []
    | [] => []
  if path.all isPathByte && query.all isQueryByte then some (if path.isEmpty then [slash] else path) else none

def isAuthorityByte (b : UInt8) : Bool :=
  let c := Char.ofNat b.toNat
  b < 128 && (c.isAlphanum || "!$&'()*+,-.:;=@[]_~".toList.contains c)

structure Authority where
  colons : Nat
  opened : Bool
  closed : Bool
  percent : Bool
  atEnd : Bool

namespace Authority

def start : Authority := ⟨0, false, false, false, false⟩

def mostColons : Nat := 8

/-- Colons and percent signs count anew after an at sign or a closing bracket. -/
def step? (a : Authority) (b : UInt8) : Option Authority :=
  let a := { a with atEnd := false }
  if b = colon then if mostColons ≤ a.colons then none else some { a with colons := a.colons + 1 }
  else if b = 0x5B then if a.percent ∨ a.opened then none else some { a with opened := true }
  else if b = 0x5D then
    if !a.opened ∨ a.closed then none else some { a with closed := true, colons := 0, percent := false }
  else if b = at' then some { a with colons := 0, percent := false, atEnd := true }
  else if b = Target.percent then some { a with percent := true }
  else if isAuthorityByte b then some a
  else none

def isWhole (a : Authority) : Bool :=
  a.opened == a.closed && a.colons ≤ 1 && !a.atEnd && !a.percent

end Authority

def authority? (bs : Bytes) : Option (Bytes × Bytes) :=
  let front := bs.takeWhile fun b => b != slash && b != question && b != hash
  match front.foldlM Authority.step? Authority.start with
  | some a => if a.isWhole then some (front, bs.drop front.length) else none
  | none => none

def isSchemeByte (b : UInt8) : Bool :=
  let c := Char.ofNat b.toNat
  b < 128 && (c.isAlphanum || c == '+' || c == '-' || c == '.')

def longestScheme : Nat := 64

inductive Scheme where
  | absent
  | tooLong
  | present (rest : Bytes)

def scheme (bs : Bytes) : Scheme :=
  let name := bs.takeWhile isSchemeByte
  if 3 < bs.length ∧ [colon, slash, slash].isPrefixOf (bs.drop name.length) then
    if longestScheme < name.length then .tooLong else .present (bs.drop (name.length + 3))
  else .absent

/-- The path of a target; empty for an authority that stands alone. -/
def parseBytes? (bs : Bytes) : Option Bytes :=
  if longest < bs.length then none
  else
    match bs with
    | [] => none
    | first :: rest =>
      if first = slash then path? bs
      else if first = 0x2A ∧ rest = [] then some bs
      else
        match scheme bs with
        | .tooLong => none
        | .absent =>
          match authority? bs with
          | some (_, []) => some []
          | _ => none
        | .present rest =>
          match authority? rest with
          | some (_ :: _, rest) => path? rest
          | _ => none

end Target

/-- The path that a request is for: routing looks at nothing else of a path, a whole address, an authority or an
asterisk. -/
def targetPath? (s : String) : Option Bytes :=
  Target.parseBytes? (Bytes.ofString s)

end PairedTls.Http
