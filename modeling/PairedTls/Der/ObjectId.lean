import PairedTls.Hex

namespace PairedTls.ObjectId

abbrev Id := Bytes

def rsaEncryption : Id := [0x2A, 0x86, 0x48, 0x86, 0xF7, 0x0D, 0x01, 0x01, 0x01]
def sha256WithRsa : Id := [0x2A, 0x86, 0x48, 0x86, 0xF7, 0x0D, 0x01, 0x01, 0x0B]
def dsa : Id := [0x2A, 0x86, 0x48, 0xCE, 0x38, 0x04, 0x01]
def ecPublicKey : Id := [0x2A, 0x86, 0x48, 0xCE, 0x3D, 0x02, 0x01]
def ecdsaSha256 : Id := [0x2A, 0x86, 0x48, 0xCE, 0x3D, 0x04, 0x03, 0x02]
def ecdsaSha384 : Id := [0x2A, 0x86, 0x48, 0xCE, 0x3D, 0x04, 0x03, 0x03]
def ecdsaSha512 : Id := [0x2A, 0x86, 0x48, 0xCE, 0x3D, 0x04, 0x03, 0x04]
def p256 : Id := [0x2A, 0x86, 0x48, 0xCE, 0x3D, 0x03, 0x01, 0x07]
def p384 : Id := [0x2B, 0x81, 0x04, 0x00, 0x22]
def p521 : Id := [0x2B, 0x81, 0x04, 0x00, 0x23]
def ed25519 : Id := [0x2B, 0x65, 0x70]
def gost2001 : Id := [0x2A, 0x85, 0x03, 0x02, 0x02, 0x13]
def gost2012Short : Id := [0x2A, 0x85, 0x03, 0x07, 0x01, 0x01, 0x01, 0x01]
def gost2012Long : Id := [0x2A, 0x85, 0x03, 0x07, 0x01, 0x01, 0x01, 0x02]
def countryName : Id := [0x55, 0x04, 0x06]
def organizationName : Id := [0x55, 0x04, 0x0A]
def commonName : Id := [0x55, 0x04, 0x03]

/-- The arcs after the first byte, each in base 128 and kept to 64 bits; the last one may stop short of
its end. -/
def arcs (acc : Nat) : Bytes → List Nat
  | [] => []
  | [b] => [(acc * 128 + b.toNat % 128) % UInt64.size]
  | b :: rest =>
    let n := (acc * 128 + b.toNat % 128) % UInt64.size
    if b.toNat < 128 then n :: arcs 0 rest else arcs n rest

def widestArc (width : Nat) : Bytes → Nat
  | [] => 0
  | b :: rest => if b.toNat < 128 then max (width + 1) (widestArc 0 rest) else widestArc (width + 1) rest

/-- Dotted arcs; plain hexadecimal bytes when an arc is wider than 64 bits. -/
def text : Id → String
  | [] => ""
  | [0] => "0"
  | b :: rest =>
    if 9 < widestArc 0 rest then " ".intercalate ((b :: rest).map fun x => Hex.encode [x])
    else
      ".".intercalate (([b.toNat / 40, b.toNat % 40] ++ arcs 0 rest).map Nat.repr)

end PairedTls.ObjectId
