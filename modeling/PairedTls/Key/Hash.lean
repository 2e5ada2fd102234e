import PairedTls.Sha2
import PairedTls.Der.Writer

namespace PairedTls

inductive Hash where
  | sha256
  | sha384
  | sha512
  deriving DecidableEq, Repr

namespace Hash

def digest : Hash → Bytes → Bytes
  | .sha256 => Sha2.sha256
  | .sha384 => Sha2.sha384
  | .sha512 => Sha2.sha512

def size : Hash → Nat
  | .sha256 => 32
  | .sha384 => 48
  | .sha512 => 64

def objectId : Hash → Bytes
  | .sha256 => [0x60, 0x86, 0x48, 0x01, 0x65, 0x03, 0x04, 0x02, 0x01]
  | .sha384 => [0x60, 0x86, 0x48, 0x01, 0x65, 0x03, 0x04, 0x02, 0x02]
  | .sha512 => [0x60, 0x86, 0x48, 0x01, 0x65, 0x03, 0x04, 0x02, 0x03]

def digestInfo (h : Hash) (message : Bytes) : Bytes :=
  Der.writeSequence
    [Der.writeSequence [Der.writeObjectId h.objectId, Der.writeNull],
     Der.write Der.Strict.octetStringTag (h.digest message)]

end Hash
end PairedTls
