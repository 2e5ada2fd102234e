import PairedTls.Der.Strict

namespace PairedTls.Der

def writeLength (n : Nat) : Bytes :=
  if n < 128 then [UInt8.ofNat n]
  else UInt8.ofNat (128 + Bytes.widthOf n) :: Bytes.minimal n

def write (tag : UInt8) (content : Bytes) : Bytes :=
  tag :: writeLength content.length ++ content

def writeSequence (parts : List Bytes) : Bytes :=
  write Strict.sequenceTag parts.flatten

def writeSet (parts : List Bytes) : Bytes :=
  write Strict.setTag parts.flatten

def naturalContent (n : Nat) : Bytes :=
  let digits := Bytes.minimal n
  match digits with
  | [] => [0]
  | b :: _ => if b.toNat < 128 then digits else 0 :: digits

def writeNatural (n : Nat) : Bytes :=
  write Strict.integerTag (naturalContent n)

def writeBits (bits : Bytes) : Bytes :=
  write Strict.bitStringTag (0 :: bits)

def writeNull : Bytes :=
  write Strict.nullTag []

def writeObjectId (content : Bytes) : Bytes :=
  write Strict.objectIdTag content

end PairedTls.Der
