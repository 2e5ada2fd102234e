import PairedTls.Base64
import PairedTls.Text.Utf8

namespace PairedTls.Pem

def lineWidth : Nat := 64

def newline : UInt8 := 10

def beginMark : Bytes := Bytes.ofString "-----BEGIN "
def endMark : Bytes := Bytes.ofString "-----END "
def dashes : Bytes := Bytes.ofString "-----"

def certificateLabel : Bytes := Bytes.ofString "CERTIFICATE"
def publicKeyLabel : Bytes := Bytes.ofString "PUBLIC KEY"
def privateKeyLabel : Bytes := Bytes.ofString "PRIVATE KEY"

/-- Cuts a list into pieces of `n + 1` with a shorter one at the end. -/
def chunks {α : Type} (n : Nat) (xs : List α) : List (List α) :=
  match xs with
  | [] => []
  | x :: rest => (x :: rest.take n) :: chunks n (rest.drop n)
termination_by xs.length
decreasing_by simp only [List.length_drop, List.length_cons]; omega

def bodyLines (der : Bytes) : List Bytes :=
  chunks (lineWidth - 1) (Base64.encode der)

def beginLine (label : Bytes) : Bytes := beginMark ++ label ++ dashes
def endLine (label : Bytes) : Bytes := endMark ++ label ++ dashes

def blockLines (label der : Bytes) : List Bytes :=
  beginLine label :: bodyLines der ++ [endLine label]

def block (label der : Bytes) : Bytes :=
  (blockLines label der).flatMap (· ++ [newline])

structure Buffer where
  bytes : Bytes

namespace Buffer

def empty : Buffer := ⟨[]⟩

def writeBlock (b : Buffer) (label der : Bytes) : Buffer :=
  ⟨b.bytes ++ block label der⟩

def pending (b : Buffer) : Nat :=
  b.bytes.length

def read (b : Buffer) (n : Nat) : Bytes × Buffer :=
  (b.bytes.take n, ⟨b.bytes.drop n⟩)

def drain (b : Buffer) : String :=
  Utf8.textLossy (b.read b.pending).1

end Buffer
end PairedTls.Pem
