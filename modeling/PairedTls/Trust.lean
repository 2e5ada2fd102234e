import PairedTls.Certificate.Basic

namespace PairedTls

inductive TrustDecision where
  | trusted
  | untrusted
  | anonymous
  deriving DecidableEq, Repr

def TrustDecision.isTrusted : TrustDecision → Bool
  | .trusted => true
  | _ => false

/-- A certificate is trusted when exactly its bytes were paired. -/
structure PairedClients where
  certs : List Certificate
  deriving DecidableEq, Repr

namespace PairedClients

def empty : PairedClients := ⟨[]⟩

def isTrusted (p : PairedClients) (c : Certificate) : Bool :=
  p.certs.contains c

/-- Says whether the certificate is new. -/
def pair (p : PairedClients) (c : Certificate) : Bool × PairedClients :=
  if p.isTrusted c then (false, p) else (true, ⟨c :: p.certs⟩)

def unpair (p : PairedClients) (c : Certificate) : Bool × PairedClients :=
  (p.isTrusted c, ⟨p.certs.filter (· != c)⟩)

def size (p : PairedClients) : Nat :=
  p.certs.length

def isEmpty (p : PairedClients) : Bool :=
  p.certs.isEmpty

def evaluate (p : PairedClients) : Option Certificate → TrustDecision
  | none => .anonymous
  | some c => if p.isTrusted c then .trusted else .untrusted

def target : String := "wolf_tls::tls::trust"

def loadAll (p : PairedClients) : List String → Act IdentityError PairedClients
  | [] => return p
  | path :: rest => do
    let c ← Certificate.ofFile path
    loadAll (p.pair c).2 rest

/-- Pairs the certificates of all files, or fails at the first file that holds none. -/
def loadFiles (paths : List String) : Act IdentityError PairedClients := do
  let p ← loadAll empty paths
  Act.log ⟨.info, target, "Paired clients loaded", [("count", .number p.size)]⟩
  return p

end PairedClients
end PairedTls
