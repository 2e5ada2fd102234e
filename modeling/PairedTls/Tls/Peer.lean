import PairedTls.Certificate.Basic

namespace PairedTls

/-- Captured once for each connection; a client without a certificate has none. -/
structure PeerCertificate where
  cert : Option Certificate
  deriving DecidableEq, Repr

namespace PeerCertificate

def anonymous : PeerCertificate := ⟨none⟩

def ofChain (chain : List Bytes) : PeerCertificate :=
  ⟨chain.head?.bind fun der => (Certificate.ofDer der).toOption⟩

def get (p : PeerCertificate) : Option Certificate :=
  p.cert

/-- What a handler gets when it asks for the peer; a request that nothing was attached to is anonymous. -/
def ofRequest (attached : Option PeerCertificate) : PeerCertificate :=
  attached.getD anonymous

def attachedCertificate (attached : Option PeerCertificate) : Option Certificate :=
  attached.bind PeerCertificate.cert

def debug (p : PeerCertificate) : String :=
  match p.cert with
  | none => "PeerCertificate(None)"
  | some c => "PeerCertificate(Some(" ++ c.debug ++ "))"

end PeerCertificate
end PairedTls
