import PairedTls.Duration

namespace PairedTls

structure ServerConfig where
  host : String
  port : UInt16
  handshakeTimeout : Duration
  requestTimeout : Duration
  requireClientCert : Bool
  sessionIdContext : Bool
  deriving DecidableEq, Repr

structure IdentityConfig where
  keyPath : String
  certPath : String
  pairedCerts : List String
  deriving DecidableEq, Repr

structure Config where
  server : ServerConfig
  identity : IdentityConfig
  deriving DecidableEq, Repr

namespace Config

def defaultServer : ServerConfig where
  host := "0.0.0.0"
  port := 47984
  handshakeTimeout := .ofSecs 5 (by decide)
  requestTimeout := .ofSecs 30 (by decide)
  requireClientCert := false
  sessionIdContext := false

def defaultIdentity : IdentityConfig where
  keyPath := "key.pem"
  certPath := "cert.pem"
  pairedCerts := []

def default : Config := ⟨defaultServer, defaultIdentity⟩

end Config
end PairedTls
