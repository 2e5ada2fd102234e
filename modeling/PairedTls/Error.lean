import PairedTls.Files
import PairedTls.Pem.Envelope
import PairedTls.Pem.Section
import PairedTls.Tls.Failure

namespace PairedTls

inductive KeyFault where
  | envelope (fault : Pem.Envelope.Fault)
  | unknownKey
  deriving DecidableEq, Repr

def KeyFault.message : KeyFault → String
  | .envelope fault => "PEM error: " ++ fault.message
  | .unknownKey => "Could not parse key pair"

inductive IdentityError where
  | keyGeneration
  | key (fault : KeyFault)
  | unreadable (path : String) (fault : FileFault)
  | signing
  | certificate
  | certificatePem (fault : Pem.Fault)
  | publicKey
  | notRsa
  | wideExponent (bytes : Nat)
  | signatureAlgorithm (id : String)
  | signatureMismatch
  | openForWriting (path : String) (fault : FileFault)
  | writing (path : String) (fault : FileFault)
  deriving DecidableEq, Repr

def IdentityError.message : IdentityError → String
  | .keyGeneration => "RSA key generation failed: no suitable primes"
  | .key fault => "Failed to parse private key: " ++ fault.message
  | .unreadable path fault => "Cannot read '" ++ path ++ "': " ++ fault.message
  | .signing => "Certificate signing failed: the key does not sign"
  | .certificate => "Failed to parse certificate"
  | .certificatePem fault => "Failed to parse certificate PEM: " ++ fault.message
  | .publicKey => "Unreadable public key: invalid X.509 Subject Public Key Info"
  | .notRsa => "Public key is not RSA"
  | .wideExponent n => "RSA public exponent is " ++ n.repr ++ " bytes wide"
  | .signatureAlgorithm id => "Unsupported signature algorithm " ++ id
  | .signatureMismatch => "Certificate signature does not verify"
  | .openForWriting path fault => "Unable to open '" ++ path ++ "' for writing: " ++ fault.message
  | .writing path fault => "Unable to write '" ++ path ++ "' to disk: " ++ fault.message

inductive PemFileFault where
  | file (fault : FileFault)
  | content (fault : Pem.Fault)
  deriving DecidableEq, Repr

def PemFileFault.message : PemFileFault → String
  | .file fault => "I/O error: " ++ fault.message
  | .content fault => fault.message

inductive TlsError where
  | unreadableChain (path : String) (fault : PemFileFault)
  | badChain (path : String) (fault : PemFileFault)
  | emptyChain (path : String)
  | badKey (path : String) (fault : PemFileFault)
  | mismatch
  deriving DecidableEq, Repr

def TlsError.message : TlsError → String
  | .unreadableChain path fault => "Cannot read '" ++ path ++ "': " ++ fault.message
  | .badChain path fault => "Failed to parse certs from '" ++ path ++ "': " ++ fault.message
  | .emptyChain path => "No certificates found in '" ++ path ++ "'"
  | .badKey path fault => "Failed to load private key from '" ++ path ++ "': " ++ fault.message
  | .mismatch => "TLS config error (cert/key mismatch?)"

inductive ErrorKind where
  | config
  | identity
  | tls
  | connection
  | io
  | internal
  deriving DecidableEq, Repr

def ErrorKind.render : ErrorKind → String → String
  | .config, text => "Configuration error: " ++ text
  | .identity, text => "Identity error: " ++ text
  | .tls, text => "TLS error: " ++ text
  | .connection, text => "Connection error: " ++ text
  | .io, text => "IO error: " ++ text
  | .internal, text => "Internal error: " ++ text

/-- Whether an error of this kind means that there is no usable identity. -/
def ErrorKind.isIdentity : ErrorKind → Bool
  | .identity => true
  | _ => false

end PairedTls
