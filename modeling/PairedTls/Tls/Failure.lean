namespace PairedTls

/-- What a TLS library may report while a handshake runs. The text of the last two kinds is its own. -/
inductive TlsFault where
  | noCertificate
  | badCertificateEncoding
  | certificate (detail : String)
  | other (text : String)
  deriving DecidableEq, Repr

def TlsFault.message : TlsFault → String
  | .noCertificate => "peer sent no certificates"
  | .badCertificateEncoding => "invalid peer certificate: BadEncoding"
  | .certificate detail => "invalid peer certificate: " ++ detail
  | .other text => text

namespace TlsFault

def certificateDetails : List String :=
  ["Expired", "NotValidYet", "Revoked", "UnhandledCriticalExtension", "UnknownIssuer", "UnknownRevocationStatus",
   "ExpiredRevocationList", "BadSignature", "NotValidForName", "InvalidPurpose", "InvalidOcspResponse",
   "ApplicationVerificationFailure"]

def alerts : List String :=
  ["CloseNotify", "UnexpectedMessage", "BadRecordMac", "DecryptionFailed", "RecordOverflow",
   "DecompressionFailure", "HandshakeFailure", "NoCertificate", "BadCertificate", "UnsupportedCertificate",
   "CertificateRevoked", "CertificateExpired", "CertificateUnknown", "IllegalParameter", "UnknownCA",
   "AccessDenied", "DecodeError", "DecryptError", "ExportRestriction", "ProtocolVersion",
   "InsufficientSecurity", "InternalError", "InappropriateFallback", "UserCanceled", "NoRenegotiation",
   "MissingExtension", "UnsupportedExtension", "CertificateUnobtainable", "UnrecognisedName",
   "BadCertificateStatusResponse", "BadCertificateHashValue", "UnknownPSKIdentity", "CertificateRequired",
   "NoApplicationProtocol", "EncryptedClientHelloRequired"]

def plain : List (String × String) :=
  [("UnsupportedNameType", "presented server name type wasn't supported"),
   ("DecryptError", "cannot decrypt peer's message"),
   ("EncryptError", "cannot encrypt message"),
   ("PeerSentOversizedRecord", "peer sent excess record size"),
   ("HandshakeNotComplete", "handshake not complete"),
   ("NoApplicationProtocol", "peer doesn't support any known protocol"),
   ("FailedToGetCurrentTime", "failed to get current time"),
   ("FailedToGetRandomBytes", "failed to get random bytes"),
   ("BadMaxFragmentSize", "the supplied max_fragment_size was too small or large"),
   ("InvalidContentType", "received corrupt message of type InvalidContentType"),
   ("TooManyEmptyFragments", "peer misbehaved: TooManyEmptyFragments"),
   ("InappropriateMessage",
     "received unexpected message: got ApplicationData when expecting Handshake or Alert")]

def ofName? (name detail : String) : Option TlsFault :=
  if name = "NoCertificatesPresented" then some .noCertificate
  else if name = "BadEncoding" then some .badCertificateEncoding
  else if name = "General" then some (.other ("unexpected error: " ++ detail))
  else if certificateDetails.contains name then some (.certificate name)
  else
    match alerts.find? fun alert => "Alert" ++ alert == name with
    | some alert => some (.other ("received fatal alert: " ++ alert))
    | none => (plain.lookup name).map .other

end TlsFault

def socketKinds : List (String × String) :=
  [("AddrInUse", "address in use"), ("AddrNotAvailable", "address not available"),
   ("AlreadyExists", "entity already exists"), ("ArgumentListTooLong", "argument list too long"),
   ("BrokenPipe", "broken pipe"), ("ConnectionAborted", "connection aborted"),
   ("ConnectionRefused", "connection refused"), ("ConnectionReset", "connection reset"),
   ("Deadlock", "deadlock"), ("DirectoryNotEmpty", "directory not empty"),
   ("ExecutableFileBusy", "executable file busy"), ("FileTooLarge", "file too large"),
   ("HostUnreachable", "host unreachable"), ("Interrupted", "operation interrupted"),
   ("InvalidData", "invalid data"), ("InvalidInput", "invalid input parameter"),
   ("IsADirectory", "is a directory"), ("NetworkDown", "network down"),
   ("NetworkUnreachable", "network unreachable"), ("NotADirectory", "not a directory"),
   ("NotConnected", "not connected"), ("NotFound", "entity not found"), ("NotSeekable", "seek on unseekable file"),
   ("Other", "other error"), ("OutOfMemory", "out of memory"), ("PermissionDenied", "permission denied"),
   ("QuotaExceeded", "quota exceeded"), ("ReadOnlyFilesystem", "read-only filesystem or storage medium"),
   ("ResourceBusy", "resource busy"), ("StaleNetworkFileHandle", "stale network file handle"),
   ("StorageFull", "no storage space"), ("TimedOut", "timed out"), ("UnexpectedEof", "unexpected end of file"),
   ("Unsupported", "unsupported"), ("WouldBlock", "operation would block"), ("WriteZero", "write zero")]

/-- How the handshake of one connection went wrong: in the TLS layer, or in the socket below it. A TLS
fault that arrives wrapped inside another error counts as a fault of the socket. -/
inductive HandshakeFault where
  | tls (fault : TlsFault)
  | socket (text : String)
  deriving DecidableEq, Repr

inductive ConnectionError where
  | timeout
  | missingCertificate
  | badCertificate (text : String)
  | protocol (text : String)
  | socket (text : String)
  | http (text : String)
  deriving DecidableEq, Repr

namespace ConnectionError

def ofHandshake : HandshakeFault → ConnectionError
  | .socket text => .socket text
  | .tls .noCertificate => .missingCertificate
  | .tls .badCertificateEncoding => .badCertificate TlsFault.badCertificateEncoding.message
  | .tls fault => .protocol fault.message

def message : ConnectionError → String
  | .timeout => "TLS handshake timed out"
  | .missingCertificate => "client presented no certificate"
  | .badCertificate text => "client presented a malformed certificate: " ++ text
  | .protocol text => "TLS protocol error: " ++ text
  | .socket text => "I/O error during handshake: " ++ text
  | .http text => "HTTP error: " ++ text

def isTimeout : ConnectionError → Bool
  | .timeout => true
  | _ => false

def isHandshake : ConnectionError → Bool
  | .http _ => false
  | _ => true

end ConnectionError
end PairedTls
