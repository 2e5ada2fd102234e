import PairedTls.Address
import PairedTls.Config.Basic
import PairedTls.Tls.Settings

namespace PairedTls

structure ServerOptions where
  handshakeTimeout : Duration
  requestTimeout : Duration
  sessionIdContext : Bool
  deriving DecidableEq, Repr

namespace ServerOptions

def ofConfig (c : ServerConfig) : ServerOptions :=
  ⟨c.handshakeTimeout, c.requestTimeout, c.sessionIdContext⟩

def default : ServerOptions := ofConfig Config.defaultServer

def debug (o : ServerOptions) : String :=
  Text.record "ServerOptions"
    [("handshake_timeout", o.handshakeTimeout.debug), ("request_timeout", o.requestTimeout.debug),
     ("session_id_context", Log.flagText o.sessionIdContext)] true

end ServerOptions

inductive BindError where
  | socket (text : String)
  | tls (error : TlsError)
  deriving DecidableEq, Repr

def BindError.kind : BindError → ErrorKind
  | .socket _ => .io
  | .tls _ => .tls

def BindError.message : BindError → String
  | .socket text => text
  | .tls error => error.message

structure Listener where
  address : SocketAddress
  config : TlsConfig
  options : ServerOptions
  deriving DecidableEq, Repr

namespace Listener

def target : String := "wolf_tls::tls::server"

def boundAddress (wanted : SocketAddress) (free : Nat) : SocketAddress :=
  if wanted.port = 0 then { wanted with port := free } else wanted

/-- Sessions are told apart by the address that was asked for and the port that was given. -/
def sessionContext (wanted bound : SocketAddress) (o : ServerOptions) : Option SessionContext :=
  if o.sessionIdContext then some (.ofListener wanted.ip.text (UInt16.ofNat bound.port)) else none

/-- `opened` is what the system says to opening a socket at the address: a free port, or why not. -/
def bind (wanted : SocketAddress) (opened : Except String Nat) (settings : TlsSettings) (o : ServerOptions) :
    Act BindError Listener := do
  let free ← match opened with
    | .ok free => pure free
    | .error text => throw (.socket text)
  let bound := boundAddress wanted free
  let config ← match TlsConfig.build settings (sessionContext wanted bound o) with
    | .ok config => pure config
    | .error e => throw (.tls e)
  Act.log ⟨.info, target, "HTTPS listener bound",
    [("addr", .shown bound.text), ("client_auth", .shown settings.clientAuth.name),
     ("handshake_timeout", .shown o.handshakeTimeout.debug), ("request_timeout", .shown o.requestTimeout.debug),
     ("session_id_context", .flag o.sessionIdContext)]⟩
  return ⟨bound, config, o⟩

end Listener
end PairedTls
