import PairedTls.Address
import PairedTls.Text.Quoted

namespace PairedTls

inductive ConnectionState where
  | accepted
  | handshaking
  | established
  | handshakeFailed
  | reading
  | closed
  deriving DecidableEq, Repr

namespace ConnectionState

def all : List ConnectionState :=
  [.accepted, .handshaking, .established, .handshakeFailed, .reading, .closed]

def name : ConnectionState → String
  | .accepted => "Accepted"
  | .handshaking => "Handshaking"
  | .established => "Established"
  | .handshakeFailed => "HandshakeFailed"
  | .reading => "Reading"
  | .closed => "Closed"

def ofName? (s : String) : Option ConnectionState :=
  all.find? (·.name == s)

/-- Requests are served only after a handshake that succeeded, and closing is open to every state but the last. -/
def canAdvance : ConnectionState → ConnectionState → Bool
  | .accepted, .handshaking => true
  | .accepted, .closed => true
  | .handshaking, .established => true
  | .handshaking, .handshakeFailed => true
  | .handshaking, .closed => true
  | .established, .reading => true
  | .established, .closed => true
  | .handshakeFailed, .closed => true
  | .reading, .closed => true
  | _, _ => false

end ConnectionState

structure ConnectionInfo where
  id : Nat
  peer : SocketAddress
  listener : SocketAddress
  deriving DecidableEq, Repr

def ConnectionInfo.debug (i : ConnectionInfo) : String :=
  Text.record "ConnectionInfo"
    [("id", i.id.repr), ("peer_addr", i.peer.text), ("local_addr", i.listener.text)] false

structure Connection where
  info : ConnectionInfo
  state : ConnectionState
  deriving DecidableEq, Repr

structure IllegalTransition where
  id : Nat
  source : ConnectionState
  target : ConnectionState
  deriving DecidableEq, Repr

def IllegalTransition.message (e : IllegalTransition) : String :=
  "connection " ++ e.id.repr ++ ": illegal transition " ++ e.source.name ++ " -> " ++ e.target.name

namespace Connection

def accepted (info : ConnectionInfo) : Connection :=
  ⟨info, .accepted⟩

def advance (c : Connection) (next : ConnectionState) : Except IllegalTransition Connection :=
  if c.state.canAdvance next then .ok { c with state := next }
  else .error ⟨c.info.id, c.state, next⟩

def debug (c : Connection) : String :=
  Text.record "Connection" [("info", c.info.debug), ("state", c.state.name)] false

end Connection
end PairedTls
