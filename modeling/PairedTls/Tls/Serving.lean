import PairedTls.Api
import PairedTls.Tls.Handshake
import PairedTls.Tls.Listener
import PairedTls.Tls.Task

namespace PairedTls

namespace Listener

def outcome (l : Listener) (now : Int) (flight : ClientFlight) : HandshakeOutcome :=
  match Handshake.complete l.config now flight with
  | .ok session => .session session.peer
  | .error fault => .failed (.tls fault)

end Listener

namespace ConnectionTask

/-- Requests are answered only while the connection serves them, and each carries the certificate of the handshake. -/
def request? (t : ConnectionTask) (method : String) (path : Bytes) : Option Request :=
  match t.stage with
  | .serving peer _ _ | .draining peer | .retiring peer => some ⟨method, path, some peer⟩
  | _ => none

def answer? (t : ConnectionTask) (app : AppState) (method : String) (path : Bytes) : Option Response :=
  (t.request? method path).map (Api.answer app)

end ConnectionTask
end PairedTls
