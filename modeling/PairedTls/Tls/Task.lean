import PairedTls.Idle
import PairedTls.Tls.Connection
import PairedTls.Tls.Failure
import PairedTls.Tls.Lifecycle
import PairedTls.Tls.Peer

namespace PairedTls

inductive HandshakeOutcome where
  | session (peer : PeerCertificate)
  | failed (fault : HandshakeFault)
  | timedOut
  deriving DecidableEq, Repr

def HandshakeOutcome.error? : HandshakeOutcome → Option ConnectionError
  | .session _ => none
  | .failed fault => some (.ofHandshake fault)
  | .timedOut => some .timeout

inductive ServingOutcome where
  | finished
  | failed (text : String)
  /-- The peer of an idle connection took no notice of its closing. -/
  | dropped
  deriving DecidableEq, Repr

def ServingOutcome.error? : ServingOutcome → Option ConnectionError
  | .failed text => some (.http text)
  | _ => none

namespace ConnectionTask

inductive Stage where
  | spawned
  | handshaking
  | decided (outcome : HandshakeOutcome)
  | unguarded (outcome : HandshakeOutcome)
  | registered (outcome : HandshakeOutcome)
  | admitted (outcome : HandshakeOutcome)
  | failed (error : ConnectionError)
  | established (peer : PeerCertificate)
  /-- Until requests end, shutdown is noticed or the connection is idle; `wake` is when it is looked at next. -/
  | serving (peer : PeerCertificate) (activity : IdleTracker) (wake : Instant)
  /-- Shutdown was noticed, and what was begun is brought to its end. -/
  | draining (peer : PeerCertificate)
  /-- The connection was idle and is being closed. -/
  | retiring (peer : PeerCertificate)
  | ending (guarded : Bool)
  | done
  /-- The deadline for idleness could not be computed, which ends the task where it stands. -/
  | unwinding
  | lost
  deriving DecidableEq, Repr

def Stage.guarded : Stage → Bool
  | .spawned | .handshaking | .decided _ | .admitted _ | .failed _ | .established _ | .serving .. | .draining _
  | .retiring _ | .unwinding => true
  | .ending guarded => guarded
  | .unguarded _ | .registered _ | .done | .lost => false

/-- What a task can do next; the outcomes are the peer's. -/
inductive Move where
  | start
  | abandon
  | decide (outcome : HandshakeOutcome)
  | release
  | register
  | test
  | settle
  | report
  | read (now : Instant)
  /-- A request begins or ends. -/
  | act (now : Instant) (activity : IdleTracker.Activity)
  | look (now : Instant)
  | drain
  | serve (outcome : ServingOutcome)
  | leave
  deriving DecidableEq, Repr

end ConnectionTask

/-- The guard from accepting is held until the handshake has an outcome; the outcome is acted on under a second one,
which is refused once shutdown has begun. -/
structure ConnectionTask where
  connection : Connection
  requestTimeout : Duration
  stage : ConnectionTask.Stage
  /-- Transitions that were asked for and refused. -/
  violations : List IllegalTransition
  deriving DecidableEq, Repr

namespace ConnectionTask

def spawned (info : ConnectionInfo) (requestTimeout : Duration) : ConnectionTask :=
  ⟨.accepted info, requestTimeout, .spawned, []⟩

def advance (t : ConnectionTask) (next : ConnectionState) : ConnectionTask :=
  match t.connection.advance next with
  | .ok connection => { t with connection := connection }
  | .error e => { t with violations := e :: t.violations }

def enter (t : ConnectionTask) (stage : Stage) : ConnectionTask :=
  { t with stage := stage }

/-- The task, the lifecycle and a failure to report after a step; none where the step cannot be taken. -/
def step? (l : Lifecycle) (t : ConnectionTask) :
    Move → Option (ConnectionTask × Lifecycle × Option ConnectionError)
  | .start =>
    match t.stage with
    | .spawned => some ((t.advance .handshaking).enter .handshaking, l, none)
    | _ => none
  | .abandon =>
    match t.stage with
    | .handshaking => if l.cancelled then some ((t.advance .closed).enter (.ending true), l, none) else none
    | _ => none
  | .decide outcome =>
    match t.stage with
    | .handshaking => some (t.enter (.decided outcome), l, none)
    | _ => none
  | .release =>
    match t.stage with
    | .decided outcome => some (t.enter (.unguarded outcome), l.release, none)
    | _ => none
  | .register =>
    match t.stage with
    | .unguarded outcome => some (t.enter (.registered outcome), l.register, none)
    | _ => none
  | .test =>
    match t.stage with
    | .registered outcome =>
      match l.test with
      | (true, l) => some (t.enter (.admitted outcome), l, none)
      | (false, l) => some ((t.advance .closed).enter (.ending false), l, none)
    | _ => none
  | .settle =>
    match t.stage with
    | .admitted (.session peer) => some ((t.advance .established).enter (.established peer), l, none)
    | .admitted (.failed fault) =>
      some ((t.advance .handshakeFailed).enter (.failed (.ofHandshake fault)), l, none)
    | .admitted .timedOut => some ((t.advance .handshakeFailed).enter (.failed .timeout), l, none)
    | _ => none
  | .report =>
    match t.stage with
    | .failed error => some ((t.advance .closed).enter (.ending true), l, some error)
    | _ => none
  | .read now =>
    match t.stage with
    | .established peer => some ((t.advance .reading).enter (.serving peer (.start now) now), l, none)
    | _ => none
  | .act now activity =>
    match t.stage with
    | .serving peer tracker wake => some (t.enter (.serving peer (tracker.apply now activity) wake), l, none)
    | _ => none
  | .look now =>
    match t.stage with
    | .serving peer tracker wake =>
      if wake.nanos ≤ now.nanos then
        match tracker.poll t.requestTimeout now with
        | .idle => some (t.enter (.retiring peer), l, none)
        | .sleepUntil time => some (t.enter (.serving peer tracker time), l, none)
        | .overflow => some (t.enter .unwinding, l, none)
      else none
    | _ => none
  | .drain =>
    match t.stage with
    | .serving peer _ _ => if l.cancelled then some (t.enter (.draining peer), l, none) else none
    | _ => none
  | .serve outcome =>
    match t.stage with
    | .serving .. | .draining _ =>
      if outcome = .dropped then none else some ((t.advance .closed).enter (.ending true), l, outcome.error?)
    | .retiring _ => some ((t.advance .closed).enter (.ending true), l, none)
    | _ => none
  | .leave =>
    match t.stage with
    | .ending guarded => some (t.enter .done, (if guarded then l.release else l).finish, none)
    | .unwinding => some (t.enter .lost, l.release.finish, none)
    | _ => none

end ConnectionTask
end PairedTls
