import PairedTls.Tls.Listener
import PairedTls.Tls.Task

namespace PairedTls

namespace Server

inductive Stage where
  | waiting
  | accepted (peer : SocketAddress)
  | registered (peer : SocketAddress)
  | admitted (peer : SocketAddress)
  | leaving
  | draining
  | stopped
  deriving DecidableEq, Repr

inductive Move where
  | accept (peer : SocketAddress)
  /-- The loop pauses and goes on. -/
  | acceptFails
  | noticeShutdown
  | register
  | test
  | spawn
  /-- The loop has been left and begins a shutdown of its own. -/
  | leave
  | stop
  | task (id : Nat) (move : ConnectionTask.Move)
  | cancel
  | close
  deriving DecidableEq, Repr

end Server

/-- The accept loop with the tasks of its connections. -/
structure Server where
  address : SocketAddress
  requestTimeout : Duration
  stage : Server.Stage
  lifecycle : Lifecycle
  lastId : Nat
  /-- By id, the first connection first. -/
  tasks : List ConnectionTask
  /-- What was reported, the latest first. -/
  reports : List (ConnectionInfo × ConnectionError)
  deriving DecidableEq, Repr

namespace Server

def start (address : SocketAddress) (requestTimeout : Duration := ServerOptions.default.requestTimeout) : Server :=
  ⟨address, requestTimeout, .waiting, .start, 0, [], []⟩

def spawnTask (s : Server) (peer : SocketAddress) : Server :=
  let id := s.lastId + 1
  { s with
    stage := .waiting
    lifecycle := s.lifecycle.spawn
    lastId := id
    tasks := s.tasks ++ [.spawned ⟨id, peer, s.address⟩ s.requestTimeout] }

def taskStep? (s : Server) (id : Nat) (move : ConnectionTask.Move) : Option Server := do
  let t ← s.tasks[id - 1]?
  let (t, l, report) ← t.step? s.lifecycle move
  return { s with
    lifecycle := l
    tasks := s.tasks.set (id - 1) t
    reports := (report.map (t.connection.info, ·)).toList ++ s.reports }

def step? (s : Server) : Move → Option Server
  | .accept peer =>
    match s.stage with
    | .waiting => some { s with stage := .accepted peer }
    | _ => none
  | .acceptFails =>
    match s.stage with
    | .waiting => some s
    | _ => none
  | .noticeShutdown =>
    match s.stage with
    | .waiting => if s.lifecycle.cancelled then some { s with stage := .leaving } else none
    | _ => none
  | .register =>
    match s.stage with
    | .accepted peer => some { s with stage := .registered peer, lifecycle := s.lifecycle.register }
    | _ => none
  | .test =>
    match s.stage with
    | .registered peer =>
      match s.lifecycle.test with
      | (true, l) => some { s with stage := .admitted peer, lifecycle := l }
      | (false, l) => some { s with stage := .leaving, lifecycle := l }
    | _ => none
  | .spawn =>
    match s.stage with
    | .admitted peer => some (s.spawnTask peer)
    | _ => none
  | .leave =>
    match s.stage with
    | .leaving => some { s with stage := .draining, lifecycle := s.lifecycle.cancel }
    | _ => none
  | .stop =>
    match s.stage with
    | .draining => if s.lifecycle.waitEnds then some { s with stage := .stopped } else none
    | _ => none
  | .task id move => if id = 0 then none else s.taskStep? id move
  | .cancel => some { s with lifecycle := s.lifecycle.cancel }
  | .close => if s.lifecycle.cancelled then some { s with lifecycle := s.lifecycle.close } else none

def run? (s : Server) (moves : List Move) : Option Server :=
  moves.foldlM step? s

def reportEvent (info : ConnectionInfo) (error : ConnectionError) : Log.Event :=
  ⟨.warn, Listener.target, "Connection failed",
    [("conn", .number info.id), ("peer", .shown info.peer.text), ("error", .shown error.message)]⟩

def event (s : Server) (message : String) : Log.Event :=
  ⟨.info, Listener.target, message, [("addr", .shown s.address.text)]⟩

def events (s : Server) (move : Move) (after : Server) : List Log.Event :=
  match move with
  | .cancel => if s.lifecycle.cancelled then [] else [s.event "Shutdown requested"]
  | .leave => [s.event "Listener closed, draining connections"]
  | .stop => [s.event "HTTPS server stopped"]
  | .task .. =>
    (after.reports.take (after.reports.length - s.reports.length)).map fun (info, error) => reportEvent info error
  | _ => []

def logged? (s : Server) : List Move → Option (Server × List Log.Event)
  | [] => some (s, [])
  | move :: rest => do
    let t ← s.step? move
    let (last, later) ← t.logged? rest
    return (last, s.events move t ++ later)

def quietShutdown : List Move :=
  [.cancel, .close, .noticeShutdown, .leave, .stop]

end Server
end PairedTls
